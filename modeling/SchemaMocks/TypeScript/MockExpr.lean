import SchemaMocks.Config.Basic
import SchemaMocks.Json.Printer
import SchemaMocks.Source.Basic
import SchemaMocks.TypeScript.Literal

set_option autoImplicit false
set_option relaxedAutoImplicit false

/-!
The expressions that generated factories write for the values of fields. Each source of mocks has
its expression; optional fields toss a coin between it and null, and lists repeat it or pick some of
the options.
-/

namespace SchemaMocks.TypeScript

/-- An expression for a mock value. -/
inductive MockExpr where
  | null
  | emptyList
  /-- Code that is the same wherever it is used. -/
  | code (text : String)
  /-- Code taken from the documentation as it stands. -/
  | verbatim (text : String)
  | text (value : String)
  | date (value : String)
  | number (value : Json.Number)
  | bigInt (value : Json.Number)
  | flag (value : Bool)
  | json (values : List Json)
  | between (fractional : Bool) (min max : Finite64)
  | matching (pattern : String)
  | oneOf (options : List String)
  | someOf (options : List String)
  | recentDate (days : UInt32)
  | repeated (element : MockExpr)
  | maybe (value : MockExpr)
  deriving DecidableEq

namespace MockExpr

def render : MockExpr → String
  | null => "null"
  | emptyList => "[]"
  | code fixed => fixed
  | verbatim written => written
  | text value => quote value
  | date value => "new Date(" ++ quote value ++ ")"
  | number value => value.text
  | bigInt value => "BigInt(" ++ value.text ++ ")"
  | flag value => if value then "true" else "false"
  | json values => (Json.array values).compact
  | between fractional min max =>
    "faker.number." ++ (if fractional then "float" else "int") ++ "(\x7b min: "
      ++ numberLiteral (.finite min) ++ ", max: " ++ numberLiteral (.finite max) ++ " \x7d)"
  | matching pattern => "faker.helpers.fromRegExp(" ++ quote pattern ++ ")"
  | oneOf options => "faker.helpers.arrayElement(" ++ quotedList options ++ ")"
  | someOf options =>
    "faker.helpers.arrayElements(" ++ quotedList options ++ ", \x7b min: 1, max: "
      ++ toString options.length ++ " \x7d)"
  | recentDate days => "faker.date.recent(\x7b days: " ++ toString days.toNat ++ " \x7d)"
  | repeated element => repeatText element.render
  | maybe value => "faker.datatype.boolean() ? " ++ value.render ++ " : null"

def ofDirective (scalar : Option ScalarType) : Directive → MockExpr
  | .faker expression => verbatim expression
  | .fixed value => verbatim value
  | .range min max => between (scalar.any ScalarType.isFractional) min max
  | .pattern pattern => matching pattern
  | .enum options => if options.isEmpty then null else oneOf options
  | .relationDepth _ => null

/-- The expression of a directive on a list: some of the options, an array as it is written, or the
single expression repeated. -/
def ofListDirective (scalar : Option ScalarType) : Directive → MockExpr
  | .enum options => if options.isEmpty then emptyList else someOf options
  | .fixed value =>
    if Directive.isArrayLiteral value then verbatim value
    else repeated (ofDirective scalar (.fixed value))
  | .relationDepth _ => null
  | d => repeated (ofDirective scalar d)

def ofDefault (scalar : Option ScalarType) : DefaultMock → MockExpr
  | .now => code "new Date()"
  | .cuid =>
    code "`c$\x7bfaker.string.alphanumeric(\x7b length: 24, casing: 'lower' \x7d)\x7d`"
  | .uuid => code "faker.string.uuid()"
  | .autoincrement => code "faker.number.int(\x7b min: 1, max: 100000 \x7d)"
  | .nanoid => code "faker.string.nanoid()"
  | .ulid => code "faker.string.ulid()"
  | .auto => code "faker.database.mongodbObjectId()"
  | .string value => if scalar = some .dateTime then date value else text value
  | .number value => if scalar = some .bigInt then bigInt value else number value
  | .bool value => flag value
  | .list values => json values

def ofType (config : GeneratorConfig) : ScalarType → MockExpr
  | .string => code "faker.string.alpha(10)"
  | .int => code "faker.number.int(\x7b min: 1, max: 1000 \x7d)"
  | .float | .decimal => code "faker.number.float(\x7b min: 0, max: 1000, fractionDigits: 2 \x7d)"
  | .boolean => code "faker.datatype.boolean()"
  | .dateTime => recentDate config.mockDateRange
  | .bigInt => code "BigInt(faker.number.int(\x7b min: 1, max: 1000000 \x7d))"
  | .json =>
    code "\x7b key: faker.string.alpha(5), value: faker.number.int(\x7b min: 1, max: 100 \x7d) \x7d"
  | .bytes => code "Buffer.from(faker.string.alphanumeric(32))"

def ofSemantic (config : GeneratorConfig) (scalar : ScalarType) (fieldName : String) :
    SemanticType → MockExpr
  | .email => code "faker.internet.email()"
  | .phone => code "faker.phone.number()"
  | .address =>
    let name := Text.lowered fieldName
    if Text.contains name "city" then code "faker.location.city()"
    else if Text.contains name "zip" || Text.contains name "postal" then
      code "faker.location.zipCode()"
    else code "faker.location.streetAddress()"
  | .image =>
    if Text.contains (Text.lowered fieldName) "avatar" then code "faker.image.avatar()"
    else code "faker.image.url()"
  | .url => code "faker.internet.url()"
  | .description => code "faker.lorem.paragraph()"
  | .title => code "faker.lorem.sentence()"
  | .date =>
    if Text.contains (Text.lowered fieldName) "birth" then code "faker.date.birthdate()"
    else recentDate config.mockDateRange
  | .price =>
    if scalar.isFractional then code "parseFloat(faker.commerce.price())"
    else code "parseInt(faker.commerce.price(), 10)"
  | .country => code "faker.location.country()"
  | .company => code "faker.company.name()"
  | .person =>
    let name := Text.lowered fieldName
    if Text.contains name "first" then code "faker.person.firstName()"
    else if Text.contains name "last" then code "faker.person.lastName()"
    else code "faker.person.fullName()"
  | .unknown => ofType config scalar

def ofSource (config : GeneratorConfig) (field : Field) : MockSource → MockExpr
  | .directive d => ofDirective field.scalar? d
  | .default d => ofDefault field.scalar? d
  | .semantic s scalar => ofSemantic config scalar field.name s
  | .typeDefault scalar => ofType config scalar
  | .placeholder => null

def isOptionalSource (field : Field) : MockSource → Bool
  | .default _ | .placeholder => false
  | _ => !field.isRequired

def underCoin (field : Field) (source : MockSource) (value : MockExpr) : MockExpr :=
  if isOptionalSource field source then maybe value else value

/-- The expression of a scalar field with a source, before the coin of an optional field. -/
def scalarValue (config : GeneratorConfig) (field : Field) (source : MockSource) : MockExpr :=
  if field.isList then
    match source with
    | .directive d => ofListDirective field.scalar? d
    | .semantic .. | .typeDefault _ => repeated (ofSource config field source)
    | _ => ofSource config field source
  else ofSource config field source

def ofScalarField (config : GeneratorConfig) (field : Field) : MockExpr :=
  let source := field.scalarSource
  underCoin field source (scalarValue config field source)

/-- The expression of an enum field with a source that the document states. -/
def enumValue (field : Field) : MockSource → MockExpr
  | .directive d => if field.isList then ofListDirective none d else ofDirective none d
  | .default d => ofDefault none d
  | _ => null

def ofDeclared (field : Field) (e : Option EnumType) : MockExpr :=
  match e.map EnumType.valueNames with
  | none | some [] => null
  | some names =>
    let value := if field.isList then someOf names else oneOf names
    if field.isRequired then value else maybe value

def ofEnumField (doc : Document) (field : Field) : MockExpr :=
  match field.explicitSource? with
  | some source => underCoin field source (enumValue field source)
  | none => ofDeclared field (doc.enum? field.typeName)

end MockExpr

end SchemaMocks.TypeScript
