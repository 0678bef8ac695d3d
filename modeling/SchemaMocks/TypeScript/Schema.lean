import SchemaMocks.Config.Basic
import SchemaMocks.Datamodel.Basic
import SchemaMocks.Text.Case
import SchemaMocks.TypeScript.Literal

set_option autoImplicit false
set_option relaxedAutoImplicit false

/-!
Validation schemas of models. Each field of a supported kind has a member; related models are
referred to lazily and in part, so that schemas may refer to each other in any order. Input schemas
leave out what the database fills in.
-/

namespace SchemaMocks

def Model.schemaFields (model : Model) : List Field :=
  model.fields.filter fun field => field.kind != .unsupported

/-- The known models, other than itself, that a model points at, in ascending order. -/
def Model.relatedNames (model : Model) (doc : Document) : List String :=
  let names := model.relationFields.filterMap fun field => (doc.target? field).map (·.name)
  sortedDistinct (names.filter fun name => name != model.name)

namespace TypeScript

inductive TextCheck where
  | email
  | url
  | cuid
  | uuid
  deriving DecidableEq

def TextCheck.render : TextCheck → String
  | email => ".email()"
  | url => ".url()"
  | cuid => ".cuid()"
  | uuid => ".uuid()"

inductive SchemaExpr where
  | unknown
  | string (checks : List TextCheck)
  | int
  | number
  | boolean
  | date (coerced : Bool)
  | bigInt
  | buffer
  | nativeEnum (name : String)
  | related (model : String)
  | array (element : SchemaExpr)
  | nullable (inner : SchemaExpr)
  | optional (inner : SchemaExpr)
  deriving DecidableEq

namespace SchemaExpr

def render : SchemaExpr → String
  | unknown => "z.unknown()"
  | string checks => "z.string()" ++ String.join (checks.map TextCheck.render)
  | int => "z.number().int()"
  | number => "z.number()"
  | boolean => "z.boolean()"
  | date coerced => if coerced then "z.coerce.date()" else "z.date()"
  | bigInt => "z.bigint()"
  | buffer => "z.instanceof(Buffer)"
  | nativeEnum name => "z.nativeEnum(" ++ name ++ ")"
  | related model => "z.lazy((): z.ZodTypeAny => " ++ model ++ "Schema.partial())"
  | array element => "z.array(" ++ element.render ++ ")"
  | nullable inner => inner.render ++ ".nullable()"
  | optional inner => inner.render ++ ".optional()"

/-- The checks on a text field: what its name contains, and the function that makes its key. -/
def textChecks (config : GeneratorConfig) (field : Field) : List TextCheck :=
  if config.useDefaultValidators then
    let name := Text.lowered field.name
    (if Text.contains name "email" then [.email] else [])
      ++ (if Text.contains name "url" then [.url] else [])
      ++ (if field.isId then
          match field.defaultFunction? with
          | some "cuid" => [.cuid]
          | some "uuid" => [.uuid]
          | _ => []
        else [])
  else []

def ofScalar (config : GeneratorConfig) (field : Field) : ScalarType → SchemaExpr
  | .string => string (textChecks config field)
  | .int => int
  | .float | .decimal => number
  | .boolean => boolean
  | .dateTime => date config.coerceDate
  | .json => unknown
  | .bigInt => bigInt
  | .bytes => buffer

def element (config : GeneratorConfig) (doc : Document) (field : Field) : SchemaExpr :=
  match field.kind with
  | .enum => if (doc.enum? field.typeName).isSome then nativeEnum field.typeName else unknown
  | .scalar => (field.scalar?.map (ofScalar config field)).getD unknown
  | .relation => ((doc.target? field).map fun target => related target.name).getD unknown
  | .unsupported => unknown

def ofField (config : GeneratorConfig) (doc : Document) (field : Field) : SchemaExpr :=
  let single := element config doc field
  let whole := if field.isList then array single else single
  let whole := if field.isRequired then whole else nullable whole
  if field.hasDefault then optional whole else whole

end SchemaExpr

structure ModelSchema where
  model : String
  members : List (String × SchemaExpr)
  declaresTypes : Bool
  /-- The keys that the input schemas leave out, where there are input schemas. -/
  inputOmits : Option (List String)
  hasPartial : Bool
  deriving DecidableEq

namespace ModelSchema

def isOmitted (field : Field) : Bool :=
  field.isRelation || (field.isId && field.hasDefault) || field.isUpdatedAt

def ofModel (config : GeneratorConfig) (doc : Document) (model : Model) : ModelSchema where
  model := model.name
  members := model.schemaFields.map fun field => (field.name, SchemaExpr.ofField config doc field)
  declaresTypes := config.createModelTypes
  inputOmits :=
    if config.createInputTypes then some ((model.schemaFields.filter isOmitted).map (·.name))
    else none
  hasPartial := config.createPartialTypes

def typeLine (name schema : String) : String :=
  "export type " ++ name ++ " = z.infer<typeof " ++ schema ++ ">;"

def objectLines (s : ModelSchema) : List String :=
  ["export const " ++ s.model ++ "Schema = z.object(\x7b"]
    ++ s.members.map (fun (name, schema) => "  " ++ name ++ ": " ++ schema.render ++ ",")
    ++ ["\x7d);"]
    ++ (if s.declaresTypes then ["", typeLine s.model (s.model ++ "Schema")] else [])

def inputLines (s : ModelSchema) : List String :=
  match s.inputOmits with
  | none => []
  | some omits =>
    let keys := ", ".intercalate (omits.map fun key => key ++ ": true")
    let picked := if omits.isEmpty then "" else ".omit(\x7b " ++ keys ++ " \x7d)"
    ["", "export const " ++ s.model ++ "CreateInputSchema = " ++ s.model ++ "Schema" ++ picked ++ ";",
      "export const " ++ s.model ++ "UpdateInputSchema = " ++ s.model
        ++ "CreateInputSchema.partial();"]
      ++ (if s.declaresTypes then
          [typeLine (s.model ++ "CreateInput") (s.model ++ "CreateInputSchema"),
            typeLine (s.model ++ "UpdateInput") (s.model ++ "UpdateInputSchema")]
        else [])

def partialLines (s : ModelSchema) : List String :=
  if s.hasPartial then
    ["", "export const " ++ s.model ++ "PartialSchema = " ++ s.model ++ "Schema.partial();"]
      ++ (if s.declaresTypes then [typeLine (s.model ++ "Partial") (s.model ++ "PartialSchema")]
        else [])
  else []

def render (s : ModelSchema) : String :=
  "\n".intercalate (s.objectLines ++ s.inputLines ++ s.partialLines)

end ModelSchema

/-- The text of an enum: an object of its values and the union of them. -/
def renderEnum (e : EnumType) : String :=
  "\n".intercalate (
    ["export const " ++ e.name ++ " = \x7b"]
    ++ e.valueNames.map (fun value => "  " ++ value ++ ": " ++ quote value ++ ",")
    ++ ["\x7d as const;", "",
      "export type " ++ e.name ++ " = (typeof " ++ e.name ++ ")[keyof typeof " ++ e.name ++ "];"])

end TypeScript

end SchemaMocks
