import SchemaMocks.Directive.Reader
import SchemaMocks.Semantics

set_option autoImplicit false
set_option relaxedAutoImplicit false

/-!
Where the mock of a field comes from. A directive comes first, then a usable default, then the
meaning of the name where it fits the type, then the type itself; a field of unknown type gets a
placeholder.
-/

namespace SchemaMocks

/-- A default that mocks can follow. -/
inductive DefaultMock where
  | now
  | cuid
  | uuid
  | autoincrement
  | nanoid
  | ulid
  | auto
  | string (value : String)
  | number (value : Json.Number)
  | bool (value : Bool)
  | list (values : List Json)
  deriving DecidableEq

def DefaultMock.functions : List (String × DefaultMock) := [
  ("now", now), ("cuid", cuid), ("uuid", uuid), ("autoincrement", autoincrement),
  ("nanoid", nanoid), ("ulid", ulid), ("auto", auto)]

/-- The mock of a default; other functions have none. -/
def DefaultMock.ofDefault? : FieldDefault → Option DefaultMock
  | .function name _ => Entries.get? name functions
  | .string value => some (string value)
  | .number value => some (number value)
  | .bool value => some (bool value)
  | .list values => some (list values)

/-- The rule that a mock comes from. -/
inductive MockSource where
  | directive (d : Directive)
  | default (d : DefaultMock)
  | semantic (s : SemanticType) (scalar : ScalarType)
  | typeDefault (scalar : ScalarType)
  | placeholder
  deriving DecidableEq

namespace MockSource

def label : MockSource → String
  | directive _ => "annotation"
  | default _ => "default"
  | semantic _ _ => "semantic"
  | typeDefault _ => "typeDefault"
  | placeholder => "placeholder"

end MockSource

namespace Field

/-- The source that the document states: a directive about values, or a usable default. -/
def explicitSource? (field : Field) : Option MockSource :=
  match field.directive? with
  | some (.relationDepth _) | none =>
    (field.defaultValue.bind DefaultMock.ofDefault?).map MockSource.default
  | some d => some (.directive d)

def scalarSource (field : Field) : MockSource :=
  match field.explicitSource? with
  | some source => source
  | none =>
    match field.scalar? with
    | none => .placeholder
    | some scalar =>
      let semantic := SemanticType.ofName field.name
      if semantic.accepts scalar then .semantic semantic scalar else .typeDefault scalar

end Field

end SchemaMocks
