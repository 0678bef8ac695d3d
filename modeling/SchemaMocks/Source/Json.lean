import SchemaMocks.Json.Decode
import SchemaMocks.Source.Basic

set_option autoImplicit false
set_option relaxedAutoImplicit false

/-!
The JSON form of directives, default mocks and mock sources. Directives and sources carry their kind
among their own entries; default mocks pair their kind with a value.
-/

namespace SchemaMocks

open Fields

def ScalarType.decode : Decoder ScalarType :=
  Decoder.enumeration (ScalarType.all.map fun t => (t.name, t))

namespace Directive

def decode : Decoder Directive :=
  Decoder.tagged "MockAnnotation" "kind" [
    ("faker", Fields.payload (faker <$> required "expression" Decoder.string)
      "struct variant MockAnnotation::Faker"),
    ("fixed", Fields.payload (fixed <$> required "value" Decoder.string)
      "struct variant MockAnnotation::Fixed"),
    ("range", Fields.payload
      (range <$> required "min" Decoder.finite64 <*> required "max" Decoder.finite64)
      "struct variant MockAnnotation::Range"),
    ("pattern", Fields.payload (pattern <$> required "pattern" Decoder.string)
      "struct variant MockAnnotation::Pattern"),
    ("enum", Fields.payload (enum <$> required "options" (Decoder.list Decoder.string))
      "struct variant MockAnnotation::Enum"),
    ("relationDepth", Fields.payload (relationDepth <$> required "depth" Decoder.word32)
      "struct variant MockAnnotation::RelationDepth")]

def toJson : Directive → Json
  | faker expression =>
    .object [("kind", .string "faker"), ("expression", .string expression)]
  | fixed value => .object [("kind", .string "fixed"), ("value", .string value)]
  | range min max =>
    .object [("kind", .string "range"), ("min", .number (.decimal min)),
      ("max", .number (.decimal max))]
  | pattern p => .object [("kind", .string "pattern"), ("pattern", .string p)]
  | enum options => .object [("kind", .string "enum"), ("options", Json.strings options)]
  | relationDepth depth =>
    .object [("kind", .string "relationDepth"), ("depth", .nat depth.toNat)]

end Directive

namespace DefaultMock

/-- A kind without a value: null is all that may stand in its place. -/
def bare (value : DefaultMock) (variant : String) :
    Decoder DefaultMock × Option DefaultMock :=
  (fun j =>
    match j with
    | .null => .ok value
    | other => .error (.wrongType other ("unit variant DefaultMock::" ++ variant)),
  some value)

def decode : Decoder DefaultMock :=
  Decoder.tagAndContent "DefaultMock" "kind" "value" [
    ("now", bare now "Now"),
    ("cuid", bare cuid "Cuid"),
    ("uuid", bare uuid "Uuid"),
    ("autoincrement", bare autoincrement "Autoincrement"),
    ("nanoid", bare nanoid "Nanoid"),
    ("ulid", bare ulid "Ulid"),
    ("auto", bare auto "Auto"),
    ("string", fun j => (Decoder.string j).map string, none),
    ("number", fun j => (Decoder.number j).map number, none),
    ("bool", fun j => (Decoder.bool j).map bool, none),
    ("list", fun j => (Decoder.list Decoder.any j).map list, none)]

def kind : DefaultMock → String
  | now => "now"
  | cuid => "cuid"
  | uuid => "uuid"
  | autoincrement => "autoincrement"
  | nanoid => "nanoid"
  | ulid => "ulid"
  | auto => "auto"
  | string _ => "string"
  | number _ => "number"
  | bool _ => "bool"
  | list _ => "list"

def value? : DefaultMock → Option Json
  | string value => some (.string value)
  | number value => some (.number value)
  | bool value => some (.bool value)
  | list values => some (.array values)
  | _ => none

def toJson (d : DefaultMock) : Json :=
  .object (("kind", .string d.kind) ::
    match d.value? with
    | some j => [("value", j)]
    | none => [])

end DefaultMock

namespace MockSource

def decode : Decoder MockSource :=
  Decoder.tagged "MockSource" "source" [
    ("annotation", Fields.payload (directive <$> required "annotation" Directive.decode)
      "struct variant MockSource::Annotation"),
    ("default", Fields.payload (default <$> required "default" DefaultMock.decode)
      "struct variant MockSource::Default"),
    ("semantic", Fields.payload
      (semantic <$> required "semantic" SemanticType.decode
        <*> required "scalar" ScalarType.decode)
      "struct variant MockSource::Semantic"),
    ("typeDefault", Fields.payload (typeDefault <$> required "scalar" ScalarType.decode)
      "struct variant MockSource::TypeDefault"),
    ("placeholder", Decoder.noContent placeholder "unit variant MockSource::Placeholder")]

def toJson : MockSource → Json
  | directive d => .object [("source", .string "annotation"), ("annotation", d.toJson)]
  | default d => .object [("source", .string "default"), ("default", d.toJson)]
  | semantic s scalar =>
    .object [("source", .string "semantic"), ("semantic", .string s.label),
      ("scalar", .string scalar.name)]
  | typeDefault scalar =>
    .object [("source", .string "typeDefault"), ("scalar", .string scalar.name)]
  | placeholder => .object [("source", .string "placeholder")]

end MockSource

end SchemaMocks
