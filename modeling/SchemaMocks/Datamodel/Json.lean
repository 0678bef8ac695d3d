import SchemaMocks.Datamodel.Basic
import SchemaMocks.Digest.Sha256
import SchemaMocks.Json.Decode
import SchemaMocks.Json.Printer

set_option autoImplicit false
set_option relaxedAutoImplicit false

/-!
The JSON form of documents: decoders, and encoders that write the keys in declaration order. Absent
texts of a field are left out; other absent parts are null. The fingerprint of a document is the
digest of its encoded models, enums and types.
-/

namespace SchemaMocks

open Fields

def FieldKind.names : List (String × FieldKind) :=
  [("scalar", .scalar), ("object", .relation), ("enum", .enum), ("unsupported", .unsupported)]

def FieldKind.name : FieldKind → String
  | .scalar => "scalar"
  | .relation => "object"
  | .enum => "enum"
  | .unsupported => "unsupported"

def FieldKind.decode : Decoder FieldKind :=
  Decoder.enumeration FieldKind.names

namespace FieldDefault

def decodeFunction : Decoder FieldDefault :=
  Fields.decoder
    (FieldDefault.function
      <$> required "name" Decoder.string
      <*> withDefault "args" (Decoder.list Decoder.any) [])
    "struct DefaultFunction"

/-- Reads a default: the first form that fits, a call first. A call may be an array of its name and
its arguments, so some arrays are calls and not lists. -/
def decode : Decoder FieldDefault :=
  Decoder.firstOf "FieldDefault" [
    decodeFunction,
    fun j => (Decoder.string j).map FieldDefault.string,
    fun j => (Decoder.number j).map FieldDefault.number,
    fun j => (Decoder.bool j).map FieldDefault.bool,
    fun j => (Decoder.list Decoder.any j).map FieldDefault.list]

def toJson : FieldDefault → Json
  | .function name args => .object [("name", .string name), ("args", .array args)]
  | .string value => .string value
  | .number value => .number value
  | .bool value => .bool value
  | .list values => .array values

end FieldDefault

namespace Json

def optionalString (s : Option String) : Json :=
  ofOption (s.map string)

/-- An entry that is left out where there is no value. -/
def entryOf (key : String) (value : Option Json) : List (String × Json) :=
  match value with
  | some j => [(key, j)]
  | none => []

end Json

namespace Field

def decode : Decoder Field :=
  Fields.decoder
    (Field.mk
      <$> required "name" Decoder.string
      <*> required "kind" FieldKind.decode
      <*> required "type" Decoder.string
      <*> withDefault "isList" Decoder.bool false
      <*> withDefault "isRequired" Decoder.bool true
      <*> withDefault "isUnique" Decoder.bool false
      <*> withDefault "isId" Decoder.bool false
      <*> withDefault "isReadOnly" Decoder.bool false
      <*> withDefault "hasDefaultValue" Decoder.bool false
      <*> optional "default" FieldDefault.decode
      <*> optional "relationName" Decoder.string
      <*> withDefault "relationFromFields" (Decoder.list Decoder.string) []
      <*> withDefault "relationToFields" (Decoder.list Decoder.string) []
      <*> optional "documentation" Decoder.string
      <*> withDefault "isGenerated" Decoder.bool false
      <*> withDefault "isUpdatedAt" Decoder.bool false)
    "struct Field"

def toJson (field : Field) : Json :=
  .object (
    [("name", .string field.name),
      ("kind", .string field.kind.name),
      ("type", .string field.typeName),
      ("isList", .bool field.isList),
      ("isRequired", .bool field.isRequired),
      ("isUnique", .bool field.isUnique),
      ("isId", .bool field.isId),
      ("isReadOnly", .bool field.isReadOnly),
      ("hasDefaultValue", .bool field.hasDefault)]
    ++ Json.entryOf "default" (field.defaultValue.map FieldDefault.toJson)
    ++ Json.entryOf "relationName" (field.relationName.map Json.string)
    ++ [("relationFromFields", Json.strings field.relationFromFields),
      ("relationToFields", Json.strings field.relationToFields)]
    ++ Json.entryOf "documentation" (field.documentation.map Json.string)
    ++ [("isGenerated", .bool field.isGenerated),
      ("isUpdatedAt", .bool field.isUpdatedAt)])

end Field

namespace Model

def decode : Decoder Model :=
  Fields.decoder
    (Model.mk
      <$> required "name" Decoder.string
      <*> optional "dbName" Decoder.string
      <*> withDefault "fields" (Decoder.list Field.decode) []
      <*> optional "documentation" Decoder.string
      <*> optional "primaryKey" Decoder.any
      <*> withDefault "uniqueFields" (Decoder.list (Decoder.list Decoder.string)) [])
    "struct Model"

def toJson (model : Model) : Json :=
  .object [
    ("name", .string model.name),
    ("dbName", Json.optionalString model.dbName),
    ("fields", .array (model.fields.map Field.toJson)),
    ("documentation", Json.optionalString model.documentation),
    ("primaryKey", Json.ofOption model.primaryKey),
    ("uniqueFields", .array (model.uniqueFields.map Json.strings))]

end Model

namespace EnumValue

def decode : Decoder EnumValue :=
  Fields.decoder
    (EnumValue.mk
      <$> required "name" Decoder.string
      <*> optional "dbName" Decoder.string)
    "struct EnumValue"

def toJson (value : EnumValue) : Json :=
  .object [("name", .string value.name), ("dbName", Json.optionalString value.dbName)]

end EnumValue

namespace EnumType

def decode : Decoder EnumType :=
  Fields.decoder
    (EnumType.mk
      <$> required "name" Decoder.string
      <*> withDefault "values" (Decoder.list EnumValue.decode) []
      <*> optional "dbName" Decoder.string
      <*> optional "documentation" Decoder.string)
    "struct DatamodelEnum"

def toJson (e : EnumType) : Json :=
  .object [
    ("name", .string e.name),
    ("values", .array (e.values.map EnumValue.toJson)),
    ("dbName", Json.optionalString e.dbName),
    ("documentation", Json.optionalString e.documentation)]

end EnumType

namespace Document

def decodeDatamodel : Decoder Document :=
  Fields.decoder
    (Document.mk
      <$> withDefault "models" (Decoder.list Model.decode) []
      <*> withDefault "enums" (Decoder.list EnumType.decode) []
      <*> withDefault "types" (Decoder.list Model.decode) [])
    "struct Datamodel"

def decode : Decoder Document :=
  Fields.decoder (id <$> required "datamodel" decodeDatamodel) "struct Document"

def datamodelJson (doc : Document) : Json :=
  .object [
    ("models", .array (doc.models.map Model.toJson)),
    ("enums", .array (doc.enums.map EnumType.toJson)),
    ("types", .array (doc.types.map Model.toJson))]

def toJson (doc : Document) : Json :=
  .object [("datamodel", doc.datamodelJson)]

def serialized (doc : Document) : String :=
  doc.datamodelJson.compact

def fingerprint (doc : Document) : String :=
  Text.hex (Sha256.digest doc.serialized.toUTF8.toList)

end Document

end SchemaMocks
