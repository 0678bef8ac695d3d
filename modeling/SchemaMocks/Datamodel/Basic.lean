import SchemaMocks.Datamodel.Scalar
import SchemaMocks.Json.Basic
import SchemaMocks.Text.Blank
import SchemaMocks.Text.Search

set_option autoImplicit false
set_option relaxedAutoImplicit false

/-!
Documents: models with typed fields, and enums. Look-up by name finds the first item of the name.
-/

namespace SchemaMocks

/-- What the type of a field names: a scalar type, another model, an enum, or nothing usable. -/
inductive FieldKind where
  | scalar
  | relation
  | enum
  | unsupported
  deriving DecidableEq

/-- The default of a field: a call of a named function, or a static value. -/
inductive FieldDefault where
  | function (name : String) (args : List Json)
  | string (value : String)
  | number (value : Json.Number)
  | bool (value : Bool)
  | list (values : List Json)
  deriving DecidableEq

structure Field where
  name : String
  kind : FieldKind
  typeName : String
  isList : Bool
  isRequired : Bool
  isUnique : Bool
  isId : Bool
  isReadOnly : Bool
  hasDefault : Bool
  defaultValue : Option FieldDefault
  relationName : Option String
  relationFromFields : List String
  relationToFields : List String
  documentation : Option String
  isGenerated : Bool
  isUpdatedAt : Bool
  deriving DecidableEq

/-- A named record of fields. -/
structure Model where
  name : String
  dbName : Option String
  fields : List Field
  documentation : Option String
  primaryKey : Option Json
  uniqueFields : List (List String)
  deriving DecidableEq

structure EnumValue where
  name : String
  dbName : Option String
  deriving DecidableEq

structure EnumType where
  name : String
  values : List EnumValue
  dbName : Option String
  documentation : Option String
  deriving DecidableEq

/-- A data model. Composite types are carried along and nothing is generated for them. -/
structure Document where
  models : List Model
  enums : List EnumType
  types : List Model
  deriving DecidableEq

namespace Field

def isRelation (field : Field) : Bool :=
  field.kind == .relation

def scalar? (field : Field) : Option ScalarType :=
  ScalarType.ofName? field.typeName

def documentationLines (field : Field) : List String :=
  let lines := (Text.pieces '\n' (field.documentation.getD "").toList).map Text.trim
  (lines.filter fun line => !line.isEmpty).map String.ofList

def defaultFunction? (field : Field) : Option String :=
  match field.defaultValue with
  | some (.function name _) => some name
  | _ => none

end Field

namespace Model

def idField? (model : Model) : Option Field :=
  model.fields.find? (·.isId)

def relationFields (model : Model) : List Field :=
  model.fields.filter (·.isRelation)

def field? (model : Model) (name : String) : Option Field :=
  model.fields.find? (·.name == name)

end Model

def EnumType.valueNames (e : EnumType) : List String :=
  e.values.map (·.name)

namespace Document

def empty : Document :=
  ⟨[], [], []⟩

def model? (doc : Document) (name : String) : Option Model :=
  doc.models.find? (·.name == name)

def enum? (doc : Document) (name : String) : Option EnumType :=
  doc.enums.find? (·.name == name)

/-- The model that a relation field points at, where it is known. -/
def target? (doc : Document) (field : Field) : Option Model :=
  doc.model? field.typeName

end Document

end SchemaMocks
