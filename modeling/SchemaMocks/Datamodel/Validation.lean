import SchemaMocks.Datamodel.Basic

set_option autoImplicit false
set_option relaxedAutoImplicit false

/-!
Validation of documents. Names of enums, models and fields must be visible; enums and models must
have names of their own, and fields names of their own within their model. Faults are found in
document order, enums before models and the name of a model before its fields.
-/

namespace SchemaMocks

/-- A violation of the naming rules. -/
inductive DocumentFault where
  | blankEnum
  | repeatedEnum (name : String)
  | blankModel
  | repeatedModel (name : String)
  | sharedName (name : String)
  | blankField (model : String)
  | repeatedField (model field : String)
  deriving DecidableEq

def DocumentFault.message : DocumentFault → String
  | blankEnum => "enum with empty name"
  | repeatedEnum name => "duplicate enum name: " ++ name
  | blankModel => "model with empty name"
  | repeatedModel name => "duplicate model name: " ++ name
  | sharedName name => "model and enum share a name: " ++ name
  | blankField model => "field with empty name in model " ++ model
  | repeatedField model field => "duplicate field name: " ++ model ++ "." ++ field

namespace Document

def enumFault? (earlier : List String) (name : String) : Option DocumentFault :=
  if Text.isBlankText name then some .blankEnum
  else if name ∈ earlier then some (.repeatedEnum name)
  else none

def enumsFault? (earlier : List String) : List EnumType → Option DocumentFault
  | [] => none
  | e :: rest => (enumFault? earlier e.name).orElse fun _ => enumsFault? (e.name :: earlier) rest

def modelFault? (enums earlier : List String) (name : String) : Option DocumentFault :=
  if Text.isBlankText name then some .blankModel
  else if name ∈ earlier then some (.repeatedModel name)
  else if name ∈ enums then some (.sharedName name)
  else none

def fieldFault? (model : String) (earlier : List String) (name : String) : Option DocumentFault :=
  if Text.isBlankText name then some (.blankField model)
  else if name ∈ earlier then some (.repeatedField model name)
  else none

def fieldsFault? (model : String) (earlier : List String) : List Field → Option DocumentFault
  | [] => none
  | f :: rest =>
    (fieldFault? model earlier f.name).orElse fun _ => fieldsFault? model (f.name :: earlier) rest

def modelsFault? (enums earlier : List String) : List Model → Option DocumentFault
  | [] => none
  | m :: rest =>
    ((modelFault? enums earlier m.name).orElse fun _ => fieldsFault? m.name [] m.fields).orElse
      fun _ => modelsFault? enums (m.name :: earlier) rest

def fault? (doc : Document) : Option DocumentFault :=
  (enumsFault? [] doc.enums).orElse fun _ => modelsFault? (doc.enums.map (·.name)) [] doc.models

def validate (doc : Document) : Except DocumentFault Unit :=
  match doc.fault? with
  | some fault => .error fault
  | none => .ok ()

end Document

end SchemaMocks
