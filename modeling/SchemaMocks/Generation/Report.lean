import SchemaMocks.Datamodel.Json
import SchemaMocks.Datamodel.RelationGraph
import SchemaMocks.Source.Basic

set_option autoImplicit false
set_option relaxedAutoImplicit false

/-!
The report of a generation run: how many models, enums and files there are, which sources the mocks
come from, which meanings were used, and what the relation graph shows.
-/

namespace SchemaMocks

structure GenerationReport where
  models : Nat
  enums : Nat
  files : List String
  fieldSources : Dictionary Nat
  semanticUsage : Dictionary Nat
  relationCycle : Option (List String)
  selfRelations : List String
  fingerprint : String

namespace GenerationReport

def tally (labels : List String) : Dictionary Nat :=
  labels.foldl (fun d label => d.insert label ((d.get? label).getD 0 + 1)) Dictionary.empty

/-- The source that a field is counted under: none for an enum field that picks declared values. -/
def countedSource? (field : Field) : Option MockSource :=
  match field.kind with
  | .scalar => some field.scalarSource
  | .enum => field.explicitSource?
  | _ => none

def sourceLabel? (field : Field) : Option String :=
  match countedSource? field with
  | some source => some source.label
  | none => if field.kind = .enum then some "enum" else none

def semanticLabel? (field : Field) : Option String :=
  match countedSource? field with
  | some (.semantic s _) => some s.label
  | _ => none

/-- The report of a document, before any file is written. -/
def ofDocument (doc : Document) : GenerationReport :=
  let fields := doc.models.flatMap (·.fields)
  { models := doc.models.length
    enums := doc.enums.length
    files := []
    fieldSources := tally (fields.filterMap sourceLabel?)
    semanticUsage := tally (fields.filterMap semanticLabel?)
    relationCycle := none
    selfRelations := []
    fingerprint := doc.fingerprint }

def noticesOf (doc : Document) : List Notice :=
  (doc.models.flatMap (·.fields)).flatMap fun field =>
    match field.kind with
    | .scalar | .enum => field.directiveNotices
    | _ => []

def tallyJson (d : Dictionary Nat) : Json :=
  .object (d.mapValues Json.nat).entries

def toJson (r : GenerationReport) : Json :=
  .object [
    ("models", .nat r.models),
    ("enums", .nat r.enums),
    ("files", Json.strings r.files),
    ("field_sources", tallyJson r.fieldSources),
    ("semantic_usage", tallyJson r.semanticUsage),
    ("relation_cycle", Json.ofOption (r.relationCycle.map Json.strings)),
    ("self_relations", Json.strings r.selfRelations),
    ("document_fingerprint", .string r.fingerprint)]

end GenerationReport

end SchemaMocks
