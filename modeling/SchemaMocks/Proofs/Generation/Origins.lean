import Mathlib.Data.List.Forall2
import SchemaMocks.Proofs.Generation.Tally
import SchemaMocks.TypeScript.Factory

set_option autoImplicit false
set_option relaxedAutoImplicit false

/-!
Where the expressions of factories come from. The rules of precedence give every expression of a
scalar or enum field one origin: a directive about values, a usable default, the meaning of the name
where it fits the type, the type, a placeholder, or the declared values of the enum. The report of a
document counts the origins of what the factories hold, whatever they are generated with.
-/

namespace SchemaMocks

open TypeScript

/-- What the expression of a field comes from. -/
inductive MockOrigin where
  | directive
  | default
  | semantic (meaning : SemanticType)
  | typeDefault
  | placeholder
  | enum
  deriving DecidableEq

namespace MockOrigin

def label : MockOrigin → String
  | directive => "annotation"
  | default => "default"
  | semantic _ => "semantic"
  | typeDefault => "typeDefault"
  | placeholder => "placeholder"
  | enum => "enum"

def meaning? : MockOrigin → Option SemanticType
  | semantic meaning => some meaning
  | _ => none

end MockOrigin

def Directive.givesValues : Directive → Bool
  | relationDepth _ => false
  | _ => true

namespace Field

/-- Whether a field holds values of its own: those of a scalar type or of an enum. -/
def holdsValues (field : Field) : Bool :=
  field.kind == .scalar || field.kind == .enum

def renderedType? (field : Field) : Option ScalarType :=
  if field.kind = .scalar then field.scalar? else none

def IsUndirected (field : Field) : Prop :=
  ∀ d, field.directive? = some d → d.givesValues = false

structure IsUnstated (field : Field) : Prop where
  undirected : field.IsUndirected
  noDefault : ∀ value, field.defaultValue = some value → DefaultMock.ofDefault? value = none

def tossed (field : Field) (value : MockExpr) : MockExpr :=
  if field.isRequired then value else .maybe value

def filled (field : Field) (value : MockExpr) : MockExpr :=
  if field.isList then .repeated value else value

def directed (field : Field) (d : Directive) : MockExpr :=
  if field.isList then .ofListDirective field.renderedType? d
  else .ofDirective field.renderedType? d

end Field

/-- The rules by which the expression of a field is made, one for each origin. -/
inductive MadeFrom (config : GeneratorConfig) (doc : Document) (field : Field) :
    MockOrigin → MockExpr → Prop
  | directive {d : Directive} (hdirective : field.directive? = some d)
      (hvalues : d.givesValues = true) :
      MadeFrom config doc field .directive (field.tossed (field.directed d))
  | default {value : FieldDefault} {d : DefaultMock} (hundirected : field.IsUndirected)
      (hvalue : field.defaultValue = some value) (hd : DefaultMock.ofDefault? value = some d) :
      MadeFrom config doc field .default (.ofDefault field.renderedType? d)
  | semantic {scalar : ScalarType} (hkind : field.kind = .scalar) (hunstated : field.IsUnstated)
      (htype : field.scalar? = some scalar)
      (haccepts : (SemanticType.ofName field.name).accepts scalar = true) :
      MadeFrom config doc field (.semantic (SemanticType.ofName field.name))
        (field.tossed (field.filled
          (.ofSemantic config scalar field.name (SemanticType.ofName field.name))))
  | typeDefault {scalar : ScalarType} (hkind : field.kind = .scalar) (hunstated : field.IsUnstated)
      (htype : field.scalar? = some scalar)
      (haccepts : (SemanticType.ofName field.name).accepts scalar = false) :
      MadeFrom config doc field .typeDefault (field.tossed (field.filled (.ofType config scalar)))
  | placeholder (hkind : field.kind = .scalar) (hunstated : field.IsUnstated)
      (htype : field.scalar? = none) :
      MadeFrom config doc field .placeholder .null
  | enum (hkind : field.kind = .enum) (hunstated : field.IsUnstated) :
      MadeFrom config doc field .enum (.ofDeclared field (doc.enum? field.typeName))

namespace Field

variable {field : Field}

private theorem explicitSource?_of_directed {d : Directive} (hdirective : field.directive? = some d)
    (hvalues : d.givesValues = true) : field.explicitSource? = some (.directive d) := by
  unfold explicitSource?
  rw [hdirective]
  cases d with
  | relationDepth depth => cases hvalues
  | _ => rfl

private theorem explicitSource?_of_undirected (hundirected : field.IsUndirected) :
    field.explicitSource? =
      (field.defaultValue.bind DefaultMock.ofDefault?).map MockSource.default := by
  unfold explicitSource?
  split
  · rfl
  · rfl
  · rename_i d hdepth hdirective
    have hbound := hundirected d hdirective
    cases d with
    | relationDepth depth => exact absurd rfl (hdepth depth)
    | _ => cases hbound

private theorem explicitSource?_of_unstated (h : field.IsUnstated) :
    field.explicitSource? = none := by
  rw [explicitSource?_of_undirected h.undirected, Option.map_eq_none_iff,
    Option.bind_eq_none_iff]
  exact h.noDefault

private theorem stated_cases (field : Field) :
    (∃ d, field.directive? = some d ∧ d.givesValues = true) ∨
      (∃ value d, field.IsUndirected ∧ field.defaultValue = some value ∧
        DefaultMock.ofDefault? value = some d) ∨
      field.IsUnstated := by
  by_cases hdirected : ∃ d, field.directive? = some d ∧ d.givesValues = true
  · exact .inl hdirected
  · have hundirected : field.IsUndirected := fun d hd =>
      Bool.eq_false_iff.2 fun hvalues => hdirected ⟨d, hd, hvalues⟩
    by_cases hdefault : ∃ value d, field.defaultValue = some value ∧
        DefaultMock.ofDefault? value = some d
    · obtain ⟨value, d, hvalue, hd⟩ := hdefault
      exact .inr (.inl ⟨value, d, hundirected, hvalue, hd⟩)
    · refine .inr (.inr ⟨hundirected, fun value hvalue => ?_⟩)
      exact Option.eq_none_iff_forall_ne_some.2 fun d hd => hdefault ⟨value, d, hvalue, hd⟩

private theorem holdsValues_iff :
    field.holdsValues = true ↔ field.kind = .scalar ∨ field.kind = .enum := by
  simp [holdsValues]

end Field

/-- The origin that a source is reported under. -/
def MockSource.origin : MockSource → MockOrigin
  | directive _ => .directive
  | default _ => .default
  | semantic meaning _ => .semantic meaning
  | typeDefault _ => .typeDefault
  | placeholder => .placeholder

namespace GenerationReport

def originOf (field : Field) : MockOrigin :=
  ((countedSource? field).map MockSource.origin).getD .enum

end GenerationReport

namespace TypeScript

def MemberExpr.mock? : MemberExpr → Option MockExpr
  | sourced _ value => some value
  | declared value => some value
  | relation _ => none

def MockExpr.ofField? (config : GeneratorConfig) (doc : Document) (field : Field) :
    Option MockExpr :=
  (MemberExpr.ofField? config doc field).bind MemberExpr.mock?

end TypeScript

section Rules

open GenerationReport MockExpr

variable (config : GeneratorConfig) (doc : Document) {field : Field} {source : MockSource}

private theorem underCoin_eq_tossed (h : isOptionalSource field source = !field.isRequired)
    (value : MockExpr) : underCoin field source value = field.tossed value := by
  unfold underCoin Field.tossed
  rw [h]
  cases field.isRequired <;> rfl

private theorem underCoin_default (d : DefaultMock) (value : MockExpr) :
    underCoin field (.default d) value = value :=
  rfl

private theorem scalarSource_of_stated (hexplicit : field.explicitSource? = some source) :
    field.scalarSource = source := by
  simp only [Field.scalarSource, hexplicit]

private theorem originOf_scalar (hkind : field.kind = .scalar) :
    originOf field = field.scalarSource.origin := by
  simp [originOf, countedSource?, hkind]

private theorem originOf_enum (hkind : field.kind = .enum) :
    originOf field = (field.explicitSource?.map MockSource.origin).getD .enum := by
  simp [originOf, countedSource?, hkind]

private theorem ofField?_scalar (hkind : field.kind = .scalar) :
    MockExpr.ofField? config doc field =
      some (underCoin field field.scalarSource (scalarValue config field field.scalarSource)) := by
  simp [MockExpr.ofField?, MemberExpr.ofField?, hkind, MemberExpr.mock?, ofScalarField]

private theorem ofField?_enum (hkind : field.kind = .enum) :
    MockExpr.ofField? config doc field = some (ofEnumField doc field) := by
  unfold MockExpr.ofField? MemberExpr.ofField?
  rw [hkind]
  cases field.explicitSource? <;> rfl

private theorem reported_of_stated (hholds : field.holdsValues = true)
    (hexplicit : field.explicitSource? = some source) :
    originOf field = source.origin ∧
      MockExpr.ofField? config doc field = some (underCoin field source
        (if field.kind = .scalar then scalarValue config field source
          else enumValue field source)) := by
  rcases Field.holdsValues_iff.1 hholds with hkind | hkind
  · rw [originOf_scalar hkind, ofField?_scalar config doc hkind, scalarSource_of_stated hexplicit,
      hkind, if_pos rfl]
    exact ⟨rfl, rfl⟩
  · rw [originOf_enum hkind, ofField?_enum config doc hkind, ofEnumField, hexplicit, hkind]
    exact ⟨rfl, rfl⟩

private theorem reported_of_scalar (hkind : field.kind = .scalar)
    (hsource : field.scalarSource = source) :
    originOf field = source.origin ∧
      MockExpr.ofField? config doc field =
        some (underCoin field source (scalarValue config field source)) := by
  rw [originOf_scalar hkind, ofField?_scalar config doc hkind, hsource]
  exact ⟨rfl, rfl⟩

variable {config doc}

private theorem MadeFrom.reported {origin : MockOrigin} {value : MockExpr}
    (h : MadeFrom config doc field origin value) (hholds : field.holdsValues = true) :
    originOf field = origin ∧ MockExpr.ofField? config doc field = some value := by
  cases h with
  | @directive d hdirective hvalues =>
    have hstated := reported_of_stated config doc hholds
      (Field.explicitSource?_of_directed hdirective hvalues)
    rw [underCoin_eq_tossed rfl] at hstated
    refine ⟨hstated.1, hstated.2.trans ?_⟩
    unfold Field.directed Field.renderedType? scalarValue enumValue ofSource
    cases field.isList <;> split <;> rfl
  | @default _ d hundirected hvalue hd =>
    have hexplicit : field.explicitSource? = some (.default d) := by
      rw [Field.explicitSource?_of_undirected hundirected, hvalue, Option.bind_some, hd,
        Option.map_some]
    have hstated := reported_of_stated config doc hholds hexplicit
    rw [underCoin_default] at hstated
    refine ⟨hstated.1, hstated.2.trans ?_⟩
    unfold Field.renderedType? scalarValue enumValue ofSource
    cases field.isList <;> split <;> rfl
  | @semantic scalar hkind hunstated htype haccepts =>
    have hsource : field.scalarSource = .semantic (SemanticType.ofName field.name) scalar := by
      simp [Field.scalarSource, Field.explicitSource?_of_unstated hunstated, htype, haccepts]
    have hscalar := reported_of_scalar config doc hkind hsource
    rwa [underCoin_eq_tossed rfl] at hscalar
  | @typeDefault scalar hkind hunstated htype haccepts =>
    have hsource : field.scalarSource = .typeDefault scalar := by
      simp [Field.scalarSource, Field.explicitSource?_of_unstated hunstated, htype, haccepts]
    have hscalar := reported_of_scalar config doc hkind hsource
    rwa [underCoin_eq_tossed rfl] at hscalar
  | placeholder hkind hunstated htype =>
    have hsource : field.scalarSource = .placeholder := by
      simp only [Field.scalarSource, Field.explicitSource?_of_unstated hunstated, htype]
    have hscalar := reported_of_scalar config doc hkind hsource
    refine ⟨hscalar.1, hscalar.2.trans ?_⟩
    unfold scalarValue
    cases field.isList <;> rfl
  | enum hkind hunstated =>
    have hexplicit := Field.explicitSource?_of_unstated hunstated
    rw [originOf_enum hkind, ofField?_enum config doc hkind, ofEnumField, hexplicit]
    exact ⟨rfl, rfl⟩

private theorem exists_madeFrom (config : GeneratorConfig) (doc : Document)
    (hholds : field.holdsValues = true) :
    ∃ origin value, MadeFrom config doc field origin value := by
  rcases field.stated_cases with ⟨d, hdirective, hvalues⟩ | ⟨value, d, hundirected, hvalue, hd⟩ |
    hunstated
  · exact ⟨_, _, .directive hdirective hvalues⟩
  · exact ⟨_, _, .default hundirected hvalue hd⟩
  · rcases Field.holdsValues_iff.1 hholds with hkind | hkind
    · cases htype : field.scalar? with
      | none => exact ⟨_, _, .placeholder hkind hunstated htype⟩
      | some scalar =>
        cases haccepts : (SemanticType.ofName field.name).accepts scalar with
        | true => exact ⟨_, _, .semantic hkind hunstated htype haccepts⟩
        | false => exact ⟨_, _, .typeDefault hkind hunstated htype haccepts⟩
    · exact ⟨_, _, .enum hkind hunstated⟩

theorem madeFrom_iff (hholds : field.holdsValues = true) {origin : MockOrigin} {value : MockExpr} :
    MadeFrom config doc field origin value ↔
      originOf field = origin ∧ MockExpr.ofField? config doc field = some value := by
  refine ⟨fun h => h.reported hholds, fun ⟨horigin, hvalue⟩ => ?_⟩
  obtain ⟨origin', value', h⟩ := exists_madeFrom config doc hholds
  obtain ⟨horigin', hvalue'⟩ := h.reported hholds
  rw [← horigin, horigin', ← Option.some.inj (hvalue'.symm.trans hvalue)]
  exact h

end Rules

/-- The fields of a document that hold values, model by model. -/
def Document.valueFields (doc : Document) : List Field :=
  (doc.models.flatMap (·.fields)).filter Field.holdsValues

namespace TypeScript

def mockMembers (config : GeneratorConfig) (doc : Document) : List (String × MockExpr) :=
  doc.models.flatMap fun model =>
    (ModelFactory.ofModel config doc model).members.filterMap fun member =>
      member.2.mock?.map fun value => (member.1, value)

/-- Whether the fields of a document that hold values come with the origins of the expressions that
the factories hold for them. -/
structure Traces (config : GeneratorConfig) (doc : Document) (traced : List (Field × MockOrigin)) :
    Prop where
  fields_eq : traced.map (·.1) = doc.valueFields
  made : List.Forall₂ (fun entry member =>
    member.1 = entry.1.name ∧ MadeFrom config doc entry.1 entry.2 member.2)
    traced (mockMembers config doc)

end TypeScript

section Counts

open GenerationReport

variable {field : Field}

private theorem holdsValues_of_mem {doc : Document} (h : field ∈ doc.valueFields) :
    field.holdsValues = true :=
  (List.mem_filter.1 h).2

private theorem countedSource?_cases (field : Field) :
    (∃ source, countedSource? field = some source ∧ field.holdsValues = true) ∨
      (countedSource? field = none ∧ field.kind = .enum) ∨
      (countedSource? field = none ∧ field.kind ≠ .enum ∧ field.holdsValues = false) := by
  unfold countedSource? Field.holdsValues
  cases hkind : field.kind with
  | scalar => exact .inl ⟨field.scalarSource, rfl, rfl⟩
  | enum =>
    cases field.explicitSource? with
    | some source => exact .inl ⟨source, rfl, rfl⟩
    | none => exact .inr (.inl ⟨rfl, rfl⟩)
  | relation => exact .inr (.inr ⟨rfl, nofun, rfl⟩)
  | unsupported => exact .inr (.inr ⟨rfl, nofun, rfl⟩)

private theorem sourceLabel?_eq (field : Field) : sourceLabel? field =
    if field.holdsValues = true then some (originOf field).label else none := by
  unfold sourceLabel? originOf
  rcases countedSource?_cases field with ⟨source, hsource, hholds⟩ | ⟨hnone, hkind⟩ |
    ⟨hnone, hkind, hholds⟩
  · rw [hsource, if_pos hholds]
    cases source <;> rfl
  · rw [hnone, if_pos (Field.holdsValues_iff.2 (.inr hkind)), if_pos hkind]
    rfl
  · rw [hnone, if_neg hkind, if_neg (Bool.eq_false_iff.1 hholds)]

private theorem semanticLabel?_eq (field : Field) : semanticLabel? field =
    if field.holdsValues = true then (originOf field).meaning?.map SemanticType.label
    else none := by
  unfold semanticLabel? originOf
  rcases countedSource?_cases field with ⟨source, hsource, hholds⟩ | ⟨hnone, hkind⟩ |
    ⟨hnone, hkind, hholds⟩
  · rw [hsource, if_pos hholds]
    cases source <;> rfl
  · rw [hnone, if_pos (Field.holdsValues_iff.2 (.inr hkind))]
    rfl
  · rw [hnone, if_neg (Bool.eq_false_iff.1 hholds)]

private theorem SemanticType.label_injective {meaning other : SemanticType}
    (h : meaning.label = other.label) : meaning = other := by
  have hread (kind : SemanticType) : Entries.get? kind.label labelled = some kind := by
    cases kind <;> decide
  rw [← Option.some.injEq, ← hread meaning, ← hread other, h]

def originsOf (doc : Document) : List (Field × MockOrigin) :=
  doc.valueFields.map fun field => (field, originOf field)

private theorem sourceLabels_eq (doc : Document) :
    (doc.models.flatMap (·.fields)).filterMap sourceLabel? =
      (originsOf doc).map fun entry => entry.2.label := by
  rw [originsOf, List.map_map, Document.valueFields, ← List.filterMap_eq_map,
    List.filterMap_filter]
  exact List.filterMap_congr fun field _ => sourceLabel?_eq field

private theorem semanticLabels_eq (doc : Document) :
    (doc.models.flatMap (·.fields)).filterMap semanticLabel? =
      (originsOf doc).filterMap fun entry => entry.2.meaning?.map SemanticType.label := by
  rw [originsOf, List.filterMap_map, Document.valueFields, List.filterMap_filter]
  exact List.filterMap_congr fun field _ => semanticLabel?_eq field

private theorem mockMembers_eq (config : GeneratorConfig) (doc : Document) :
    mockMembers config doc = doc.valueFields.filterMap fun field =>
      (MockExpr.ofField? config doc field).map fun value => (field.name, value) := by
  have hmodel (model : Model) :
      ((ModelFactory.ofModel config doc model).members.filterMap fun member =>
        member.2.mock?.map fun value => (member.1, value)) =
        model.fields.filterMap fun field =>
          (MockExpr.ofField? config doc field).map fun value => (field.name, value) := by
    rw [ModelFactory.ofModel, List.filterMap_filterMap]
    refine List.filterMap_congr fun field _ => ?_
    unfold MockExpr.ofField?
    cases MemberExpr.ofField? config doc field <;> rfl
  have hother : ∀ field : Field, ¬field.holdsValues = true →
      MockExpr.ofField? config doc field = none := by
    intro field hholds
    rw [Field.holdsValues_iff, not_or] at hholds
    unfold MockExpr.ofField? MemberExpr.ofField?
    split
    · rename_i hkind
      exact absurd hkind hholds.1
    · rename_i hkind
      exact absurd hkind hholds.2
    · rfl
    · rfl
  rw [mockMembers, List.flatMap_congr fun model _ => hmodel model, ← List.filterMap_flatMap,
    Document.valueFields, List.filterMap_filter]
  refine List.filterMap_congr fun field _ => ?_
  split
  · rfl
  · rename_i hholds
    rw [hother field hholds]
    rfl

variable (config : GeneratorConfig) (doc : Document)

private theorem traces_iff (traced : List (Field × MockOrigin)) :
    Traces config doc traced ↔ traced = originsOf doc := by
  constructor
  · rintro ⟨hfields, hmade⟩
    have horigin : ∀ entry ∈ traced, originOf entry.1 = entry.2 := by
      have hvalues : ∀ entry ∈ traced, entry.1.holdsValues = true := fun entry hentry =>
        holdsValues_of_mem (hfields ▸ List.mem_map_of_mem hentry)
      have hboth := (List.forall₂_and_left _ _).2 ⟨hvalues, hmade⟩
      refine ((List.forall₂_and_left (R := fun _ _ => True) _ _).1 (hboth.imp ?_)).1
      rintro entry member ⟨hentry, -, hrule⟩
      exact ⟨(hrule.reported hentry).1, trivial⟩
    rw [originsOf, ← hfields, List.map_map]
    refine (List.map_id' traced).symm.trans (List.map_congr_left fun entry hentry => ?_)
    exact Prod.ext rfl (horigin entry hentry).symm
  · rintro rfl
    refine ⟨?_, ?_⟩
    · rw [originsOf, List.map_map]
      exact List.map_id' _
    rw [mockMembers_eq, originsOf]
    have hholds : ∀ field ∈ doc.valueFields, field.holdsValues = true := fun _ =>
      holdsValues_of_mem
    generalize doc.valueFields = fields at hholds
    induction fields with
    | nil => exact .nil
    | cons field rest ih =>
      obtain ⟨hfield, hrest⟩ := List.forall_mem_cons.1 hholds
      obtain ⟨origin, value, hrule⟩ := exists_madeFrom config doc hfield
      obtain ⟨rfl, hvalue⟩ := hrule.reported hfield
      rw [List.map_cons, List.filterMap_cons, hvalue]
      exact .cons ⟨rfl, hrule⟩ (ih hrest)

private theorem fieldSources_eq :
    (ofDocument doc).fieldSources = tally ((originsOf doc).map fun entry => entry.2.label) :=
  congrArg tally (sourceLabels_eq doc)

private theorem semanticUsage_eq : (ofDocument doc).semanticUsage =
    tally ((originsOf doc).filterMap fun entry => entry.2.meaning?.map SemanticType.label) :=
  congrArg tally (semanticLabels_eq doc)

private theorem count_labels (entries : List (Field × MockOrigin)) (label : String) :
    (entries.map fun entry => entry.2.label).count label =
      entries.countP fun entry => entry.2.label = label := by
  rw [List.count_eq_countP, List.countP_map]
  exact List.countP_congr fun entry _ => by simp

private theorem count_meanings (entries : List (Field × MockOrigin)) (meaning : SemanticType) :
    (entries.filterMap fun entry => entry.2.meaning?.map SemanticType.label).count meaning.label =
      entries.countP fun entry => entry.2 = .semantic meaning := by
  rw [List.count_eq_countP, List.countP_filterMap]
  refine List.countP_congr fun entry _ => ?_
  cases entry.2 with
  | semantic other =>
    simp only [MockOrigin.meaning?, Option.map_some, Option.getD_some, beq_iff_eq,
      decide_eq_true_eq, MockOrigin.semantic.injEq]
    exact ⟨SemanticType.label_injective, congrArg _⟩
  | _ => simp [MockOrigin.meaning?]

private theorem length_meanings (entries : List (Field × MockOrigin)) :
    (entries.filterMap fun entry => entry.2.meaning?.map SemanticType.label).length =
      entries.countP fun entry => entry.2.label = "semantic" := by
  rw [List.length_filterMap_eq_countP]
  refine List.countP_congr fun entry _ => ?_
  cases entry.2 <;> simp [MockOrigin.meaning?, MockOrigin.label]

end Counts

/-- The report of a document counts the origins of the expressions that the factories hold for the
fields with values: by label, and by meaning where they come from the meaning of a name. -/
theorem GenerationReport.counts_origins (config : GeneratorConfig) (doc : Document) :
    ∃ traced, (∀ other, Traces config doc other ↔ other = traced) ∧
      (∀ label n, (ofDocument doc).fieldSources.get? label = some n ↔
        0 < n ∧ traced.countP (fun entry => entry.2.label = label) = n) ∧
      (ofDocument doc).fieldSources.total = doc.valueFields.length ∧
      (∀ meaning n, (ofDocument doc).semanticUsage.get? meaning.label = some n ↔
        0 < n ∧ traced.countP (fun entry => entry.2 = .semantic meaning) = n) ∧
      (∀ key ∈ (ofDocument doc).semanticUsage.keys, ∃ meaning, key = SemanticType.label meaning) ∧
      (ofDocument doc).semanticUsage.total =
        ((ofDocument doc).fieldSources.get? "semantic").getD 0 := by
  refine ⟨originsOf doc, traces_iff config doc, fun label n => ?_, ?_, fun meaning n => ?_,
    fun key hkey => ?_, ?_⟩
  · rw [fieldSources_eq, get?_tally_eq_some_iff, count_labels]
  · rw [fieldSources_eq, total_tally, List.length_map, originsOf, List.length_map]
  · rw [semanticUsage_eq, get?_tally_eq_some_iff, count_meanings]
  · rw [semanticUsage_eq, mem_keys_tally] at hkey
    obtain ⟨entry, -, hlabel⟩ := List.mem_filterMap.1 hkey
    obtain ⟨meaning, -, rfl⟩ := Option.map_eq_some_iff.1 hlabel
    exact ⟨meaning, rfl⟩
  · rw [semanticUsage_eq, total_tally, length_meanings, fieldSources_eq, getD_tally, count_labels]

end SchemaMocks
