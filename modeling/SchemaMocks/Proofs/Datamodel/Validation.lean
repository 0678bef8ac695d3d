import Mathlib.Data.List.Nodup
import SchemaMocks.Datamodel.Validation

set_option autoImplicit false
set_option relaxedAutoImplicit false

/-!
What validation establishes. A document without violations has visible names everywhere, no name
twice among its enums, its models or the fields of a model, and no name shared by a model and an
enum. So looking an item up by its name finds that very item.
-/

namespace SchemaMocks.Document

structure OwnNames (taken names : List String) : Prop where
  visible : ∀ name ∈ names, Text.isBlankText name = false
  nodup : names.Nodup
  fresh : ∀ name ∈ names, name ∉ taken

/-- Documents in which every item has a visible name of its own. -/
structure WellNamed (doc : Document) : Prop where
  enums : OwnNames [] (doc.enums.map (·.name))
  models : OwnNames [] (doc.models.map (·.name))
  apart : ∀ model ∈ doc.models, model.name ∉ doc.enums.map (·.name)
  fields : ∀ model ∈ doc.models, OwnNames [] (model.fields.map (·.name))

section Names

variable {taken names : List String} {name : String}

private theorem ownNames_nil : OwnNames taken [] :=
  ⟨by simp, List.nodup_nil, by simp⟩

private theorem ownNames_cons_iff : OwnNames taken (name :: names) ↔
    (Text.isBlankText name = false ∧ name ∉ taken) ∧ OwnNames (name :: taken) names := by
  constructor
  · rintro ⟨visible, nodup, fresh⟩
    obtain ⟨hname, hnames⟩ := List.nodup_cons.1 nodup
    refine ⟨⟨visible name List.mem_cons_self, fresh name List.mem_cons_self⟩,
      fun x hx => visible x (List.mem_cons_of_mem _ hx), hnames, fun x hx htaken => ?_⟩
    rcases List.mem_cons.1 htaken with rfl | htaken
    · exact hname hx
    · exact fresh x (List.mem_cons_of_mem _ hx) htaken
  · rintro ⟨⟨hvisible, hfresh⟩, visible, nodup, fresh⟩
    refine ⟨List.forall_mem_cons.2 ⟨hvisible, visible⟩, List.nodup_cons.2 ⟨fun hname => ?_, nodup⟩,
      List.forall_mem_cons.2 ⟨hfresh, fun x hx htaken => ?_⟩⟩
    · exact fresh name hname List.mem_cons_self
    · exact fresh x hx (List.mem_cons_of_mem _ htaken)

end Names

private theorem enumsFault?_eq_none_iff (earlier : List String) (enums : List EnumType) :
    enumsFault? earlier enums = none ↔ OwnNames earlier (enums.map (·.name)) := by
  induction enums generalizing earlier with
  | nil => simpa [enumsFault?] using ownNames_nil
  | cons e rest ih =>
    rw [enumsFault?, List.map_cons, ownNames_cons_iff, ← ih, enumFault?]
    split_ifs with hblank htaken
    · simp [hblank]
    · simp [htaken]
    · simp [hblank, htaken]

private theorem fieldsFault?_eq_none_iff (model : String) (earlier : List String)
    (fields : List Field) :
    fieldsFault? model earlier fields = none ↔ OwnNames earlier (fields.map (·.name)) := by
  induction fields generalizing earlier with
  | nil => simpa [fieldsFault?] using ownNames_nil
  | cons f rest ih =>
    rw [fieldsFault?, List.map_cons, ownNames_cons_iff, ← ih, fieldFault?]
    split_ifs with hblank htaken
    · simp [hblank]
    · simp [htaken]
    · simp [hblank, htaken]

private theorem modelsFault?_eq_none_iff (enums earlier : List String) (models : List Model) :
    modelsFault? enums earlier models = none ↔ OwnNames earlier (models.map (·.name)) ∧
      ∀ model ∈ models, model.name ∉ enums ∧ OwnNames [] (model.fields.map (·.name)) := by
  induction models generalizing earlier with
  | nil => simpa [modelsFault?] using ownNames_nil
  | cons m rest ih =>
    rw [modelsFault?, List.map_cons, ownNames_cons_iff, List.forall_mem_cons, modelFault?,
      ← fieldsFault?_eq_none_iff m.name]
    split_ifs with hblank htaken henum
    · simp [hblank]
    · simp [htaken]
    · simp [henum]
    · cases hfields : fieldsFault? m.name [] m.fields with
      | none => simp [hblank, htaken, henum, ih]
      | some fault => simp

/-- Validation accepts exactly the documents in which every item has a visible name of its own. -/
theorem validate_eq_ok_iff (doc : Document) : doc.validate = .ok () ↔ doc.WellNamed := by
  have hfault : doc.validate = .ok () ↔ doc.fault? = none := by
    rw [validate]
    split <;> simp_all
  rw [hfault, fault?]
  cases henums : enumsFault? [] doc.enums with
  | some fault =>
    have hno : ¬doc.WellNamed := fun h => by
      rw [(enumsFault?_eq_none_iff [] doc.enums).2 h.enums] at henums
      cases henums
    simp [hno]
  | none =>
    have hown := (enumsFault?_eq_none_iff [] doc.enums).1 henums
    change modelsFault? _ _ _ = none ↔ _
    rw [modelsFault?_eq_none_iff]
    constructor
    · rintro ⟨hmodels, hrest⟩
      exact ⟨hown, hmodels, fun m hm => (hrest m hm).1, fun m hm => (hrest m hm).2⟩
    · exact fun h => ⟨h.models, fun m hm => ⟨h.apart m hm, h.fields m hm⟩⟩

section LookUp

variable {doc : Document} {model : Model} {name : String}

private theorem find?_name_eq_some {α : Type} {nameOf : α → String} {items : List α} {item : α}
    (nodup : (items.map nameOf).Nodup) (hitem : item ∈ items) :
    items.find? (nameOf · == nameOf item) = some item := by
  cases hfind : items.find? (nameOf · == nameOf item) with
  | none => simpa using List.find?_eq_none.1 hfind item hitem
  | some found =>
    have hfound := List.mem_of_find?_eq_some hfind
    have hname : nameOf found = nameOf item := by simpa using List.find?_some hfind
    rw [List.inj_on_of_nodup_map nodup hfound hitem hname]

theorem mem_of_model?_eq_some (h : doc.model? name = some model) :
    model ∈ doc.models ∧ model.name = name :=
  ⟨List.mem_of_find?_eq_some h, by simpa using List.find?_some h⟩

theorem model?_name_of_target? {field : Field} (h : doc.target? field = some model) :
    doc.model? model.name = some model :=
  (mem_of_model?_eq_some h).2.symm ▸ h

theorem WellNamed.enum?_eq_some (h : doc.WellNamed) {e : EnumType} (he : e ∈ doc.enums) :
    doc.enum? e.name = some e :=
  find?_name_eq_some h.enums.nodup he

theorem WellNamed.model?_eq_some (h : doc.WellNamed) (hmodel : model ∈ doc.models) :
    doc.model? model.name = some model :=
  find?_name_eq_some h.models.nodup hmodel

theorem WellNamed.field?_eq_some (h : doc.WellNamed) (hmodel : model ∈ doc.models) {field : Field}
    (hfield : field ∈ model.fields) : model.field? field.name = some field :=
  find?_name_eq_some (h.fields model hmodel).nodup hfield

theorem WellNamed.eq_of_names (h : doc.WellNamed) {owner : Model} {field g : Field}
    (hmodel : model ∈ doc.models) (hfield : field ∈ model.fields) (howner : owner ∈ doc.models)
    (hg : g ∈ owner.fields) (hnames : owner.name = model.name ∧ g.name = field.name) :
    owner = model ∧ g = field := by
  obtain rfl : owner = model := List.inj_on_of_nodup_map h.models.nodup howner hmodel hnames.1
  exact ⟨rfl, List.inj_on_of_nodup_map (h.fields owner howner).nodup hg hfield hnames.2⟩

end LookUp

end SchemaMocks.Document

namespace SchemaMocks

/-- An optional field without a flag, a default or a documentation. -/
def Field.bare (name : String) (kind : FieldKind) (typeName : String) : Field where
  name := name
  kind := kind
  typeName := typeName
  isList := false
  isRequired := false
  isUnique := false
  isId := false
  isReadOnly := false
  hasDefault := false
  defaultValue := none
  relationName := none
  relationFromFields := []
  relationToFields := []
  documentation := none
  isGenerated := false
  isUpdatedAt := false

/-- A model of a name and fields alone. -/
def Model.bare (name : String) (fields : List Field) : Model where
  name := name
  dbName := none
  fields := fields
  documentation := none
  primaryKey := none
  uniqueFields := []

end SchemaMocks
