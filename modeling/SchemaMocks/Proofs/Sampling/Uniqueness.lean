import Mathlib.Data.List.Perm.Basic
import SchemaMocks.Mock.Vocabulary
import SchemaMocks.Proofs.Datamodel.Validation
import SchemaMocks.Proofs.Sampling.Ledger

set_option autoImplicit false
set_option relaxedAutoImplicit false

/-!
Values that do not repeat. Records of a model come up at many places of what is sampled; a field of
the model that is unique or an identifier has another text at each of them, over any number of calls
and whether or not other calls fail in between.
-/

namespace SchemaMocks

section Nested

mutual

/-- A record and all records within it. -/
def MockRecord.nested {ν : Type} : MockRecord ν → List (MockRecord ν)
  | .of model members => .of model members :: MockMember.nestedInEntries members

def MockMember.nested {ν : Type} : MockMember ν → List (MockRecord ν)
  | .single record => record.nested
  | .list records => MockMember.nestedInRecords records
  | .value _ | .null | .emptyList | .stub _ _ => []

def MockMember.nestedInEntries {ν : Type} : List (String × MockMember ν) → List (MockRecord ν)
  | [] => []
  | (_, member) :: rest => member.nested ++ MockMember.nestedInEntries rest

def MockMember.nestedInRecords {ν : Type} : List (MockRecord ν) → List (MockRecord ν)
  | [] => []
  | record :: rest => record.nested ++ MockMember.nestedInRecords rest

end

variable {ν : Type}

private theorem nestedInEntries_eq_flatMap (members : List (String × MockMember ν)) :
    MockMember.nestedInEntries members = members.flatMap fun entry => entry.2.nested := by
  induction members with
  | nil => rfl
  | cons entry rest ih => rw [MockMember.nestedInEntries, ih, List.flatMap_cons]

private theorem nestedInRecords_eq_flatMap (records : List (MockRecord ν)) :
    MockMember.nestedInRecords records = records.flatMap MockRecord.nested := by
  induction records with
  | nil => rfl
  | cons record rest ih => rw [MockMember.nestedInRecords, ih, List.flatMap_cons]

end Nested

/-- The compact text of a value that is not null. -/
def Json.presentText? (value : Json) : Option String :=
  if value = .null then none else some value.compact

/-- The text of what the JSON form of a record of a model holds for a field. -/
def MockRecord.text? (model field : String) (record : MockRecord MockValue) : Option String :=
  if record.model = model then (record.toJson.get? field).bind Json.presentText? else none

/-- The texts of a field over the records of a model in a record and within it. -/
def MockRecord.texts (model field : String) (record : MockRecord MockValue) : List String :=
  record.nested.filterMap (MockRecord.text? model field)

section Texts

variable {model field owner : String}

def entryTexts (model field owner : String) (entry : String × MockMember MockValue) :
    List String :=
  (if owner = model ∧ entry.1 = field then entry.2.toJson.presentText?.toList else []) ++
    entry.2.nested.filterMap (MockRecord.text? model field)

private theorem flatMap_under {members : List (String × MockMember MockValue)}
    (hnodup : (members.map (·.1)).Nodup) :
    (members.flatMap fun entry =>
        if entry.1 = field then entry.2.toJson.presentText?.toList else []) =
      (((Entries.get? field members).map MockMember.toJson).bind Json.presentText?).toList := by
  induction members with
  | nil => rfl
  | cons entry rest ih =>
    obtain ⟨hentry, hrest⟩ := List.nodup_cons.1 hnodup
    rw [List.flatMap_cons, ih hrest, Entries.get?]
    by_cases hfield : entry.1 = field
    · have hnone : Entries.get? field rest = none := by
        rw [Entries.get?_eq_none_iff]
        exact hfield ▸ hentry
      simp [hfield, hnone]
    · simp [hfield]

private theorem texts_perm {members : List (String × MockMember MockValue)}
    (hnodup : (members.map (·.1)).Nodup) :
    ((MockRecord.of owner members).texts model field).Perm
      (members.flatMap (entryTexts model field owner)) := by
  have hown : members.flatMap (fun entry =>
      if owner = model ∧ entry.1 = field then entry.2.toJson.presentText?.toList else []) =
        (MockRecord.text? model field (.of owner members)).toList := by
    rw [MockRecord.text?, MockRecord.get?_toJson hnodup]
    by_cases howner : owner = model
    · simp only [howner, true_and, MockRecord.model, if_true]
      exact flatMap_under hnodup
    · simp [howner, MockRecord.model]
  have hall : (MockRecord.of owner members).texts model field =
      (MockRecord.text? model field (.of owner members)).toList ++
        members.flatMap fun entry => entry.2.nested.filterMap (MockRecord.text? model field) := by
    rw [MockRecord.texts, MockRecord.nested, nestedInEntries_eq_flatMap, List.filterMap_cons,
      List.filterMap_flatMap]
    cases MockRecord.text? model field (.of owner members) <;> rfl
  rw [hall, ← hown]
  exact List.flatMap_append_perm members _ _

end Texts

namespace Sampler

variable (sampler : Sampler) {key : String}

private theorem keeps_scalarField (model : Model) (field : Field) :
    HandsOut key (sampler.scalarField model field) fun _ texts => texts = [] := by
  unfold scalarField
  refine (handsOut_ofValueDraw _).bind fun _ _ hnotices => ?_
  refine (handsOut_ofValueDraw _).bind fun null _ hnull => ?_
  rw [hnotices, hnull]
  split
  · exact handsOut_pure rfl
  · split
    · exact handsOut_ofValueDraw _
    · exact handsOut_ofValueDraw _
    · exact handsOut_ofValueDraw _
    · split
      · exact keeps_unique _ _ _
      · exact handsOut_ofValueDraw _

private theorem handsOut_scalarField (model : Model) {field : Field} (hlist : field.isList = false)
    (hunique : field.isUnique = true ∨ field.isId = true) :
    HandsOut (UniqueLedger.fieldKey model.name field.name) (sampler.scalarField model field)
      fun value texts => texts = value.toJson.presentText?.toList := by
  unfold scalarField
  refine (handsOut_ofValueDraw _).bind fun _ _ hnotices => ?_
  refine (handsOut_ofValueDraw _).bind fun null _ hnull => ?_
  rw [hnotices, hnull]
  split
  · exact handsOut_pure rfl
  · split
    · rename_i h _
      simp [hlist] at h
    · rename_i h _
      simp [hlist] at h
    · rename_i h _
      simp [hlist] at h
    · rw [if_pos (by simpa using hunique)]
      refine (handsOut_unique _ _ _).fewer fun value texts htexts => ⟨_, ?_, rfl⟩
      rw [htexts, Json.presentText?]
      by_cases hvalue : value.toJson = .null
      · rw [if_pos hvalue]
        exact List.nil_sublist _
      · rw [if_neg hvalue]
        exact List.Sublist.refl _

/-- Fields of validated documents whose values do not repeat: single scalars that are unique or an
identifier. -/
structure IsDistinct (doc : Document) (model : Model) (field : Field) : Prop where
  named : doc.WellNamed
  known : model ∈ doc.models
  owned : field ∈ model.fields
  scalar : field.kind = .scalar
  single : field.isList = false
  unique : field.isUnique = true ∨ field.isId = true

variable {sampler} {model owner : Model} {field : Field} {depth bound : UInt32}
  {expand : Expander depth bound}

section Below

variable (hexpand : ∀ target next below h, target ∈ sampler.document.models →
  AnswersFor (UniqueLedger.fieldKey model.name field.name) (expand target next below h)
    (MockRecord.texts model.name field.name))

include hexpand

private theorem answersFor_relationField (g : Field) :
    AnswersFor (UniqueLedger.fieldKey model.name field.name) (sampler.relationField expand g)
      fun member => member.nested.filterMap (MockRecord.text? model.name field.name) := by
  unfold relationField
  split
  · exact handsOut_pure (List.Perm.refl _)
  · rename_i target htarget
    have hmem := (Document.mem_of_model?_eq_some htarget).1
    split
    · have hend := yields_ofValueDraw (sampler.yields_terminal g target)
      refine ((handsOut_ofValueDraw _).and hend).mono fun member texts h => ?_
      obtain ⟨rfl, hend⟩ := h
      cases hend <;> exact List.Perm.refl _
    · rename_i next below hnext
      have hdraw := hexpand target next below (sampler.nextLevel?_fewer hnext) hmem
      dsimp only
      split
      · have hdraws := answersFor_mapM (List.range sampler.batchSize) fun _ _ => hdraw
        refine hdraws.map fun records texts htexts => ?_
        change texts.Perm ((MockMember.nestedInRecords records).filterMap _)
        rw [nestedInRecords_eq_flatMap, List.filterMap_flatMap]
        exact htexts
      · exact hdraw.map fun record texts htexts => htexts

variable (hfield : IsDistinct sampler.document model field)
  (howner : owner ∈ sampler.document.models)

include hfield howner

private theorem answersFor_member {g : Field} (hg : g ∈ owner.fields) :
    AnswersFor (UniqueLedger.fieldKey model.name field.name) (sampler.member expand owner g)
      fun held => (held.map fun member =>
        entryTexts model.name field.name owner.name (g.name, member)).getD [] := by
  -- only the field itself adds a text of its own; its values are scalars, and these are unique
  by_cases hnames : owner.name = model.name ∧ g.name = field.name
  · obtain ⟨rfl, rfl⟩ := hfield.named.eq_of_names hfield.known hfield.owned howner hg hnames
    unfold member
    rw [hfield.scalar]
    have hdraw := sampler.handsOut_scalarField owner hfield.single hfield.unique
    refine hdraw.map fun value texts htexts => ?_
    simp [htexts, entryTexts, MockMember.nested, MockMember.toJson]
  · unfold member
    split
    · refine (sampler.keeps_scalarField owner g).map fun value texts htexts => ?_
      simp [htexts, entryTexts, MockMember.nested, hnames]
    · refine (handsOut_ofValueDraw _).map fun value texts htexts => ?_
      simp [htexts, entryTexts, MockMember.nested, hnames]
    · refine (answersFor_relationField hexpand g).map fun member texts htexts => ?_
      simpa [entryTexts, hnames] using htexts
    · exact handsOut_pure (List.Perm.refl _)

private theorem answersFor_members (fields : List Field) (hfields : fields ⊆ owner.fields) :
    AnswersFor (UniqueLedger.fieldKey model.name field.name)
      (sampler.members expand owner fields)
      fun members => members.flatMap (entryTexts model.name field.name owner.name) := by
  induction fields with
  | nil => exact handsOut_pure (List.Perm.refl _)
  | cons g rest ih =>
    obtain ⟨hg, hrest⟩ := List.cons_subset.1 hfields
    unfold members
    refine (answersFor_member hexpand hfield howner hg).bind ?_
    rintro (_ | member) first hfirst
    · obtain rfl := List.Perm.eq_nil hfirst
      exact ih hrest
    · refine (ih hrest).map fun members second hsecond => ?_
      change (first ++ second).Perm (((g.name, member) :: members).flatMap _)
      rw [List.flatMap_cons]
      exact hfirst.append hsecond

end Below

private theorem answersFor_record (hfield : IsDistinct sampler.document model field) (owner : Model)
    (depth bound : UInt32) (howner : owner ∈ sampler.document.models) :
    AnswersFor (UniqueLedger.fieldKey model.name field.name) (sampler.record owner depth bound)
      (MockRecord.texts model.name field.name) := by
  induction owner, depth, bound using record.induct sampler with
  | case1 owner depth bound ih =>
    rw [record]
    have hmembers := answersFor_members ih hfield howner owner.fields (List.Subset.refl _)
    refine (hmembers.and (sampler.yields_names _ owner owner.fields)).map fun members texts h => ?_
    obtain ⟨htexts, hnames⟩ := h
    refine htexts.trans (texts_perm ?_).symm
    rw [hnames]
    exact nodup_mocked (hfield.named.fields owner howner).nodup

private theorem answersFor_records (hfield : IsDistinct sampler.document model field)
    (name : String)
    (count : Nat) :
    AnswersFor (UniqueLedger.fieldKey model.name field.name) (sampler.records name count)
      fun records => records.flatMap (MockRecord.texts model.name field.name) := by
  unfold records
  cases howner : sampler.document.model? name with
  | none => exact handsOut_throw _
  | some owner =>
    refine (handsOut_ofValueDraw _).bind fun _ _ hnothing => ?_
    rw [hnothing]
    exact answersFor_mapM _ fun _ _ =>
      answersFor_record hfield owner 0 _ (Document.mem_of_model?_eq_some howner).1

/-- The texts of a field over all records of a model in what the successful ones of some calls
gave. -/
def drawnTexts (sampler : Sampler) (model field : String) (calls : List (String × Nat))
    (s : SamplerState) : List String :=
  ((sampler.drawn calls s).filterMap Except.toOption).flatMap fun records =>
    records.flatMap (MockRecord.texts model field)

/-- Samples of a validated document do not repeat the values of a unique or identifying field. Over
any calls one after the other, from any state, the texts of the field differ between all records of
its model at all levels of what the successful calls gave; values that are null do not count. -/
theorem sampled_texts_nodup (sampler : Sampler) {model : Model} {field : Field}
    (hvalid : sampler.document.validate = .ok ()) (hmodel : model ∈ sampler.document.models)
    (hfield : field ∈ model.fields) (hkind : field.kind = .scalar) (hlist : field.isList = false)
    (hunique : field.isUnique = true ∨ field.isId = true) (calls : List (String × Nat))
    (s : SamplerState) :
    sampler.sampled calls s =
        (sampler.drawn calls s).map (Except.map (List.map MockRecord.toJson)) ∧
      (sampler.drawnTexts model.name field.name calls s).Nodup := by
  have hdistinct : IsDistinct sampler.document model field :=
    ⟨(Document.validate_eq_ok_iff _).1 hvalid, hmodel, hfield, hkind, hlist, hunique⟩
  have hcalls : ∀ draw ∈ calls.map fun call => sampler.records call.1 call.2,
      AnswersFor (UniqueLedger.fieldKey model.name field.name) draw
        fun records => records.flatMap (MockRecord.texts model.name field.name) := by
    intro draw hdraw
    obtain ⟨call, -, rfl⟩ := List.mem_map.1 hdraw
    exact answersFor_records hdistinct call.1 call.2
  exact ⟨sampler.sampled_eq_map calls s, (nodup_outcomes hcalls s).1⟩

def itemNumber : Field :=
  { Field.bare "number" .scalar "Int" with
    isId := true, defaultValue := some (.function "autoincrement" []) }

/-- A model whose records are numbered and point at one more of them. -/
def item : Model where
  name := "Item"
  dbName := none
  fields := [Field.bare "next" .relation "Item", itemNumber]
  documentation := none
  primaryKey := none
  uniqueFields := []

/-- Items of which those on the first level hold items. -/
def itemSampler : Sampler :=
  ofConfig .standard ⟨[item], [], []⟩ { GeneratorConfig.standard with relationMaxDepth := 1 }

theorem sampled_texts_nodup_items :
    itemSampler.drawnTexts "Item" "number" [("Item", 1), ("Order", 1), ("Item", 1)]
        (SamplerState.ofSeed 0) = ["2", "1", "4", "3"] ∧
      (itemSampler.drawnTexts "Item" "number" [("Item", 1), ("Order", 1), ("Item", 1)]
        (SamplerState.ofSeed 0)).Nodup := by
  have hmodel : item ∈ itemSampler.document.models := List.mem_singleton.2 rfl
  have hfield : itemNumber ∈ item.fields := List.mem_cons_of_mem _ (List.mem_singleton.2 rfl)
  exact ⟨by decide +kernel,
    (sampled_texts_nodup itemSampler (by decide +kernel) hmodel hfield rfl rfl (Or.inr rfl) _ _).2⟩

end Sampler

end SchemaMocks
