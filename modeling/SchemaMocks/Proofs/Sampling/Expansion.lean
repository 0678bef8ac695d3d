import SchemaMocks.Mock.Vocabulary
import SchemaMocks.Proofs.Datamodel.Validation
import SchemaMocks.Proofs.Sampling.Draws

set_option autoImplicit false
set_option relaxedAutoImplicit false

/-!
How far sampled records expand. Depths and bounds are natural numbers here: an expansion of a model
at a depth holds expansions one level down as long as the depth is below the bound, and every
annotation on the way tightens the bound for all that is below it.
-/

namespace SchemaMocks

namespace Sampler

/-- The bound below a field: the one from above, or the annotated one where that is tighter. -/
def limit (field : Field) (bound : Nat) : Nat :=
  (field.relationDepth?.map fun depth => min depth.toNat bound).getD bound

theorem limit_le (field : Field) (bound : Nat) : limit field bound ≤ bound := by
  unfold limit
  cases field.relationDepth? with
  | none => exact Nat.le_refl _
  | some depth => exact Nat.min_le_right _ _

private theorem limit_le_relationDepth {field : Field} {depth : UInt32}
    (h : field.relationDepth? = some depth) (bound : Nat) : limit field bound ≤ depth.toNat := by
  rw [limit, h]
  exact Nat.min_le_left _ _

variable (sampler : Sampler)

mutual

/-- Objects that are expansions of a model at a depth under a bound: they have a member for each
field of a usable type and no other, and what they hold for relations stands for these. -/
def IsExpansion (model : Model) (depth bound : Nat) (value : Json) : Prop :=
  ∃ entries, value = .object entries ∧ (entries.map (·.1)).Nodup ∧
    (∀ name, name ∈ entries.map (·.1) ↔
      ∃ field ∈ model.fields, field.kind ≠ .unsupported ∧ field.name = name) ∧
    ∀ field ∈ model.fields, field.kind = .relation →
      ∃ held, Entries.get? field.name entries = some held ∧ StandsFor field depth bound held
termination_by (bound - depth, 1)

/-- What stands for a relation field at a depth under a bound. -/
def StandsFor (field : Field) (depth bound : Nat) (held : Json) : Prop :=
  match sampler.document.target? field with
  | none => held = .null
  | some target =>
    if _h : sampler.config.createRelationMocks = true ∧ depth < limit field bound then
      if field.isList then
        ∃ items, held = .array items ∧ items.length = sampler.batchSize ∧
          ∀ item ∈ items, IsExpansion target (depth + 1) (limit field bound) item
      else IsExpansion target (depth + 1) (limit field bound) held
    else if field.isList then held = .array []
    else if field.isRequired then
      match target.idField? with
      | none => held = .null
      | some id => ∃ value, held = .object [(id.name, value)]
    else held = .null
termination_by (bound - depth, 0)
decreasing_by
  all_goals
    have := limit_le field bound
    omega

end

end Sampler

/-- Whether records nest in a record of a model through some fields, each a field of the model that
the one before points at. -/
def MockRecord.Nests {ν : Type} (doc : Document) (model : Model) (record : MockRecord ν) :
    List Field → Prop
  | [] => True
  | field :: rest =>
    field ∈ model.fields ∧ ∃ target, doc.target? field = some target ∧
      ∃ member, (field.name, member) ∈ record.members ∧
        ∃ inner ∈ member.records, Nests doc target inner rest

def MockRecord.StaysWithin {ν : Type} (doc : Document) (model : Model) (depth bound : Nat)
    (record : MockRecord ν) : Prop :=
  ∀ path, record.Nests doc model path → path ≠ [] → depth + path.length ≤ bound ∧
    ∀ field ∈ path, ∀ k, field.relationDepth? = some k → depth + path.length ≤ k.toNat

namespace Sampler

variable {sampler : Sampler} {model : Model} {depth bound : UInt32}

private theorem limit_toNat (field : Field) (bound : UInt32) :
    limit field bound.toNat = (boundBelow field bound).toNat :=
  (toNat_boundBelow field bound).symm

theorem nextLevel?_eq_none {field : Field} (h : sampler.nextLevel? field depth bound = none) :
    ¬(sampler.config.createRelationMocks = true ∧ depth.toNat < limit field bound.toNat) := by
  rw [limit_toNat, ← UInt32.lt_iff_toNat_lt]
  simpa [nextLevel?] using h

theorem isExpandable_of_nextLevel? {field : Field} {next below : UInt32}
    (h : sampler.nextLevel? field depth bound = some (next, below)) :
    (sampler.config.createRelationMocks = true ∧ depth.toNat < limit field bound.toNat) ∧
      next.toNat = depth.toNat + 1 ∧ below.toNat = limit field bound.toNat := by
  obtain ⟨hcreate, hlt, rfl, hnext⟩ := sampler.nextLevel?_eq_some h
  rw [limit_toNat]
  exact ⟨⟨hcreate, UInt32.lt_iff_toNat_lt.1 hlt⟩, hnext, rfl⟩

private theorem standsFor_of_isMember {field : Field} {member : MockMember MockValue}
    (hkind : field.kind = .relation)
    (h : sampler.IsMember (fun target next below record =>
      target ∈ sampler.document.models →
        sampler.IsExpansion target next.toNat below.toNat record.toJson) depth bound field member) :
    sampler.StandsFor field depth.toNat bound.toNat member.toJson := by
  unfold StandsFor
  cases h with
  | value hvalue v => simp [hkind] at hvalue
  | unknown _ htarget => simp [htarget, MockMember.toJson]
  | terminal _ htarget hnext hend =>
    simp only [htarget, dif_neg (nextLevel?_eq_none hnext)]
    cases hend with
    | emptyList hlist => simp [hlist, MockMember.toJson]
    | optional hlist hrequired => simp [hlist, hrequired, MockMember.toJson]
    | noId hlist hrequired hid => simp [hlist, hrequired, hid, MockMember.toJson]
    | stub hlist hrequired hid v => simp [hlist, hrequired, hid, MockMember.toJson]
  | single _ htarget hnext hlist hrecord =>
    obtain ⟨hexpand, hnext, hbelow⟩ := isExpandable_of_nextLevel? hnext
    rw [hnext, hbelow] at hrecord
    simp only [htarget, dif_pos hexpand, hlist, Bool.false_eq_true, if_false, MockMember.toJson]
    exact hrecord (Document.mem_of_model?_eq_some htarget).1
  | list _ htarget hnext hlist hlength hrecords =>
    obtain ⟨hexpand, hnext, hbelow⟩ := isExpandable_of_nextLevel? hnext
    rw [hnext, hbelow] at hrecords
    simp only [htarget, dif_pos hexpand, hlist, if_true, MockMember.toJson,
      MockMember.recordsToJson_eq_map]
    refine ⟨_, rfl, by rw [List.length_map, hlength], ?_⟩
    simp only [List.forall_mem_map]
    exact fun record hmem => hrecords record hmem (Document.mem_of_model?_eq_some htarget).1

private theorem yields_isExpansion (hnamed : sampler.document.WellNamed) (model : Model)
    (depth bound : UInt32) :
    Yields (sampler.record model depth bound) fun record => model ∈ sampler.document.models →
      sampler.IsExpansion model depth.toNat bound.toNat record.toJson := by
  let P (model : Model) (depth bound : UInt32) (record : MockRecord MockValue) : Prop :=
    model ∈ sampler.document.models →
      sampler.IsExpansion model depth.toNat bound.toNat record.toJson
  refine sampler.yields_record (P := P) ?_ model depth bound
  intro model depth bound members hmembers hmodel
  have hnames := names_of_members hmembers
  have hkeys : (MockMember.entriesToJson members).map (·.1) =
      (mocked model.fields).map (·.name) := by
    rw [MockMember.keys_entriesToJson, ← hnames]
  have hnodup := nodup_mocked (hnamed.fields model hmodel).nodup
  unfold IsExpansion
  refine ⟨_, by rw [MockRecord.toJson], Dictionary.nodup_keys _, fun name => ?_,
    fun field hfield hkind => ?_⟩
  · refine (Dictionary.mem_keys_ofList _ name).trans ?_
    rw [hkeys]
    simp only [List.mem_map, mem_mocked, IsMocked, and_assoc]
  · have hmocked : field ∈ mocked model.fields := mem_mocked.2 ⟨hfield, by simp [IsMocked, hkind]⟩
    obtain ⟨⟨name, member⟩, hmem, rfl, hmember⟩ := exists_right_of_forall₂ hmembers hmocked
    refine ⟨member.toJson, ?_, standsFor_of_isMember hkind hmember⟩
    refine Dictionary.get?_ofList_of_mem (by rw [hkeys]; exact hnodup) ?_
    rw [MockMember.entriesToJson_eq_map]
    exact List.mem_map_of_mem hmem

private theorem below_of_mem_records {P : Model → UInt32 → UInt32 → MockRecord MockValue → Prop}
    {field : Field} {member : MockMember MockValue} {inner : MockRecord MockValue}
    (h : sampler.IsMember P depth bound field member) (hinner : inner ∈ member.records) :
    ∃ target next below, sampler.document.target? field = some target ∧
      sampler.nextLevel? field depth bound = some (next, below) ∧ P target next below inner := by
  cases h with
  | value _ v => cases hinner
  | unknown _ htarget => cases hinner
  | terminal _ htarget hnext hend => cases hend <;> cases hinner
  | single _ htarget hnext hlist hrecord =>
    obtain rfl := List.mem_singleton.1 hinner
    exact ⟨_, _, _, htarget, hnext, hrecord⟩
  | list _ htarget hnext hlist hlength hrecords =>
    exact ⟨_, _, _, htarget, hnext, hrecords inner hinner⟩

private theorem yields_staysWithin (hnamed : sampler.document.WellNamed) (model : Model)
    (depth bound : UInt32) :
    Yields (sampler.record model depth bound) fun record => model ∈ sampler.document.models →
      record.StaysWithin sampler.document model depth.toNat bound.toNat := by
  let P (model : Model) (depth bound : UInt32) (record : MockRecord MockValue) : Prop :=
    model ∈ sampler.document.models →
      record.StaysWithin sampler.document model depth.toNat bound.toNat
  refine sampler.yields_record (P := P) ?_ model depth bound
  intro model depth bound members hmembers hmodel
  rintro (_ | ⟨field, rest⟩) hnests hne
  · exact absurd rfl hne
  obtain ⟨hfield, target, htarget, member, hmember, inner, hinner, hrest⟩ := hnests
  obtain ⟨field', hfield', hname, hmember⟩ := exists_left_of_forall₂ hmembers hmember
  obtain rfl : field = field' := List.inj_on_of_nodup_map (hnamed.fields model hmodel).nodup hfield
    (mem_mocked.1 hfield').1 hname
  obtain ⟨target', next, below, htarget', hnext, hbelow⟩ := below_of_mem_records hmember hinner
  obtain rfl : target = target' := Option.some.inj (htarget.symm.trans htarget')
  obtain ⟨⟨-, hdepth⟩, hnext, hlimit⟩ := isExpandable_of_nextLevel? hnext
  -- the level below allows for the rest of the way, and its bound is the limit of this field
  have hlength : depth.toNat + (field :: rest).length ≤ limit field bound.toNat ∧
      ∀ f ∈ rest, ∀ k, f.relationDepth? = some k →
        depth.toNat + (field :: rest).length ≤ k.toNat := by
    cases rest with
    | nil => exact ⟨hdepth, by simp⟩
    | cons f fs =>
      have h := hbelow (Document.mem_of_model?_eq_some htarget).1 (f :: fs) hrest (by simp)
      rw [hnext, hlimit, Nat.add_assoc, Nat.add_comm 1] at h
      exact h
  refine ⟨Nat.le_trans hlength.1 (limit_le field _), fun f hf k hk => ?_⟩
  rcases List.mem_cons.1 hf with rfl | hf
  · exact Nat.le_trans hlength.1 (limit_le_relationDepth hk _)
  · exact hlength.2 f hf k hk

/-- Sampled records of a validated document expand exactly down to their bounds. One level down the
depth is one more as a number and fewer levels are left, so that drawing never adds past the largest
word and always ends. What comes out is a list of expansions of the model at depth zero, under the
bound of the model; no chain of records that nest in one of them is longer than that bound or than
the annotation of any field on the chain. -/
theorem sample_expands (sampler : Sampler) {name : String} {model : Model} (count : Nat)
    (hvalid : sampler.document.validate = .ok ())
    (hmodel : sampler.document.model? name = some model) :
    (∀ field depth bound next below, sampler.nextLevel? field depth bound = some (next, below) →
      next = depth + 1 ∧ next.toNat = depth.toNat + 1 ∧
        below.toNat - next.toNat < bound.toNat - depth.toNat) ∧
    ∀ s t objects, (sampler.sample name count).run s = (.ok objects, t) →
      ∃ records, (sampler.records name count).run s = (.ok records, t) ∧
        objects = records.map MockRecord.toJson ∧ records.length = count ∧
        ∀ record ∈ records,
          sampler.IsExpansion model 0 (sampler.config.depthFor model.name).toNat record.toJson ∧
          ∀ path, record.Nests sampler.document model path →
            path.length ≤ (sampler.config.depthFor model.name).toNat ∧
            ∀ field ∈ path, ∀ k, field.relationDepth? = some k → path.length ≤ k.toNat := by
  refine ⟨fun field depth bound next below h => ?_, fun s t objects hrun => ?_⟩
  · obtain ⟨-, -, -, hnext⟩ := sampler.nextLevel?_eq_some h
    refine ⟨?_, hnext, sampler.nextLevel?_fewer h⟩
    simp only [nextLevel?, Option.ite_none_right_eq_some, Option.some.injEq, Prod.mk.injEq] at h
    exact h.2.1.symm
  · rw [sample_run] at hrun
    cases hdraw : (sampler.records name count).run s with
    | mk result t' =>
      rw [hdraw] at hrun
      cases result with
      | error e => cases hrun
      | ok records =>
        cases hrun
        have hnamed := (Document.validate_eq_ok_iff _).1 hvalid
        have hmem := (Document.mem_of_model?_eq_some hmodel).1
        have hexpands := sampler.yields_records hmodel count
          (yields_isExpansion hnamed model 0 _) s _ records hdraw
        have hstays := sampler.yields_records hmodel count
          (yields_staysWithin hnamed model 0 _) s _ records hdraw
        refine ⟨records, rfl, rfl, hexpands.1, fun record hrecord => ?_⟩
        refine ⟨hexpands.2 record hrecord hmem, fun path hpath => ?_⟩
        by_cases hne : path = []
        · subst hne
          simp
        · simpa using hstays.2 record hrecord hmem path hpath hne

def node : Model where
  name := "Node"
  dbName := none
  fields := [
    { Field.bare "next" .relation "Node" with isRequired := true },
    { Field.bare "all" .relation "Node" with isList := true }]
  documentation := none
  primaryKey := none
  uniqueFields := []

/-- Nodes of which those on the first level hold nodes. -/
def nodeSampler : Sampler :=
  ofConfig .standard ⟨[node], [], []⟩ { GeneratorConfig.standard with relationMaxDepth := 1 }

theorem sample_expands_nodes :
    ∃ objects t, (nodeSampler.sample "Node" 1).run (SamplerState.ofSeed 0) = (.ok objects, t) ∧
      objects.length = 1 ∧ ∀ object ∈ objects, nodeSampler.IsExpansion node 0 1 object := by
  have hok : ((nodeSampler.sample "Node" 1).run (SamplerState.ofSeed 0)).1 =
      .ok [.object [
        ("all", .array [
          .object [("all", .array []), ("next", .null)],
          .object [("all", .array []), ("next", .null)]]),
        ("next", .object [("all", .array []), ("next", .null)])]] := by
    decide +kernel
  refine ⟨_, _, Prod.ext hok rfl, rfl, ?_⟩
  obtain ⟨records, -, hobjects, -, hrecords⟩ :=
    (sample_expands nodeSampler 1 (by decide +kernel) rfl).2 _ _ _ (Prod.ext hok rfl)
  rw [hobjects, List.forall_mem_map]
  exact fun record hrecord => (hrecords record hrecord).1

end Sampler

end SchemaMocks
