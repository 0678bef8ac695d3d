import Mathlib.Data.List.Forall2
import SchemaMocks.Mock.Sampler
import SchemaMocks.Proofs.Runs.Outcome

set_option autoImplicit false
set_option relaxedAutoImplicit false

/-!
What draws give. A draw may fail and changes a state on the way; a property of what it gives holds
of every value that it gives in any state. The rules follow the way draws are put together.
-/

namespace SchemaMocks

theorem exists_left_of_forall₂ {α β : Type} {R : α → β → Prop} {as : List α} {bs : List β} {b : β}
    (h : List.Forall₂ R as bs) (hb : b ∈ bs) : ∃ a ∈ as, R a b := by
  induction h with
  | nil => cases hb
  | cons hhead _ ih =>
    rcases List.mem_cons.1 hb with rfl | hb
    · exact ⟨_, List.mem_cons_self, hhead⟩
    · obtain ⟨a, ha, hab⟩ := ih hb
      exact ⟨a, List.mem_cons_of_mem _ ha, hab⟩

theorem exists_right_of_forall₂ {α β : Type} {R : α → β → Prop} {as : List α} {bs : List β} {a : α}
    (h : List.Forall₂ R as bs) (ha : a ∈ as) : ∃ b ∈ bs, R a b :=
  exists_left_of_forall₂ h.flip ha

section Yields

variable {σ α β : Type}

def Yields (draw : ExceptT MockFailure (StateM σ) α) (P : α → Prop) : Prop :=
  ∀ (s t : σ) (a : α), draw.run s = (.ok a, t) → P a

theorem yields_pure {P : α → Prop} {a : α} (h : P a) :
    Yields (pure a : ExceptT MockFailure (StateM σ) α) P := by
  intro s t b hrun
  cases hrun
  exact h

theorem yields_throw {P : α → Prop} (e : MockFailure) :
    Yields (throw e : ExceptT MockFailure (StateM σ) α) P := by
  intro s t a hrun
  cases hrun

variable {draw : ExceptT MockFailure (StateM σ) α}

theorem yields_any : Yields draw fun _ => True :=
  fun _ _ _ _ => trivial

theorem Yields.mono {P Q : α → Prop} (h : Yields draw P) (himp : ∀ a, P a → Q a) :
    Yields draw Q :=
  fun s t a hrun => himp a (h s t a hrun)

theorem Yields.bind {P : α → Prop} {Q : β → Prop} {next : α → ExceptT MockFailure (StateM σ) β}
    (h : Yields draw P) (hnext : ∀ a, P a → Yields (next a) Q) : Yields (draw >>= next) Q := by
  intro s t b hrun
  rw [bind_run] at hrun
  cases hdraw : draw.run s with
  | mk result u =>
    rw [hdraw] at hrun
    cases result with
    | error e => cases hrun
    | ok a => exact hnext a (h s u a hdraw) u t b hrun

theorem yields_mapM {γ : Type} {P : γ → α → Prop} {draw : γ → ExceptT MockFailure (StateM σ) α}
    {items : List γ} (h : ∀ c ∈ items, Yields (draw c) (P c)) :
    Yields (items.mapM draw) (List.Forall₂ P items) := by
  induction items with
  | nil => exact yields_pure List.Forall₂.nil
  | cons c rest ih =>
    rw [List.mapM_cons]
    refine (h c List.mem_cons_self).bind fun a ha => ?_
    refine (ih fun d hd => h d (List.mem_cons_of_mem _ hd)).bind fun as has => ?_
    exact yields_pure (List.Forall₂.cons ha has)

/-- The outcomes of draws one after the other. Each starts from the state that the one before left
behind, also where that one failed. -/
def outcomes : List (ExceptT MockFailure (StateM σ) α) → σ → List (Except MockFailure α)
  | [], _ => []
  | draw :: rest, s => (draw.run s).1 :: outcomes rest (draw.run s).2

end Yields

theorem ofValueDraw_run {α : Type} (draw : ValueDraw α) (s : SamplerState) :
    (Sampling.ofValueDraw draw).run s =
      ((draw.run s.values).1, { s with values := (draw.run s.values).2 }) :=
  rfl

theorem yields_ofValueDraw {α : Type} {draw : ValueDraw α} {P : α → Prop} (h : Yields draw P) :
    Yields (Sampling.ofValueDraw draw) P := by
  intro s t a hrun
  rw [ofValueDraw_run] at hrun
  exact h s.values (draw.run s.values).2 a (Prod.ext (Prod.mk.inj hrun).1 rfl)

namespace Sampler

def IsMocked (field : Field) : Prop :=
  field.kind ≠ .unsupported

instance (field : Field) : Decidable (IsMocked field) :=
  inferInstanceAs (Decidable (field.kind ≠ .unsupported))

def mocked (fields : List Field) : List Field :=
  fields.filter fun field => decide (IsMocked field)

theorem mem_mocked {field : Field} {fields : List Field} :
    field ∈ mocked fields ↔ field ∈ fields ∧ IsMocked field := by
  simp [mocked]

theorem nodup_mocked {fields : List Field} (h : (fields.map (·.name)).Nodup) :
    ((mocked fields).map (·.name)).Nodup :=
  h.sublist (List.filter_sublist.map _)

theorem names_of_members {R : Field → MockMember MockValue → Prop} {fields : List Field}
    {members : List (String × MockMember MockValue)}
    (h : List.Forall₂ (fun field entry => entry.1 = field.name ∧ R field entry.2) fields members) :
    members.map (·.1) = fields.map (·.name) := by
  induction h with
  | nil => rfl
  | cons hhead _ ih => rw [List.map_cons, List.map_cons, ih, hhead.1]

/-- What stands for a relation to a model that is not expanded. -/
inductive IsTerminal (field : Field) (target : Model) : MockMember MockValue → Prop
  | emptyList (hlist : field.isList = true) : IsTerminal field target .emptyList
  | optional (hlist : field.isList = false) (hrequired : field.isRequired = false) :
      IsTerminal field target .null
  | noId (hlist : field.isList = false) (hrequired : field.isRequired = true)
      (hid : target.idField? = none) : IsTerminal field target .null
  | stub {id : Field} (hlist : field.isList = false) (hrequired : field.isRequired = true)
      (hid : target.idField? = some id) (v : MockValue) :
      IsTerminal field target (.stub id.name v)

variable (sampler : Sampler)

/-- How a member comes about for a field at a depth and under a bound, with a property of the
records one level down. -/
inductive IsMember (P : Model → UInt32 → UInt32 → MockRecord MockValue → Prop)
    (depth bound : UInt32) (field : Field) : MockMember MockValue → Prop
  | value (hkind : field.kind = .scalar ∨ field.kind = .enum) (v : MockValue) :
      IsMember P depth bound field (.value v)
  | unknown (hkind : field.kind = .relation) (htarget : sampler.document.target? field = none) :
      IsMember P depth bound field .null
  | terminal {target : Model} {member : MockMember MockValue} (hkind : field.kind = .relation)
      (htarget : sampler.document.target? field = some target)
      (hnext : sampler.nextLevel? field depth bound = none)
      (hend : IsTerminal field target member) :
      IsMember P depth bound field member
  | single {target : Model} {next below : UInt32} {record : MockRecord MockValue}
      (hkind : field.kind = .relation) (htarget : sampler.document.target? field = some target)
      (hnext : sampler.nextLevel? field depth bound = some (next, below))
      (hlist : field.isList = false) (hrecord : P target next below record) :
      IsMember P depth bound field (.single record)
  | list {target : Model} {next below : UInt32} {records : List (MockRecord MockValue)}
      (hkind : field.kind = .relation) (htarget : sampler.document.target? field = some target)
      (hnext : sampler.nextLevel? field depth bound = some (next, below))
      (hlist : field.isList = true) (hlength : records.length = sampler.batchSize)
      (hrecords : ∀ record ∈ records, P target next below record) :
      IsMember P depth bound field (.list records)

private theorem yields_stub (target : Model) :
    Yields (sampler.stub target) fun (member : MockMember MockValue) =>
      match target.idField? with
      | none => member = .null
      | some id => ∃ v, member = .stub id.name v := by
  unfold stub
  cases target.idField? with
  | none => exact yields_pure rfl
  | some id =>
    exact yields_any.bind fun _ _ => yields_any.bind fun v _ => yields_pure ⟨v, rfl⟩

theorem yields_terminal (field : Field) (target : Model) :
    Yields (sampler.terminal field target) (IsTerminal field target) := by
  unfold terminal
  split
  · rename_i hlist
    exact yields_pure (.emptyList hlist)
  · rename_i hlist
    rw [Bool.not_eq_true] at hlist
    split
    · rename_i hrequired
      refine (sampler.yields_stub target).mono fun member hmember => ?_
      cases hid : target.idField? with
      | none =>
        rw [hid] at hmember
        rw [hmember]
        exact .noId hlist hrequired hid
      | some id =>
        rw [hid] at hmember
        obtain ⟨v, rfl⟩ := hmember
        exact .stub hlist hrequired hid v
    · rename_i hrequired
      exact yields_pure (.optional hlist (by simpa using hrequired))

variable {P : Model → UInt32 → UInt32 → MockRecord MockValue → Prop} {depth bound : UInt32}
  {expand : Expander depth bound}

section Below

variable
  (hexpand : ∀ target next below h, Yields (expand target next below h) (P target next below))

include hexpand

theorem yields_relationField {field : Field} (hkind : field.kind = .relation) :
    Yields (sampler.relationField expand field) (sampler.IsMember P depth bound field) := by
  unfold relationField
  split
  · rename_i htarget
    exact yields_pure (.unknown hkind htarget)
  · rename_i target htarget
    split
    · rename_i hnext
      exact (yields_ofValueDraw (sampler.yields_terminal field target)).mono fun member hend =>
        .terminal hkind htarget hnext hend
    · rename_i next below hnext
      have hdraw := hexpand target next below (sampler.nextLevel?_fewer hnext)
      dsimp only
      split
      · rename_i hlist
        refine (yields_mapM fun _ _ => hdraw).bind fun records hrecords => yields_pure ?_
        refine .list hkind htarget hnext hlist ?_ fun record hmem => ?_
        · rw [← hrecords.length_eq, List.length_range]
        · obtain ⟨_, -, hrecord⟩ := exists_left_of_forall₂ hrecords hmem
          exact hrecord
      · rename_i hlist
        rw [Bool.not_eq_true] at hlist
        exact hdraw.bind fun record hrecord =>
          yields_pure (.single hkind htarget hnext hlist hrecord)

private theorem yields_member (model : Model) (field : Field) :
    Yields (sampler.member expand model field) fun held =>
      (IsMocked field ↔ held.isSome) ∧
        ∀ member, held = some member → sampler.IsMember P depth bound field member := by
  unfold member
  split
  · rename_i hkind
    refine yields_any.bind fun v _ => yields_pure ⟨by simp [IsMocked, hkind], ?_⟩
    rintro _ ⟨⟩
    exact .value (Or.inl hkind) v
  · rename_i hkind
    refine yields_any.bind fun v _ => yields_pure ⟨by simp [IsMocked, hkind], ?_⟩
    rintro _ ⟨⟩
    exact .value (Or.inr hkind) v
  · rename_i hkind
    refine (sampler.yields_relationField hexpand hkind).bind fun m hm =>
      yields_pure ⟨by simp [IsMocked, hkind], ?_⟩
    rintro _ ⟨⟩
    exact hm
  · rename_i hkind
    exact yields_pure ⟨by simp [IsMocked, hkind], by simp⟩

private theorem yields_members (model : Model) (fields : List Field) :
    Yields (sampler.members expand model fields) fun members =>
      List.Forall₂ (fun field entry => entry.1 = field.name ∧
        sampler.IsMember P depth bound field entry.2) (mocked fields) members := by
  induction fields with
  | nil => exact yields_pure List.Forall₂.nil
  | cons field rest ih =>
    unfold members
    refine (sampler.yields_member hexpand model field).bind ?_
    rintro (_ | member) ⟨hmocked, hmember⟩
    · have hno : ¬IsMocked field := by simpa using hmocked
      simpa [mocked, List.filter_cons, hno] using ih
    · have hyes : IsMocked field := by simpa using hmocked
      refine ih.bind fun members hmembers => yields_pure ?_
      simpa [mocked, List.filter_cons, hyes] using ⟨hmember member rfl, hmembers⟩

end Below

theorem yields_valueMember {Q : MockValue → Prop} (expand : Expander depth bound) (model : Model)
    {field : Field} (hkind : field.kind = .scalar ∨ field.kind = .enum)
    (hscalar : field.kind = .scalar → Yields (sampler.scalarField model field) Q)
    (henum : field.kind = .enum → Yields (sampler.enumField model field) Q) :
    Yields (sampler.member expand model field) fun held => ∃ v, held = some (.value v) ∧ Q v := by
  unfold member
  rcases hkind with hkind | hkind
  · rw [hkind]
    exact (hscalar hkind).bind fun v hv => yields_pure ⟨v, rfl, hv⟩
  · rw [hkind]
    exact (yields_ofValueDraw (henum hkind)).bind fun v hv => yields_pure ⟨v, rfl, hv⟩

theorem yields_names (expand : Expander depth bound) (model : Model) (fields : List Field) :
    Yields (sampler.members expand model fields) fun members =>
      members.map (·.1) = (mocked fields).map (·.name) :=
  (sampler.yields_members (P := fun _ _ _ _ => True) (fun _ _ _ _ => yields_any) model fields).mono
    fun _ hmembers => names_of_members hmembers

theorem yields_record
    (step : ∀ (model : Model) (depth bound : UInt32)
      (members : List (String × MockMember MockValue)),
      List.Forall₂ (fun field entry => entry.1 = field.name ∧
        sampler.IsMember P depth bound field entry.2) (mocked model.fields) members →
      P model depth bound (.of model.name members))
    (model : Model) (depth bound : UInt32) :
    Yields (sampler.record model depth bound) (P model depth bound) := by
  induction model, depth, bound using record.induct sampler with
  | case1 model depth bound ih =>
    rw [record]
    have hmembers := sampler.yields_members (fun target next below h => ih target next below h)
      model model.fields
    exact hmembers.bind fun members h => yields_pure (step model depth bound members h)

/-- Records have what each of them has, and are as many as are asked for. -/
theorem yields_records {name : String} {model : Model} {Q : MockRecord MockValue → Prop}
    (hmodel : sampler.document.model? name = some model) (count : Nat)
    (h : Yields (sampler.record model 0 (sampler.config.depthFor model.name)) Q) :
    Yields (sampler.records name count) fun records =>
      records.length = count ∧ ∀ record ∈ records, Q record := by
  unfold records
  rw [hmodel]
  refine yields_any.bind fun _ _ => (yields_mapM fun _ _ => h).mono fun records hrecords => ?_
  refine ⟨by rw [← hrecords.length_eq, List.length_range], fun record hrecord => ?_⟩
  obtain ⟨_, -, hQ⟩ := exists_left_of_forall₂ hrecords hrecord
  exact hQ

/-- What is sampled is the JSON form of what is drawn. -/
theorem sample_run (name : String) (count : Nat) (s : SamplerState) :
    (sampler.sample name count).run s =
      (((sampler.records name count).run s).1.map (List.map MockRecord.toJson),
        ((sampler.records name count).run s).2) := by
  unfold sample
  rw [bind_run]
  rcases (sampler.records name count).run s with ⟨_ | _, _⟩ <;> rfl

/-- The outcomes of calls for so many records of a model, one after the other, as records. -/
def drawn (calls : List (String × Nat)) (s : SamplerState) :
    List (Except MockFailure (List (MockRecord MockValue))) :=
  outcomes (calls.map fun call => sampler.records call.1 call.2) s

/-- The outcomes of the same calls in JSON. -/
def sampled (calls : List (String × Nat)) (s : SamplerState) :
    List (Except MockFailure (List Json)) :=
  outcomes (calls.map fun call => sampler.sample call.1 call.2) s

theorem sampled_eq_map (calls : List (String × Nat)) (s : SamplerState) :
    sampler.sampled calls s =
      (sampler.drawn calls s).map (Except.map (List.map MockRecord.toJson)) := by
  unfold sampled drawn
  induction calls generalizing s with
  | nil => rfl
  | cons call rest ih => simp only [List.map_cons, outcomes, sample_run, ih]

end Sampler

end SchemaMocks
