import SchemaMocks.Proofs.Sampling.Present

set_option autoImplicit false
set_option relaxedAutoImplicit false

/-!
Where samplers draw null. A field without a source that the document states is null by the chance of
an optional field, or because something that it refers to is missing, and nowhere else. That it can
be null there is shown on a stream of zeros, on which every coin falls on null.
-/

namespace SchemaMocks

/-- Whether mocks of a field that follow no source of the document can be null: something that the
field refers to is missing, or the field is optional. A list of related records is empty instead. -/
inductive Field.CanBeNull (doc : Document) (field : Field) : Prop
  | unknownType (hkind : field.kind = .scalar) (htype : field.scalar? = none)
  | noValues (hkind : field.kind = .enum)
      (hvalues : ∀ e, doc.enum? field.typeName = some e → e.valueNames = [])
  | unknownModel (hkind : field.kind = .relation) (htarget : doc.target? field = none)
  | noId {target : Model} (hkind : field.kind = .relation) (hlist : field.isList = false)
      (htarget : doc.target? field = some target) (hid : target.idField? = none)
  | optional (hrequired : field.isRequired = false)
      (hsingle : field.kind = .relation → field.isList = false)

namespace Field

variable {doc : Document} {field : Field}

theorem canBeNull_scalar_iff (hkind : field.kind = .scalar) :
    field.CanBeNull doc ↔ field.scalar? = none ∨ field.isRequired = false := by
  constructor
  · rintro (⟨-, htype⟩ | ⟨hother⟩ | ⟨hother⟩ | ⟨hother⟩ | ⟨hrequired⟩)
    · exact .inl htype
    · simp [hkind] at hother
    · simp [hkind] at hother
    · simp [hkind] at hother
    · exact .inr hrequired
  · rintro (htype | hrequired)
    · exact .unknownType hkind htype
    · exact .optional hrequired (by simp [hkind])

theorem canBeNull_enum_iff (hkind : field.kind = .enum) :
    field.CanBeNull doc ↔
      (∀ e, doc.enum? field.typeName = some e → e.valueNames = []) ∨ field.isRequired = false := by
  constructor
  · rintro (⟨hother⟩ | ⟨-, hvalues⟩ | ⟨hother⟩ | ⟨hother⟩ | ⟨hrequired⟩)
    · simp [hkind] at hother
    · exact .inl hvalues
    · simp [hkind] at hother
    · simp [hkind] at hother
    · exact .inr hrequired
  · rintro (hvalues | hrequired)
    · exact .noValues hkind hvalues
    · exact .optional hrequired (by simp [hkind])

theorem canBeNull_relation_iff (hkind : field.kind = .relation) :
    field.CanBeNull doc ↔ doc.target? field = none ∨ field.isList = false ∧
      ((∃ target, doc.target? field = some target ∧ target.idField? = none) ∨
        field.isRequired = false) := by
  constructor
  · rintro (⟨hother⟩ | ⟨hother⟩ | ⟨-, htarget⟩ | ⟨-, hlist, htarget, hid⟩ | ⟨hrequired, hsingle⟩)
    · simp [hkind] at hother
    · simp [hkind] at hother
    · exact .inl htarget
    · exact .inr ⟨hlist, .inl ⟨_, htarget, hid⟩⟩
    · exact .inr ⟨hsingle hkind, .inr hrequired⟩
  · rintro (htarget | ⟨hlist, ⟨target, htarget, hid⟩ | hrequired⟩)
    · exact .unknownModel hkind htarget
    · exact .noId hkind hlist htarget hid
    · exact .optional hrequired fun _ => hlist

end Field

namespace Sampler

variable (sampler : Sampler)

section Missing

variable {field : Field}

private theorem yields_scalarField (model : Model) (hkind : field.kind = .scalar)
    (hsource : field.explicitSource? = none) :
    Yields (sampler.scalarField model field) fun value =>
      value.IsPresent ∨ field.CanBeNull sampler.document := by
  cases htype : field.scalar? with
  | none => exact yields_any.mono fun _ _ => .inr (.unknownType hkind htype)
  | some scalar =>
    have hvalue := yields_scalarSource sampler.profile model hsource htype
    unfold scalarField
    refine yields_any.bind fun _ _ => ?_
    refine (yields_ofValueDraw (yields_chance _)).bind fun null hnull => ?_
    split
    · rename_i hchance
      have hrequired : field.isRequired = false := by
        simpa using (Bool.and_eq_true_iff.1 (hnull hchance)).1
      exact yields_pure (.inr (.optional hrequired (by simp [hkind])))
    · refine Yields.mono (P := MockValue.IsPresent) ?_ fun _ => .inl
      split
      · rename_i d _ hdirective
        exact absurd hdirective (scalarSource_ne_directive hsource d)
      · exact yields_ofValueDraw (yields_oneToThree _)
      · exact yields_ofValueDraw (yields_oneToThree _)
      · split
        · exact yields_unique _ _ hvalue
        · exact yields_ofValueDraw hvalue

private theorem yields_enumField (model : Model) (hkind : field.kind = .enum)
    (hsource : field.explicitSource? = none) :
    Yields (sampler.enumField model field) fun value =>
      value.IsPresent ∨ field.CanBeNull sampler.document := by
  unfold enumField enumValue
  simp only [hsource]
  refine yields_any.bind fun _ _ => ?_
  split
  · rename_i hnames
    refine yields_pure (.inr (.noValues hkind fun e he => ?_))
    simpa [he] using hnames
  · rename_i hnames
    refine (yields_chance _).bind fun null hnull => ?_
    split
    · rename_i hchance
      exact yields_pure (.inr (.optional (by simpa using hnull hchance) (by simp [hkind])))
    · refine Yields.mono (P := MockValue.IsPresent) ?_ fun _ => .inl
      split
      · exact yields_any.bind fun _ _ => yields_pure nofun
      · refine (yields_ofAttempt (yields_ofDraw (Draw.gives_pick (by simpa using hnames)))).bind ?_
        intro name hname
        obtain ⟨name, rfl⟩ := Option.isSome_iff_exists.1 hname
        exact yields_pure nofun

private theorem isMember_null {P : Model → UInt32 → UInt32 → MockRecord MockValue → Prop}
    {depth bound : UInt32} {member : MockMember MockValue} (hkind : field.kind = .relation)
    (hmember : sampler.IsMember P depth bound field member) (hnull : member.toJson = .null) :
    field.CanBeNull sampler.document := by
  cases hmember with
  | value hother => simp [hkind] at hother
  | unknown _ htarget => exact .unknownModel hkind htarget
  | terminal _ htarget _ hend =>
    cases hend with
    | emptyList => cases hnull
    | optional hlist hrequired => exact .optional hrequired fun _ => hlist
    | noId hlist _ hid => exact .noId hkind hlist htarget hid
    | stub => simp [MockMember.toJson] at hnull
  | @single _ _ _ record =>
    cases record
    simp [MockMember.toJson, MockRecord.toJson] at hnull
  | list => simp [MockMember.toJson] at hnull

private theorem yields_canBeNull {depth bound : UInt32} (expand : Expander depth bound)
    (model : Model)
    (hsource : field.explicitSource? = none) :
    Yields (sampler.member expand model field) fun held =>
      ∀ member, held = some member → member.toJson = .null →
        field.CanBeNull sampler.document := by
  unfold Sampler.member
  split
  · rename_i hkind
    refine (sampler.yields_scalarField model hkind hsource).bind fun value hvalue => yields_pure ?_
    rintro _ ⟨⟩ hnull
    exact hvalue.resolve_left fun hpresent => hpresent hnull
  · rename_i hkind
    refine (yields_ofValueDraw (sampler.yields_enumField model hkind hsource)).bind
      fun value hvalue => yields_pure ?_
    rintro _ ⟨⟩ hnull
    exact hvalue.resolve_left fun hpresent => hpresent hnull
  · rename_i hkind
    refine (sampler.yields_relationField (P := fun _ _ _ _ => True) (fun _ _ _ _ => yields_any)
      hkind).bind fun related hrelated => yields_pure ?_
    rintro _ ⟨⟩ hnull
    exact sampler.isMember_null hkind hrelated hnull
  · exact yields_pure nofun

/-- Whether null can be drawn for a field of a model, at some depth and under some bound. -/
def DrawsNull (model : Model) (field : Field) : Prop :=
  ∃ (depth bound : UInt32) (before after : SamplerState) (member : MockMember MockValue),
    (sampler.member (fun target next below (_ : _ < bound.toNat - depth.toNat) =>
      sampler.record target next below) model field).run before = (.ok (some member), after) ∧
      member.toJson = .null

private theorem canBeNull_of_drawsNull {model : Model} (hsource : field.explicitSource? = none)
    (hnull : sampler.DrawsNull model field) : field.CanBeNull sampler.document := by
  obtain ⟨_, _, before, after, member, hrun, hnull⟩ := hnull
  exact sampler.yields_canBeNull _ model hsource before after (some member) hrun member rfl hnull

end Missing

end Sampler

section Zeros

variable {σ α β : Type}

def LeadsTo (I : σ → Prop) (draw : ExceptT MockFailure (StateM σ) α) (a : α) (J : σ → Prop) : Prop :=
  ∀ s, I s → ∃ t, draw.run s = (.ok a, t) ∧ J t

theorem leadsTo_pure {I : σ → Prop} (a : α) : LeadsTo I (pure a) a I :=
  fun s hs => ⟨s, rfl, hs⟩

theorem LeadsTo.bind {I J K : σ → Prop} {draw : ExceptT MockFailure (StateM σ) α} {a : α}
    {next : α → ExceptT MockFailure (StateM σ) β} {b : β} (h : LeadsTo I draw a J)
    (hnext : LeadsTo J (next a) b K) : LeadsTo I (draw >>= next) b K := by
  intro s hs
  obtain ⟨t, hrun, ht⟩ := h s hs
  rw [bind_run, hrun]
  exact hnext t ht

def ValueState.IsZeros (s : ValueState) : Prop :=
  s.stream.word = fun _ => 0

def SamplerState.IsFresh (s : SamplerState) : Prop :=
  s.values.IsZeros ∧ s.ledger = UniqueLedger.empty

theorem leadsTo_unhanded {I : ValueState → Prop} {draw : ValueDraw α} {a : α}
    (h : LeadsTo I draw a I) :
    LeadsTo (fun s : SamplerState => I s.values ∧ s.ledger = UniqueLedger.empty)
      (Sampling.ofValueDraw draw) a
        fun s => I s.values ∧ s.ledger = UniqueLedger.empty := by
  intro s ⟨hvalues, hledger⟩
  obtain ⟨t, hrun, ht⟩ := h s.values hvalues
  exact ⟨{ s with values := t }, by rw [ofValueDraw_run, hrun], ht, hledger⟩

private theorem leadsTo_ofValueDraw {draw : ValueDraw α} {a : α}
    (h : LeadsTo ValueState.IsZeros draw a ValueState.IsZeros) :
    LeadsTo SamplerState.IsFresh (Sampling.ofValueDraw draw) a SamplerState.IsFresh :=
  leadsTo_unhanded h

private theorem leadsTo_notices (ns : List Notice) :
    LeadsTo ValueState.IsZeros (ValueDraw.notices ns) () ValueState.IsZeros :=
  fun _ hs => ⟨_, rfl, hs⟩

private theorem boolean_zeros (position : Nat) :
    (Draw.boolean.run ⟨fun _ => 0, position⟩).1 = true := by
  have hword (place : Nat) : Draw.word.run ⟨fun _ => 0, place⟩ =
      (pure (0, ⟨fun _ => 0, place + 1⟩) : Id (UInt32 × WordStream)) :=
    rfl
  unfold Draw.boolean Draw.word64
  simp only [StateT.run_bind, StateT.run_pure, hword, pure_bind]
  have hcoin : ((0 : UInt32).toUInt64 ||| (0 : UInt32).toUInt64 <<< 32).toNat <
      9223372036854775808 := by
    decide
  exact decide_eq_true hcoin

private theorem leadsTo_chance (condition : Bool) :
    LeadsTo ValueState.IsZeros (Sampler.chance condition) condition ValueState.IsZeros := by
  cases condition with
  | false => exact leadsTo_pure false
  | true =>
    rintro ⟨⟨word, position⟩, counters, noticed⟩ hs
    obtain rfl : word = fun _ => 0 := hs
    refine ⟨⟨⟨fun _ => 0, position + 1 + 1⟩, counters, noticed⟩, ?_, rfl⟩
    unfold Sampler.chance
    rw [if_pos rfl]
    change (Except.ok (Draw.boolean.run ⟨fun _ => 0, position⟩).1, _) = _
    rw [boolean_zeros]

theorem unique_unhanded (model field : String) {draw : ValueDraw MockValue} {value : MockValue}
    {s t : ValueState} (hrun : draw.run s = (.ok value, t)) :
    ((Sampling.unique model field draw).run ⟨s, UniqueLedger.empty⟩).1 = .ok value := by
  have hsearch : UniqueLedger.search draw.run [] (999 + 1) s = (.ok (some value), t) := by
    rw [UniqueLedger.search, hrun]
    rfl
  have hunused : UniqueLedger.empty.usedUnder (UniqueLedger.fieldKey model field) = [] := rfl
  have hattempts : UniqueLedger.empty.maxAttempts.toNat = 999 + 1 := rfl
  change (Sampling.unique model field draw ⟨s, UniqueLedger.empty⟩).1 = _
  unfold Sampling.unique UniqueLedger.draw
  simp only [hunused, hattempts, hsearch]

private theorem leadsTo_unique (model field : String) {draw : ValueDraw MockValue}
    {value : MockValue}
    (h : LeadsTo ValueState.IsZeros draw value ValueState.IsZeros) :
    LeadsTo SamplerState.IsFresh (Sampling.unique model field draw) value fun _ => True := by
  rintro ⟨values, ledger⟩ ⟨hzeros, hledger⟩
  obtain rfl : ledger = UniqueLedger.empty := hledger
  obtain ⟨t, hrun, -⟩ := h values hzeros
  exact ⟨_, Prod.ext (unique_unhanded model field hrun) rfl, trivial⟩

private theorem LeadsTo.any {I J : σ → Prop} {draw : ExceptT MockFailure (StateM σ) α} {a : α}
    (h : LeadsTo I draw a J) : LeadsTo I draw a fun _ => True :=
  fun s hs => (h s hs).imp fun _ ht => ⟨ht.1, trivial⟩

end Zeros

section Null

namespace Sampler

variable (sampler : Sampler) {field : Field}

private theorem leadsTo_scalarField (model : Model) (hsource : field.explicitSource? = none)
    (hnull : field.scalar? = none ∨ field.isRequired = false) :
    LeadsTo SamplerState.IsFresh (sampler.scalarField model field) .null fun _ => True := by
  unfold scalarField
  refine (leadsTo_ofValueDraw (leadsTo_notices _)).bind ?_
  refine (leadsTo_ofValueDraw (leadsTo_chance _)).bind ?_
  cases htype : field.scalar? with
  | none =>
    have hplaceholder : field.scalarSource = .placeholder := by
      simp [Field.scalarSource, hsource, htype]
    rw [hplaceholder]
    simp only [MockSource.mayBeNull, Bool.and_false, Bool.false_eq_true, if_false]
    have hvalue : LeadsTo ValueState.IsZeros
        (MockSource.value sampler.profile model field .placeholder) .null ValueState.IsZeros :=
      leadsTo_pure MockValue.null
    cases field.isList <;> dsimp only <;> split
    · exact leadsTo_unique _ _ hvalue
    · exact (leadsTo_ofValueDraw hvalue).any
    · exact leadsTo_unique _ _ hvalue
    · exact (leadsTo_ofValueDraw hvalue).any
  | some scalar =>
    have hrequired : field.isRequired = false := hnull.resolve_left (by simp [htype])
    have hcoin : field.scalarSource.mayBeNull = true := by
      simp only [Field.scalarSource, hsource, htype]
      split <;> rfl
    simp only [hrequired, hcoin, Bool.not_false, Bool.and_true, if_true]
    exact (leadsTo_pure _).any

private theorem leadsTo_enumField (model : Model) (hsource : field.explicitSource? = none)
    (hnull : (∀ e, sampler.document.enum? field.typeName = some e → e.valueNames = []) ∨
      field.isRequired = false) :
    LeadsTo ValueState.IsZeros (sampler.enumField model field) .null ValueState.IsZeros := by
  unfold enumField enumValue
  simp only [hsource]
  refine (leadsTo_notices _).bind ?_
  split
  · exact leadsTo_pure _
  · rename_i hnames
    have hrequired : field.isRequired = false := by
      refine hnull.resolve_left fun hvalues => hnames ?_
      cases henum : sampler.document.enum? field.typeName with
      | none => rfl
      | some e => simp [hvalues e henum]
    refine (leadsTo_chance _).bind ?_
    rw [hrequired]
    exact leadsTo_pure _

private theorem leadsTo_relationField (expand : Expander 0 0)
    (hnull : sampler.document.target? field = none ∨ field.isList = false ∧
      ((∃ target, sampler.document.target? field = some target ∧ target.idField? = none) ∨
        field.isRequired = false)) :
    LeadsTo SamplerState.IsFresh (sampler.relationField expand field) .null fun _ => True := by
  unfold relationField
  split
  · exact (leadsTo_pure _).any
  · rename_i target htarget
    obtain ⟨hlist, hnull⟩ := hnull.resolve_left (by simp [htarget])
    split
    · refine (leadsTo_ofValueDraw ?_).any
      unfold terminal stub
      rw [hlist]
      rcases hnull with ⟨_, hknown, hid⟩ | hrequired
      · obtain rfl := Option.some.inj (htarget.symm.trans hknown)
        rw [hid]
        cases field.isRequired <;> exact leadsTo_pure _
      · rw [hrequired]
        exact leadsTo_pure _
    · rename_i next below hnext
      obtain ⟨-, hlt, rfl, -⟩ := sampler.nextLevel?_eq_some hnext
      have hle := boundBelow_le field 0
      exact absurd (Nat.lt_of_lt_of_le (UInt32.lt_iff_toNat_lt.1 hlt) hle) (Nat.lt_irrefl _)

theorem drawsNull_iff (model : Model) (hmocked : IsMocked field)
    (hsource : field.explicitSource? = none) :
    sampler.DrawsNull model field ↔ field.CanBeNull sampler.document := by
  refine ⟨sampler.canBeNull_of_drawsNull hsource, fun hnull => ?_⟩
  let zeros : SamplerState := ⟨⟨⟨fun _ => 0, 0⟩, Dictionary.empty, []⟩, UniqueLedger.empty⟩
  let expand : Expander 0 0 := fun target next below _ => sampler.record target next below
  have hmember (member : MockMember MockValue) (hjson : member.toJson = .null)
      (h : LeadsTo SamplerState.IsFresh (sampler.member expand model field) (some member)
        fun _ => True) : sampler.DrawsNull model field := by
    obtain ⟨after, hrun, -⟩ := h zeros ⟨rfl, rfl⟩
    exact ⟨0, 0, zeros, after, member, hrun, hjson⟩
  cases hkind : field.kind with
  | scalar =>
    refine hmember (.value .null) rfl ?_
    unfold Sampler.member
    rw [hkind]
    exact (sampler.leadsTo_scalarField model hsource
      ((Field.canBeNull_scalar_iff hkind).1 hnull)).bind (leadsTo_pure _)
  | enum =>
    refine hmember (.value .null) rfl ?_
    unfold Sampler.member
    rw [hkind]
    exact (leadsTo_ofValueDraw (sampler.leadsTo_enumField model hsource
      ((Field.canBeNull_enum_iff hkind).1 hnull))).any.bind (leadsTo_pure _)
  | relation =>
    refine hmember .null rfl ?_
    unfold Sampler.member
    rw [hkind]
    exact (sampler.leadsTo_relationField expand ((Field.canBeNull_relation_iff hkind).1 hnull)).bind
      (leadsTo_pure _)
  | unsupported => exact absurd hkind hmocked

end Sampler

end Null

end SchemaMocks
