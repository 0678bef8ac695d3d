import SchemaMocks.Mock.Vocabulary
import SchemaMocks.Proofs.Binary64.Integers
import SchemaMocks.Proofs.Directive.Marks
import SchemaMocks.Proofs.Sampling.Lists

set_option autoImplicit false
set_option relaxedAutoImplicit false

/-!
Integers drawn from ranges. The whole numbers of a range are drawn between its bounds moved inwards
to integers and clamped to 64 bits; bounds that have passed each other are swapped. What is drawn
leaves the range exactly where the range has no integer of 64 bits: where it lies beyond them, or in
a list of an enum that is named like a type with fractional digits, which is told that it fits a
range between two integers and then draws whole numbers.
-/

namespace SchemaMocks

section Reaches

variable {σ α β : Type}

def Reaches (I : σ → Prop) (draw : ExceptT MockFailure (StateM σ) α) (P : α → Prop) : Prop :=
  ∀ s, I s → ∃ a t, draw.run s = (.ok a, t) ∧ P a

variable {I J : σ → Prop} {draw : ExceptT MockFailure (StateM σ) α} {P : α → Prop}

theorem reaches_pure {a : α} (h : P a) :
    Reaches I (pure a : ExceptT MockFailure (StateM σ) α) P :=
  fun s _ => ⟨a, s, rfl, h⟩

theorem LeadsTo.bind_reaches {Q : β → Prop} {a : α}
    {next : α → ExceptT MockFailure (StateM σ) β} (h : LeadsTo I draw a J)
    (hnext : Reaches J (next a) Q) : Reaches I (draw >>= next) Q := by
  intro s hs
  obtain ⟨t, hrun, ht⟩ := h s hs
  rw [bind_run, hrun]
  exact hnext t ht

private theorem Reaches.bind {Q : β → Prop} {next : α → ExceptT MockFailure (StateM σ) β}
    (h : Reaches I draw P) (hnext : ∀ a, P a → Reaches (fun _ => True) (next a) Q) :
    Reaches I (draw >>= next) Q := by
  intro s hs
  obtain ⟨a, t, hrun, ha⟩ := h s hs
  rw [bind_run, hrun]
  exact hnext a ha t trivial

theorem Reaches.weaken (h : Reaches (fun _ => True) draw P) : Reaches I draw P :=
  fun s _ => h s trivial

private theorem reaches_mapM {γ : Type} {R : γ → α → Prop}
    {draw : γ → ExceptT MockFailure (StateM σ) α}
    {items : List γ} (h : ∀ c ∈ items, Reaches (fun _ => True) (draw c) (R c)) :
    Reaches (fun _ => True) (items.mapM draw) (List.Forall₂ R items) := by
  induction items with
  | nil => exact reaches_pure .nil
  | cons c rest ih =>
    rw [List.mapM_cons]
    refine (h c List.mem_cons_self).bind fun a ha => ?_
    refine (ih fun d hd => h d (List.mem_cons_of_mem c hd)).bind fun as has => ?_
    exact reaches_pure (.cons ha has)

end Reaches

section Lifted

variable {α : Type} {P : α → Prop} {I : ValueState → Prop}

private theorem reaches_ofDraw {draw : Draw α} (h : draw.Gives P) :
    Reaches I (ValueDraw.ofAttempt (liftM draw)) P :=
  fun s _ => ⟨(draw.run s.stream).1, { s with stream := (draw.run s.stream).2 }, rfl, h s.stream⟩

theorem reaches_ofValueDraw {draw : ValueDraw α} (h : Reaches I draw P) :
    Reaches (fun s : SamplerState => I s.values) (Sampling.ofValueDraw draw) P := by
  intro s hs
  obtain ⟨a, t, hrun, ha⟩ := h s.values hs
  exact ⟨a, { s with values := t }, by rw [ofValueDraw_run, hrun], ha⟩

theorem reaches_unique {P : MockValue → Prop} {draw : ValueDraw MockValue} (model field : String)
    (h : Reaches I draw P) :
    Reaches (fun s : SamplerState => I s.values ∧ s.ledger = UniqueLedger.empty)
      (Sampling.unique model field draw) P := by
  rintro ⟨values, ledger⟩ ⟨hvalues, hledger⟩
  obtain rfl : ledger = UniqueLedger.empty := hledger
  obtain ⟨value, t, hrun, hvalue⟩ := h values hvalues
  exact ⟨value, _, Prod.ext (unique_unhanded model field hrun) rfl, hvalue⟩

end Lifted

def MockValue.HoldsInt (n : Int64) : MockValue → Prop
  | .int m => m = n
  | .list items => .int n ∈ items
  | _ => False

private theorem Binary64.toInt_clampInt64 (k : Int) :
    (Binary64.clampInt64 k).toInt = max (-9223372036854775808) (min k 9223372036854775807) :=
  Int64.toInt_ofInt_of_le (by omega) (by omega)

namespace Directive

variable {min max : Finite64} {scalar : Option ScalarType}

def IsBetweenEnds (min max : Finite64) (n : Int64) : Prop :=
  Min.min (Binary64.clampInt64 min.ceil).toInt (Binary64.clampInt64 max.floor).toInt ≤ n.toInt ∧
    n.toInt ≤ Max.max (Binary64.clampInt64 min.ceil).toInt (Binary64.clampInt64 max.floor).toInt

def IsRangeValue (whole : Bool) (min max : Finite64) (value : MockValue) : Prop :=
  if whole then ∃ n, value = .int n ∧ IsBetweenEnds min max n else ∃ x, value = .float x

def IsRangeList (whole : Bool) (min max : Finite64) (value : MockValue) : Prop :=
  ∃ items, value = .list items ∧ items ≠ [] ∧ ∀ item ∈ items, IsRangeValue whole min max item

section Integers

variable {whole : Bool} {value : MockValue} {n : Int64}

private theorem IsRangeValue.of_holdsInt (h : IsRangeValue whole min max value)
    (hn : value.HoldsInt n) :
    whole = true ∧ IsBetweenEnds min max n := by
  cases whole with
  | true =>
    obtain ⟨m, rfl, hm⟩ := h
    obtain rfl : m = n := hn
    exact ⟨rfl, hm⟩
  | false =>
    obtain ⟨x, rfl⟩ := h
    exact hn.elim

private theorem IsRangeValue.exists_int (h : IsRangeValue true min max value) :
    ∃ n, value = .int n := by
  obtain ⟨n, hn, -⟩ := h
  exact ⟨n, hn⟩

private theorem IsRangeList.of_holdsInt (h : IsRangeList whole min max value)
    (hn : value.HoldsInt n) :
    whole = true ∧ IsBetweenEnds min max n := by
  obtain ⟨items, rfl, -, hitems⟩ := h
  exact (hitems (.int n) hn).of_holdsInt rfl

private theorem IsRangeList.exists_holdsInt (h : IsRangeList true min max value) :
    ∃ n, value.HoldsInt n := by
  obtain ⟨items, rfl, hne, hitems⟩ := h
  obtain ⟨item, hitem⟩ := List.exists_mem_of_ne_nil items hne
  obtain ⟨n, rfl⟩ := (hitems item hitem).exists_int
  exact ⟨n, hitem⟩

end Integers

variable (profile : MockProfile) (name : String)

private theorem value_range :
    (range min max).value profile name scalar = .ofAttempt (rangeValue scalar min max) :=
  rfl

private theorem yields_rangeValue :
    Yields ((range min max).value profile name scalar)
      (IsRangeValue (!scalar.any ScalarType.isFractional) min max) := by
  rw [value_range]
  refine yields_ofAttempt ?_
  unfold rangeValue IsRangeValue
  cases scalar.any ScalarType.isFractional with
  | true => exact yields_any.bind fun x _ => yields_pure ⟨x, rfl⟩
  | false =>
    exact (yields_ofDraw (Draw.gives_intBetween _ _)).bind fun n hn => yields_pure ⟨n, rfl, hn⟩

private theorem reaches_rangeValue (hwhole : scalar.any ScalarType.isFractional = false) :
    Reaches (fun _ => True) ((range min max).value profile name scalar)
      (IsRangeValue true min max) := by
  have hdraw : Draw.Gives (do
      return MockValue.int (← Draw.intBetween (Binary64.clampInt64 min.ceil)
        (Binary64.clampInt64 max.floor))) (IsRangeValue true min max) :=
    (Draw.gives_intBetween _ _).bind fun n hn => Draw.gives_pure ⟨n, rfl, hn⟩
  rw [value_range, rangeValue, hwhole]
  exact reaches_ofDraw hdraw

private theorem isRangeList_of_forall₂ {whole : Bool} {count : Int} {items : List MockValue}
    (hcount : 1 ≤ count)
    (h : List.Forall₂ (fun _ item => IsRangeValue whole min max item)
      (List.range count.toNat) items) : IsRangeList whole min max (.list items) := by
  have hlength := h.length_eq
  rw [List.length_range] at hlength
  refine ⟨items, rfl, ?_, fun item hitem => ?_⟩
  · rintro rfl
    rw [List.length_nil] at hlength
    omega
  · obtain ⟨_, -, hvalue⟩ := exists_left_of_forall₂ h hitem
    exact hvalue

theorem gives_count : Draw.Gives (Draw.between .bits64 1 3) fun count => 1 ≤ count ∧ count ≤ 3 :=
  Draw.gives_between .bits64 (by decide) (by decide)

private theorem yields_rangeList :
    Yields ((range min max).listValue profile name scalar)
      (IsRangeList (!scalar.any ScalarType.isFractional) min max) := by
  refine (yields_ofAttempt (yields_ofDraw gives_count)).bind fun count hcount => ?_
  refine (yields_mapM fun _ _ => yields_rangeValue profile name).bind fun items hitems => ?_
  exact yields_pure (isRangeList_of_forall₂ hcount.1 hitems)

private theorem reaches_rangeList (hwhole : scalar.any ScalarType.isFractional = false) :
    Reaches (fun _ => True) ((range min max).listValue profile name scalar)
      (IsRangeList true min max) := by
  refine (reaches_ofDraw gives_count).bind fun count hcount => ?_
  refine (reaches_mapM fun _ _ => reaches_rangeValue profile name hwhole).bind
    fun items hitems => ?_
  exact reaches_pure (isRangeList_of_forall₂ hcount.1 hitems)

end Directive

namespace Field

variable {field : Field} {min max : Finite64}

def rangeScalar? (field : Field) : Option ScalarType :=
  if field.kind = .enum ∧ field.isList = true then none else field.scalar?

def drawsWhole (field : Field) : Bool :=
  !field.rangeScalar?.any ScalarType.isFractional

def IsDrawnFrom (field : Field) (min max : Finite64) (value : MockValue) : Prop :=
  if field.isList then Directive.IsRangeList field.drawsWhole min max value
  else Directive.IsRangeValue field.drawsWhole min max value

section Integers

variable {value : MockValue} {n : Int64}

private theorem IsDrawnFrom.of_holdsInt (h : field.IsDrawnFrom min max value)
    (hn : value.HoldsInt n) :
    field.drawsWhole = true ∧ Directive.IsBetweenEnds min max n := by
  unfold IsDrawnFrom at h
  split at h
  · exact h.of_holdsInt hn
  · exact h.of_holdsInt hn

private theorem IsDrawnFrom.exists_holdsInt (h : field.IsDrawnFrom min max value)
    (hwhole : field.drawsWhole = true) : ∃ n, value.HoldsInt n := by
  unfold IsDrawnFrom at h
  rw [hwhole] at h
  split at h
  · exact h.exists_holdsInt
  · obtain ⟨n, rfl⟩ := h.exists_int
    exact ⟨n, rfl⟩

end Integers

/-- The ranges of a field that hold none of the integers drawn from them. -/
inductive LeavesRange (field : Field) (min max : Finite64) : Prop
  /-- There is no integer between the bounds: a type name with fractional digits has let the range
  pass, and a list of an enum draws whole numbers all the same. -/
  | empty (hkind : field.kind = .enum) (hlist : field.isList = true)
      (hfractional : field.scalar?.any ScalarType.isFractional = true)
      (hempty : max.floor < min.ceil)
  | above (hwhole : field.drawsWhole = true) (habove : 9223372036854775807 < min.ceil)
  | below (hwhole : field.drawsWhole = true) (hbelow : max.floor < -9223372036854775808)

private theorem ceil_le_floor (hsource : field.explicitSource? = some (.directive (.range min max)))
    (hwhole : field.drawsWhole = true) (hstays : ¬field.LeavesRange min max) :
    min.ceil ≤ max.floor := by
  obtain ⟨d, hd, hdirective⟩ | ⟨d, hd, -⟩ := explicitSource?_cases hsource
  · cases hd
    have hfits : (Directive.range min max).fits field.scalar? = true := List.find?_some hdirective
    rcases Bool.or_eq_true_iff.1 hfits with hfractional | hordered
    · by_cases hlist : field.kind = .enum ∧ field.isList = true
      · by_contra hempty
        exact hstays (.empty hlist.1 hlist.2 hfractional (not_le.1 hempty))
      · rw [drawsWhole, rangeScalar?, if_neg hlist, hfractional] at hwhole
        cases hwhole
    · exact of_decide_eq_true hordered
  · cases hd

private theorem ends_within (hsource : field.explicitSource? = some (.directive (.range min max)))
    (hstays : ¬field.LeavesRange min max) (hwhole : field.drawsWhole = true) {n : Int64}
    (hn : Directive.IsBetweenEnds min max n) : min.ceil ≤ n.toInt ∧ n.toInt ≤ max.floor := by
  have hordered := ceil_le_floor hsource hwhole hstays
  have habove : ¬9223372036854775807 < min.ceil := fun h => hstays (.above hwhole h)
  have hbelow : ¬max.floor < -9223372036854775808 := fun h => hstays (.below hwhole h)
  obtain ⟨hlow, hhigh⟩ := hn
  rw [Binary64.toInt_clampInt64, Binary64.toInt_clampInt64] at hlow hhigh
  omega

private theorem LeavesRange.drawsWhole (h : field.LeavesRange min max) :
    field.drawsWhole = true := by
  cases h with
  | empty hkind hlist =>
    rw [Field.drawsWhole, rangeScalar?, if_pos ⟨hkind, hlist⟩]
    rfl
  | above hwhole => exact hwhole
  | below hwhole => exact hwhole

private theorem LeavesRange.not_within (h : field.LeavesRange min max) (n : Int64) :
    ¬(min.ceil ≤ n.toInt ∧ n.toInt ≤ max.floor) := by
  have hleast := n.le_toInt
  have hgreatest := n.toInt_lt
  rintro ⟨hlow, hhigh⟩
  cases h with
  | empty _ _ _ hempty => omega
  | above _ habove => omega
  | below _ hbelow => omega

end Field

namespace Sampler

variable (sampler : Sampler) (model : Model) {field : Field} {min max : Finite64}

theorem exists_valueMember {Q : MockValue → Prop}
    (hkind : field.kind = .scalar ∨ field.kind = .enum)
    (hscalar : field.kind = .scalar →
      Reaches (fun s : SamplerState => s.values.IsOnes ∧ s.ledger = UniqueLedger.empty)
        (sampler.scalarField model field) Q)
    (henum : field.kind = .enum → Reaches ValueState.IsOnes (sampler.enumField model field) Q) :
    ∃ (depth bound : UInt32) (before after : SamplerState) (v : MockValue),
      (sampler.member (fun target next below (_ : _ < bound.toNat - depth.toNat) =>
        sampler.record target next below) model field).run before =
          (.ok (some (.value v)), after) ∧ Q v := by
  let ones : SamplerState := ⟨⟨⟨fun _ => 4294967295, 0⟩, Dictionary.empty, []⟩, UniqueLedger.empty⟩
  let expand : Expander 0 0 := fun target next below _ => sampler.record target next below
  have hmember : Reaches (fun s : SamplerState => s.values.IsOnes ∧ s.ledger = UniqueLedger.empty)
      (sampler.member expand model field) fun held => ∃ v, held = some (.value v) ∧ Q v := by
    unfold Sampler.member
    rcases hkind with hkind | hkind
    · rw [hkind]
      exact (hscalar hkind).bind fun v hv => reaches_pure ⟨v, rfl, hv⟩
    · rw [hkind]
      refine Reaches.bind (P := Q) ?_ fun v hv => reaches_pure ⟨v, rfl, hv⟩
      rintro s ⟨hones, -⟩
      exact reaches_ofValueDraw (henum hkind) s hones
  obtain ⟨held, after, hrun, v, rfl, hv⟩ := hmember ones ⟨rfl, rfl⟩
  exact ⟨0, 0, ones, after, v, hrun, hv⟩

section Range

variable (hsource : field.explicitSource? = some (.directive (.range min max)))

include hsource

private theorem yields_rangeScalar (hkind : field.kind = .scalar) :
    Yields (sampler.scalarField model field) fun value =>
      value = .null ∨ field.IsDrawnFrom min max value := by
  have htype : field.rangeScalar? = field.scalar? := if_neg (by simp [hkind])
  unfold scalarField Field.IsDrawnFrom Field.drawsWhole
  rw [scalarSource_of_directive hsource, htype]
  refine yields_any.bind fun _ _ => yields_any.bind fun null _ => ?_
  split
  · exact yields_pure (.inl rfl)
  · cases field.isList with
    | true =>
      exact (yields_ofValueDraw (Directive.yields_rangeList _ _)).mono fun _ => .inr
    | false =>
      have hvalue : Yields ((Directive.range min max).value sampler.profile field.name field.scalar?)
          (Directive.IsRangeValue (!field.scalar?.any ScalarType.isFractional) min max) :=
        Directive.yields_rangeValue sampler.profile field.name
      dsimp only
      split
      · exact (yields_unique _ _ hvalue).mono fun _ => .inr
      · exact (yields_ofValueDraw hvalue).mono fun _ => .inr

private theorem yields_rangeEnum (hkind : field.kind = .enum) :
    Yields (sampler.enumField model field) fun value =>
      value = .null ∨ field.IsDrawnFrom min max value := by
  unfold enumField Field.IsDrawnFrom Field.drawsWhole Field.rangeScalar?
  simp only [hsource, hkind, true_and]
  refine yields_any.bind fun _ _ => yields_any.bind fun null _ => ?_
  split
  · exact yields_pure (.inl rfl)
  · cases field.isList with
    | true => exact (Directive.yields_rangeList _ _).mono fun _ => .inr
    | false => exact (Directive.yields_rangeValue sampler.profile field.name).mono fun _ => .inr

private theorem reaches_rangeScalar (hkind : field.kind = .scalar)
    (hwhole : field.drawsWhole = true) :
    Reaches (fun s : SamplerState => s.values.IsOnes ∧ s.ledger = UniqueLedger.empty)
      (sampler.scalarField model field) (field.IsDrawnFrom min max) := by
  have htype : field.rangeScalar? = field.scalar? := if_neg (by simp [hkind])
  have hinteger : field.scalar?.any ScalarType.isFractional = false := by
    simpa only [Field.drawsWhole, htype, Bool.not_eq_true'] using hwhole
  unfold scalarField Field.IsDrawnFrom
  rw [scalarSource_of_directive hsource, hwhole]
  refine (leadsTo_unhanded (leadsTo_notices_ones _)).bind_reaches ?_
  refine (leadsTo_unhanded (leadsTo_chance_ones _)).bind_reaches ?_
  have hlifted (draw : ValueDraw MockValue) (P : MockValue → Prop)
      (h : Reaches (fun _ => True) draw P) :
      Reaches (fun s : SamplerState => s.values.IsOnes ∧ s.ledger = UniqueLedger.empty)
        (Sampling.ofValueDraw draw) P :=
    (reaches_ofValueDraw h).weaken
  rw [if_neg Bool.false_ne_true]
  cases field.isList with
  | true => exact hlifted _ _ (Directive.reaches_rangeList sampler.profile field.name hinteger)
  | false =>
    have hvalue : Reaches (fun _ => True)
        ((Directive.range min max).value sampler.profile field.name field.scalar?)
        (Directive.IsRangeValue true min max) :=
      Directive.reaches_rangeValue sampler.profile field.name hinteger
    dsimp only
    split
    · exact reaches_unique _ _ hvalue.weaken
    · exact hlifted _ _ hvalue

private theorem reaches_rangeEnum (hkind : field.kind = .enum) (hwhole : field.drawsWhole = true) :
    Reaches ValueState.IsOnes (sampler.enumField model field) (field.IsDrawnFrom min max) := by
  have hinteger : field.rangeScalar?.any ScalarType.isFractional = false := by
    simpa only [Field.drawsWhole, Bool.not_eq_true'] using hwhole
  unfold Field.rangeScalar? at hinteger
  unfold enumField Field.IsDrawnFrom
  simp only [hsource, hwhole]
  simp only [hkind, true_and] at hinteger
  refine (leadsTo_notices_ones _).bind_reaches ((leadsTo_chance_ones _).bind_reaches ?_)
  cases hlist : field.isList with
  | true => exact (Directive.reaches_rangeList sampler.profile field.name rfl).weaken
  | false =>
    rw [hlist, if_neg Bool.false_ne_true] at hinteger
    exact (Directive.reaches_rangeValue sampler.profile field.name hinteger).weaken

end Range

section Integers

/-- Whether an integer can be drawn for a field of a model: in a record of the model, at some depth
and under some bound, or in the stub that stands for one. -/
inductive DrawsInt (sampler : Sampler) (model : Model) (field : Field) (n : Int64) : Prop
  | member {depth bound : UInt32} {before after : SamplerState} {value : MockValue}
      (hrun : (sampler.member (fun target next below (_ : _ < bound.toNat - depth.toNat) =>
        sampler.record target next below) model field).run before =
          (.ok (some (.value value)), after))
      (hholds : value.HoldsInt n)
  | stub {before after : ValueState} {value : MockValue} (hid : model.idField? = some field)
      (hrun : (sampler.stub model).run before = (.ok (.stub field.name value), after))
      (hholds : value.HoldsInt n)

variable {sampler model}
  (hsource : field.explicitSource? = some (.directive (.range min max)))

include hsource

private theorem yields_rangeStub (hid : model.idField? = some field) :
    Yields (sampler.stub model) fun held => ∀ name value, held = .stub name value →
      Directive.IsRangeValue (!field.scalar?.any ScalarType.isFractional) min max value := by
  unfold Sampler.stub
  simp only [hid, scalarSource_of_directive hsource]
  refine yields_any.bind fun _ _ => ?_
  refine (Directive.yields_rangeValue sampler.profile field.name).bind
    fun value hvalue => yields_pure ?_
  rintro _ _ ⟨⟩
  exact hvalue

private theorem DrawsInt.isBetweenEnds {n : Int64} (h : sampler.DrawsInt model field n)
    (hkind : field.kind = .scalar ∨ field.kind = .enum) :
    field.drawsWhole = true ∧ Directive.IsBetweenEnds min max n := by
  cases h with
  | @member _ _ before after value hrun hholds =>
    obtain ⟨_, ⟨⟩, hvalue⟩ := sampler.yields_valueMember _ model hkind
      (sampler.yields_rangeScalar model hsource) (sampler.yields_rangeEnum model hsource)
      before after _ hrun
    obtain rfl | hdrawn := hvalue
    · exact hholds.elim
    · exact hdrawn.of_holdsInt hholds
  | @stub before after value hid hrun hholds =>
    have hvalue := yields_rangeStub hsource hid before after _ hrun _ value rfl
    obtain ⟨hwhole, hbetween⟩ := hvalue.of_holdsInt hholds
    refine ⟨?_, hbetween⟩
    unfold Field.drawsWhole Field.rangeScalar?
    split
    · rfl
    · exact hwhole

private theorem exists_drawsInt (hkind : field.kind = .scalar ∨ field.kind = .enum)
    (hwhole : field.drawsWhole = true) : ∃ n, sampler.DrawsInt model field n := by
  obtain ⟨_, _, _, _, value, hrun, hvalue⟩ := sampler.exists_valueMember model hkind
    (fun hscalar => sampler.reaches_rangeScalar model hsource hscalar hwhole)
    (fun henum => sampler.reaches_rangeEnum model hsource henum hwhole)
  obtain ⟨n, hn⟩ := hvalue.exists_holdsInt hwhole
  exact ⟨n, .member hrun hn⟩

end Integers

/-- The integers that are drawn for a field from a range stay in it, as exact numbers, if and only
if the range is not one that holds none of them. -/
theorem drawn_within_iff (sampler : Sampler) (model : Model)
    (hkind : field.kind = .scalar ∨ field.kind = .enum)
    (hsource : field.explicitSource? = some (.directive (.range min max))) :
    (∀ n, sampler.DrawsInt model field n →
      min.units ≤ n.toInt * Finite64.unitsPerOne ∧ n.toInt * Finite64.unitsPerOne ≤ max.units) ↔
      ¬field.LeavesRange min max := by
  simp only [← Finite64.ceil_le_iff, ← Finite64.le_floor_iff]
  constructor
  · intro hwithin hleaves
    obtain ⟨n, hn⟩ := exists_drawsInt hsource hkind hleaves.drawsWhole
    exact hleaves.not_within n (hwithin n hn)
  · intro hstays n hn
    obtain ⟨hwhole, hbetween⟩ := hn.isBetweenEnds hsource hkind
    exact Field.ends_within hsource hstays hwhole hbetween

/-- A list of whole numbers between -3 and 5. -/
theorem drawn_within_iff_levels :
    let field := { Field.bare "levels" .scalar "Int" with
      isList := true
      isRequired := true
      documentation := some "@mock.range(-3, 5)" }
    let low : Finite64 := ⟨true, 6755399441055744, -51, by decide⟩
    let high : Finite64 := ⟨false, 5629499534213120, -50, by decide⟩
    field.explicitSource? = some (.directive (.range low high)) ∧
      ∀ n, (ofConfig .standard ⟨[], [], []⟩ .standard).DrawsInt (Model.bare "Game" [field]) field n →
        -3 ≤ n.toInt ∧ n.toInt ≤ 5 := by
  intro field low high
  have hsource : field.explicitSource? = some (.directive (.range low high)) := by decide +kernel
  have hlow : low.ceil = -3 := by decide +kernel
  have hhigh : high.floor = 5 := by decide +kernel
  have hstays : ¬field.LeavesRange low high := by
    rintro (⟨hkind, -, -, -⟩ | ⟨-, habove⟩ | ⟨-, hbelow⟩)
    · cases hkind
    · omega
    · omega
  refine ⟨hsource, fun n hn => ?_⟩
  have hwithin := (drawn_within_iff (ofConfig .standard ⟨[], [], []⟩ .standard)
    (Model.bare "Game" [field]) (.inl rfl) hsource).2 hstays n hn
  rw [← Finite64.ceil_le_iff, ← Finite64.le_floor_iff, hlow, hhigh] at hwithin
  exact hwithin

/-- A list of an enum named Decimal takes a range between one and two, and is drawn the integers on
both sides of it. -/
theorem fractional_name_leaves_range :
    let field := { Field.bare "ratios" .enum "Decimal" with
      isList := true
      isRequired := true
      documentation := some "@mock.range(1.2, 1.8)" }
    let low : Finite64 := ⟨false, 5404319552844595, -52, by decide⟩
    let high : Finite64 := ⟨false, 8106479329266893, -52, by decide⟩
    field.explicitSource? = some (.directive (.range low high)) ∧
      1 * Finite64.unitsPerOne < low.units ∧ high.units < 2 * Finite64.unitsPerOne ∧
      (((ofConfig .standard ⟨[Model.bare "Bag" [field]], [⟨"Decimal", [⟨"A", none⟩], none, none⟩], []⟩
        .standard).sample "Bag" 1).run (.ofSeed 0)).1 =
          .ok [.object [("ratios", .array (
            [1, 2, 1].map fun n => .number (Json.Number.ofInt64 n)))]] := by
  decide +kernel

/-- A range beyond the integers of 64 bits is met by the last of them. -/
example :
    let field := { Field.bare "count" .scalar "Int" with
      isRequired := true
      documentation := some "@mock.range(9223372036854775808, 9223372036854775808)" }
    let bound : Finite64 := ⟨false, 4503599627370496, 11, by decide⟩
    field.explicitSource? = some (.directive (.range bound bound)) ∧
      9223372036854775807 * Finite64.unitsPerOne < bound.units ∧
      (((ofConfig .standard ⟨[Model.bare "Bag" [field]], [], []⟩ .standard).sample "Bag" 1).run
        (.ofSeed 0)).1 =
          .ok [.object [("count", .number (Json.Number.ofInt64 9223372036854775807))]] := by
  decide +kernel

end Sampler

end SchemaMocks
