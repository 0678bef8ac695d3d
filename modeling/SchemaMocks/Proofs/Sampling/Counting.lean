import SchemaMocks.Proofs.Sampling.Counters
import SchemaMocks.Proofs.Sampling.Uniqueness

set_option autoImplicit false
set_option relaxedAutoImplicit false

/-!
Fields that count up. The records of a model draw the numbers of such a field through the ledger and
the identifiers that stand alone draw them directly, all from one counter. Whatever is in the ledger
for the field is the text of a number that the counter has passed, so that the next number is always
new: the ledger never asks twice, and the numbers come up one after the other.
-/

namespace SchemaMocks

/-- The first number that a signed word of 64 bits does not hold. -/
def signedLimit : Nat := 9223372036854775808

/-- The numbers after one up to another, as values. -/
def numbersAfter (low high : Nat) : List MockValue :=
  (List.range' (low + 1) (high - low)).map fun n => .int (Int64.ofNat n)

theorem numbersAfter_self (n : Nat) : numbersAfter n n = [] := by
  rw [numbersAfter, Nat.sub_self]
  rfl

private theorem numbersAfter_succ (n : Nat) :
    numbersAfter n (n + 1) = [.int (Int64.ofNat (n + 1))] := by
  rw [numbersAfter, Nat.add_sub_cancel_left]
  rfl

theorem numbersAfter_append {low middle high : Nat} (hlow : low ≤ middle) (hhigh : middle ≤ high) :
    numbersAfter low middle ++ numbersAfter middle high = numbersAfter low high := by
  have hstart : middle + 1 = low + 1 + (middle - low) := by omega
  have hcount : high - low = (middle - low) + (high - middle) := by omega
  unfold numbersAfter
  rw [← List.map_append, hstart, List.range'_append_1, ← hcount]

private theorem uniqueKey_number {n : Nat} (h : n < signedLimit) :
    (MockValue.int (Int64.ofNat n)).uniqueKey = toString n := by
  have hint : (Int64.ofNat n).toInt = n := Int64.toInt_ofNat_of_lt h
  change String.ofList (toString (Int64.ofNat n).toInt).toList = _
  rw [hint, String.ofList_toList]
  rfl

private theorem toString_number_inj {m n : Nat} (h : toString m = toString n) : m = n := by
  have hdigits : Nat.toDigits 10 m = Nat.toDigits 10 n := by
    rwa [Nat.toString_eq_ofList_toDigits, Nat.toString_eq_ofList_toDigits, String.ofList_inj] at h
  calc
    m = Nat.ofDigitChars 10 (Nat.toDigits 10 m) 0 := Nat.ofDigitChars_ten_toDigits.symm
    _ = Nat.ofDigitChars 10 (Nat.toDigits 10 n) 0 := by rw [hdigits]
    _ = n := Nat.ofDigitChars_ten_toDigits

structure Tracked (key : String) (s : SamplerState) : Prop where
  attempts : 0 < s.ledger.maxAttempts.toNat
  texts : ∀ text ∈ s.ledger.usedUnder key, ∃ n ≤ s.values.reached key, text = toString n

private theorem Tracked.fresh {key : String} {s : SamplerState} (h : Tracked key s) :
    toString (s.values.reached key + 1) ∉ s.ledger.usedUnder key := by
  intro hmem
  obtain ⟨n, hn, htext⟩ := h.texts _ hmem
  have hsame := toString_number_inj htext
  omega

private theorem Tracked.of_le {key : String} {s t : SamplerState} (h : Tracked key s)
    (hreached : s.values.reached key ≤ t.values.reached key)
    (hused : t.ledger.usedUnder key = s.ledger.usedUnder key)
    (hattempts : t.ledger.maxAttempts = s.ledger.maxAttempts) : Tracked key t where
  attempts := hattempts ▸ h.attempts
  texts text htext := by
    rw [hused] at htext
    obtain ⟨n, hn, rfl⟩ := h.texts text htext
    exact ⟨n, Nat.le_trans hn hreached, rfl⟩

/-- Draws that count up under a key and give out the numbers, one after the other, as long as a word
holds them. They do not fail for want of a new one. -/
def counting (key : String) : Effect SamplerState MockValue where
  Step s t given := s.values.reached key ≤ t.values.reached key ∧
    (Tracked key s → t.values.reached key < signedLimit →
      Tracked key t ∧ given = numbersAfter (s.values.reached key) (t.values.reached key))
  Fails s t e := s.values.reached key ≤ t.values.reached key ∧
    (Tracked key s → t.values.reached key < signedLimit → Tracked key t ∧ e.IsNotFor key)
  still s := ⟨Nat.le_refl _, fun h _ => ⟨h, (numbersAfter_self _).symm⟩⟩
  trans := by
    rintro s t u first second ⟨hst, hfirst⟩ ⟨htu, hsecond⟩
    refine ⟨Nat.le_trans hst htu, fun hs hlimit => ?_⟩
    obtain ⟨ht, rfl⟩ := hfirst hs (Nat.lt_of_le_of_lt htu hlimit)
    obtain ⟨hu, rfl⟩ := hsecond ht hlimit
    exact ⟨hu, numbersAfter_append hst htu⟩
  fails_trans := by
    rintro s t u first e ⟨hst, hfirst⟩ ⟨htu, hfails⟩
    refine ⟨Nat.le_trans hst htu, fun hs hlimit => ?_⟩
    exact hfails (hfirst hs (Nat.lt_of_le_of_lt htu hlimit)).1 hlimit

section Draws

variable {α : Type} {key : String}

private theorem counting_still {s t : SamplerState}
    (hreached : t.values.reached key = s.values.reached key)
    (htracked : Tracked key s → Tracked key t) : (counting key).Step s t [] :=
  ⟨Nat.le_of_eq hreached.symm, fun hs _ =>
    ⟨htracked hs, by rw [hreached, numbersAfter_self]⟩⟩

theorem unique_fails {model field : String} {draw : ValueDraw MockValue} {s : SamplerState}
    {e : MockFailure} (h : ((Sampling.unique model field draw).run s).1 = .error e) :
    (∃ attempts, e = .exhausted (UniqueLedger.fieldKey model field) attempts) ∨
      ∃ before, (draw.run before).1 = .error e := by
  rw [unique_answer] at h
  rcases hdraw : (s.ledger.draw model field draw.run s.values).1 with failure | value
  · rw [hdraw] at h
    obtain rfl : failure.asMock = e := by simpa [Except.mapError] using h
    rcases UniqueLedger.draw_error _ _ _ _ _ hdraw with rfl | ⟨e, before, rfl, hbefore⟩
    · exact .inl ⟨_, rfl⟩
    · exact .inr ⟨before, hbefore⟩
  · rw [hdraw] at h
    cases h

theorem emits_leaving {draw : ValueDraw α} (h : Keeps (leavingCounter key) draw) :
    Emits (counting key) (Sampling.ofValueDraw draw) fun _ given => given = [] where
  gives {s t a} hrun := by
    rw [ofValueDraw_run] at hrun
    obtain ⟨-, rfl⟩ := Prod.mk.inj hrun
    have hsame := h.reached s.values
    exact ⟨[], counting_still hsame fun hs => hs.of_le (Nat.le_of_eq hsame.symm) rfl rfl, rfl⟩
  fails {s t e} hrun := by
    rw [ofValueDraw_run] at hrun
    obtain ⟨hresult, rfl⟩ := Prod.mk.inj hrun
    have hsame := h.reached s.values
    refine ⟨Nat.le_of_eq hsame.symm, fun hs _ => ⟨?_, h.isNotFor hresult⟩⟩
    exact hs.of_le (Nat.le_of_eq hsame.symm) rfl rfl

theorem emits_unique_other {model field : String} {draw : ValueDraw MockValue}
    (hkey : UniqueLedger.fieldKey model field ≠ key) (h : Keeps (leavingCounter key) draw) :
    Emits (counting key) (Sampling.unique model field draw) fun _ given => given = [] := by
  have hreached : ∀ s : SamplerState,
      ((Sampling.unique model field draw).run s).2.values.reached key = s.values.reached key := by
    intro s
    exact unique_invariant (P := fun t => t.reached key = s.values.reached key)
      (fun t ht => (h.reached t).trans ht) rfl
  have htracked : ∀ s : SamplerState, Tracked key s →
      Tracked key ((Sampling.unique model field draw).run s).2 := by
    intro s hs
    have hledger := (unique_run model field draw s).1
    rw [UniqueLedger.draw_keeps] at hledger
    refine hs.of_le (Nat.le_of_eq (hreached s).symm) ?_ ?_
    · rw [hledger]
      exact UniqueLedger.usedUnder_keeping _ _ _ _ _ hkey
    · rw [hledger]
      exact UniqueLedger.maxAttempts_keeping _ _ _ _
  refine ⟨fun {s t a} hrun => ?_, fun {s t e} hrun => ?_⟩
  · obtain rfl : t = ((Sampling.unique model field draw).run s).2 := by rw [hrun]
    exact ⟨[], counting_still (hreached s) (htracked s), rfl⟩
  · obtain rfl : t = ((Sampling.unique model field draw).run s).2 := by rw [hrun]
    refine ⟨Nat.le_of_eq (hreached s).symm, fun hs _ => ⟨htracked s hs, ?_⟩⟩
    rcases unique_fails (congrArg Prod.fst hrun) with ⟨attempts, rfl⟩ | ⟨before, hbefore⟩
    · rintro n ⟨⟩
      exact hkey rfl
    · exact h.isNotFor hbefore

private theorem counting_next {s t : SamplerState}
    (hreached : t.values.reached key = s.values.reached key + 1)
    (htracked : Tracked key s → Tracked key t) :
    (counting key).Step s t [.int (Int64.ofNat (s.values.reached key + 1))] := by
  refine ⟨by omega, fun hs _ => ⟨htracked hs, ?_⟩⟩
  rw [hreached, numbersAfter_succ]

def nextNumber (profile : MockProfile) (model : Model) (field : Field) : ValueDraw MockValue :=
  (MockSource.default .autoincrement).value profile model field

section Numbers

variable (profile : MockProfile) {model : Model} {field : Field}
  (hkey : UniqueLedger.fieldKey model.name field.name = key)

include hkey

private theorem nextNumber_run (s : ValueState) :
    (nextNumber profile model field).run s =
      (.ok (.int (Int64.ofNat (s.reached key + 1))), s.counted key) :=
  hkey ▸ MockSource.autoincrement_run profile model field s

private theorem reached_nextNumber (s : ValueState) :
    ((nextNumber profile model field).run s).2.reached key = s.reached key + 1 := by
  rw [nextNumber_run profile hkey]
  exact (s.reached_counted key key).trans (if_pos rfl)

theorem emits_number :
    Emits (counting key) (Sampling.ofValueDraw (nextNumber profile model field))
      fun value given => given = [value] where
  gives {s t a} hrun := by
    have hreached := reached_nextNumber profile hkey s.values
    rw [ofValueDraw_run] at hrun
    obtain ⟨hvalue, rfl⟩ := Prod.mk.inj hrun
    rw [nextNumber_run profile hkey] at hvalue
    cases hvalue
    exact ⟨_, counting_next hreached fun hs => hs.of_le (by dsimp only; omega) rfl rfl, rfl⟩
  fails {s t e} hrun := by
    rw [ofValueDraw_run, nextNumber_run profile hkey] at hrun
    cases (Prod.mk.inj hrun).1

private theorem reached_after (runs : Nat) (s : ValueState) :
    (ValueGenerator.after (nextNumber profile model field).run runs s).reached key =
      s.reached key + runs := by
  induction runs generalizing s with
  | zero => rfl
  | succ runs ih =>
    have hnext := reached_nextNumber profile hkey s
    rw [ValueGenerator.after, ih, hnext]
    omega

private theorem draw_number {s : SamplerState} (hs : Tracked key s)
    (hlimit : ((s.ledger.draw model.name field.name (nextNumber profile model field).run
      s.values).2.2).reached key < signedLimit) :
    (s.ledger.draw model.name field.name (nextNumber profile model field).run s.values).1 =
        .ok (.int (Int64.ofNat (s.values.reached key + 1))) ∧
      ((s.ledger.draw model.name field.name (nextNumber profile model field).run
        s.values).2.2).reached key = s.values.reached key + 1 := by
  obtain ⟨last, hends, hanswer, hafter⟩ := s.ledger.draw_endsAt model.name field.name
    (nextNumber profile model field).run s.values hs.attempts
  have hreached := reached_after profile hkey (last + 1) s.values
  rw [hafter, hreached] at hlimit
  have hfirst : ValueGenerator.output (nextNumber profile model field).run 0 s.values =
      .ok (.int (Int64.ofNat (s.values.reached key + 1))) := by
    rw [ValueGenerator.output, ValueGenerator.after, nextNumber_run profile hkey]
  have hunused : (MockValue.int (Int64.ofNat (s.values.reached key + 1))).uniqueKey ∉
      s.ledger.usedUnder key := by
    rw [uniqueKey_number (by omega)]
    exact hs.fresh
  -- the first number is new, so that the search ends there
  obtain rfl : last = 0 := by
    by_contra hlast
    refine hends.before 0 (Nat.pos_of_ne_zero hlast) ?_
    rw [hfirst, hkey]
    exact hunused
  refine ⟨?_, by rw [hafter, hreached]⟩
  rw [hanswer, hfirst, UniqueLedger.answer, UniqueLedger.isUsed, hkey]
  exact if_neg (by simpa using hunused)

private theorem Tracked.handedOut {s t : SamplerState} (hs : Tracked key s)
    (hlimit : s.values.reached key + 1 < signedLimit)
    (hreached : t.values.reached key = s.values.reached key + 1)
    (hledger : t.ledger = s.ledger.keeping model.name field.name
      (.ok (.int (Int64.ofNat (s.values.reached key + 1))) :
        Except (UniqueFailure MockFailure) MockValue)) : Tracked key t where
  attempts := by
    rw [hledger, UniqueLedger.maxAttempts_keeping]
    exact hs.attempts
  texts text htext := by
    rw [hledger, UniqueLedger.keeping, UniqueLedger.usedUnder_insert, if_pos hkey, hkey,
      uniqueKey_number hlimit] at htext
    rcases List.mem_cons.1 htext with rfl | hbefore
    · exact ⟨_, Nat.le_of_eq hreached.symm, rfl⟩
    · obtain ⟨n, hn, rfl⟩ := hs.texts text hbefore
      exact ⟨n, by omega, rfl⟩

private theorem reached_unique (s : SamplerState) :
    s.values.reached key ≤
      ((Sampling.unique model.name field.name (nextNumber profile model field)).run
        s).2.values.reached key := by
  refine unique_invariant (P := fun t => s.values.reached key ≤ t.reached key) (fun t ht => ?_)
    (Nat.le_refl _)
  rw [reached_nextNumber profile hkey]
  omega

private theorem unique_number {s : SamplerState} (hs : Tracked key s)
    (hlimit : ((Sampling.unique model.name field.name (nextNumber profile model field)).run
      s).2.values.reached key < signedLimit) :
    ((Sampling.unique model.name field.name (nextNumber profile model field)).run s).1 =
        .ok (.int (Int64.ofNat (s.values.reached key + 1))) ∧
      (counting key).Step s
        ((Sampling.unique model.name field.name (nextNumber profile model field)).run s).2
        [.int (Int64.ofNat (s.values.reached key + 1))] := by
  have hvalues := unique_values model.name field.name (nextNumber profile model field) s
  rw [hvalues] at hlimit
  obtain ⟨hanswer, hreached⟩ := draw_number profile hkey hs hlimit
  have hledger := (unique_run model.name field.name (nextNumber profile model field) s).1
  rw [UniqueLedger.draw_keeps, hanswer] at hledger
  rw [hreached] at hlimit
  rw [← hvalues] at hreached
  refine ⟨?_, counting_next hreached fun _ => hs.handedOut hkey hlimit hreached hledger⟩
  rw [unique_answer, hanswer]
  rfl

theorem emits_unique_number :
    Emits (counting key) (Sampling.unique model.name field.name (nextNumber profile model field))
      fun value given => given = [value] where
  gives {s t a} hrun := by
    obtain rfl : t = ((Sampling.unique model.name field.name
      (nextNumber profile model field)).run s).2 := by rw [hrun]
    refine ⟨[a], ⟨reached_unique profile hkey s, fun hs hlimit => ?_⟩, rfl⟩
    obtain ⟨hvalue, hstep⟩ := unique_number profile hkey hs hlimit
    rw [hrun] at hvalue
    cases hvalue
    exact hstep.2 hs hlimit
  fails {s t e} hrun := by
    obtain rfl : t = ((Sampling.unique model.name field.name
      (nextNumber profile model field)).run s).2 := by rw [hrun]
    refine ⟨reached_unique profile hkey s, fun hs hlimit => ?_⟩
    obtain ⟨hvalue, -⟩ := unique_number profile hkey hs hlimit
    rw [hrun] at hvalue
    cases hvalue

end Numbers

end Draws

end SchemaMocks
