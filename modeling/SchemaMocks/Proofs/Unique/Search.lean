import SchemaMocks.Mock.Unique

set_option autoImplicit false
set_option relaxedAutoImplicit false

/-!
How far a draw runs its generator. The outputs of a generator are numbered by its runs; a draw ends
at the first one that is a failure or an unused value, and at the last one that the ledger allows
where there is none before. What it answers and what it leaves in the ledger depend on that output
alone.
-/

namespace SchemaMocks

variable {ε σ : Type}

namespace ValueGenerator

def after (generator : ValueGenerator ε σ) : Nat → σ → σ
  | 0, s => s
  | runs + 1, s => after generator runs (generator s).2

def output (generator : ValueGenerator ε σ) (runs : Nat) (s : σ) : Except ε MockValue :=
  (generator (generator.after runs s)).1

def counted (generator : ValueGenerator ε σ) : ValueGenerator ε (σ × Nat) :=
  fun s => ((generator s.1).1, (generator s.1).2, s.2 + 1)

/-- A generator that never fails. -/
def ofTotal (next : σ → MockValue × σ) : ValueGenerator ε σ :=
  fun s => (.ok (next s).1, (next s).2)

private theorem after_counted (generator : ValueGenerator ε σ) (runs : Nat) (s : σ) (before : Nat) :
    generator.counted.after runs (s, before) = (generator.after runs s, before + runs) := by
  induction runs generalizing s before with
  | zero => rfl
  | succ runs ih =>
    have hcount : before + 1 + runs = before + (runs + 1) := by omega
    rw [after, after, counted, ih, hcount]

private theorem output_counted (generator : ValueGenerator ε σ) (runs : Nat) (s : σ)
    (before : Nat) :
    generator.counted.output runs (s, before) = generator.output runs s := by
  unfold output
  rw [after_counted]
  rfl

end ValueGenerator

def Stops (used : List String) : Except ε MockValue → Prop
  | .error _ => True
  | .ok value => value.uniqueKey ∉ used

/-- A search of so many runs at most ends at an output: at none before it, and there because it
stops the search or because no run is left. -/
structure EndsAt (used : List String) (outputs : Nat → Except ε MockValue) (attempts last : Nat) :
    Prop where
  within : last < attempts
  before : ∀ i < last, ¬Stops used (outputs i)
  ends : Stops used (outputs last) ∨ last + 1 = attempts

theorem not_stops_iff {used : List String} {output : Except ε MockValue} :
    ¬Stops used output ↔ ∃ value, output = .ok value ∧ value.uniqueKey ∈ used := by
  cases output <;> simp [Stops]

namespace EndsAt

variable {used : List String} {outputs : Nat → Except ε MockValue} {attempts last : Nat}

private theorem first (hattempts : 0 < attempts) (h : Stops used (outputs 0)) :
    EndsAt used outputs attempts 0 :=
  ⟨hattempts, fun _ hi => absurd hi (Nat.not_lt_zero _), .inl h⟩

private theorem later (hused : ¬Stops used (outputs 0))
    (h : EndsAt used (fun i => outputs (i + 1)) attempts last) :
    EndsAt used outputs (attempts + 1) (last + 1) := by
  refine ⟨Nat.succ_lt_succ h.within, fun i hi => ?_, ?_⟩
  · cases i with
    | zero => exact hused
    | succ i => exact h.before i (Nat.lt_of_succ_lt_succ hi)
  · rcases h.ends with hstops | hlast
    · exact .inl hstops
    · exact .inr (congrArg (· + 1) hlast)

private theorem unique {other : Nat} (h : EndsAt used outputs attempts last)
    (hother : EndsAt used outputs attempts other) : last = other := by
  rcases Nat.lt_trichotomy last other with hlt | heq | hlt
  · have hno := h.ends.resolve_left (hother.before last hlt)
    have hwithin := hother.within
    omega
  · exact heq
  · have hno := hother.ends.resolve_left (h.before other hlt)
    have hwithin := h.within
    omega

theorem all_used_iff (h : EndsAt used outputs attempts last) :
    ¬Stops used (outputs last) ↔ ∀ i < attempts, ¬Stops used (outputs i) := by
  constructor
  · intro hlast i hi
    have hall : last + 1 = attempts := h.ends.resolve_left hlast
    rcases Nat.lt_or_eq_of_le (Nat.le_of_lt_succ (hall ▸ hi)) with hbefore | rfl
    · exact h.before i hbefore
    · exact hlast
  · intro hall
    exact hall last h.within

end EndsAt

namespace UniqueLedger

def found (used : List String) : Except ε MockValue → Except ε (Option MockValue)
  | .error e => .error e
  | .ok value => .ok (if used.contains value.uniqueKey then none else some value)

section Search

variable {generator : ValueGenerator ε σ} {used : List String} {s : σ}

private theorem found_of_not_stops {output : Except ε MockValue} (h : ¬Stops used output) :
    found used output = .ok none := by
  obtain ⟨value, rfl, hused⟩ := not_stops_iff.1 h
  simp [found, hused]

private theorem search_of_stops (attempts : Nat) (h : Stops used (generator s).1) :
    search generator used (attempts + 1) s = (found used (generator s).1, (generator s).2) := by
  rw [search]
  rcases hrun : generator s with ⟨e | value, t⟩
  · rfl
  · have hunused : used.contains value.uniqueKey = false := by
      rw [hrun] at h
      simpa [Stops] using h
    simp only [found, hunused, Bool.false_eq_true, if_false]

private theorem search_of_not_stops (attempts : Nat) (h : ¬Stops used (generator s).1) :
    search generator used (attempts + 1) s = search generator used attempts (generator s).2 := by
  obtain ⟨value, hvalue, hused⟩ := not_stops_iff.1 h
  rcases hrun : generator s with ⟨output, t⟩
  obtain rfl : output = .ok value := by rw [← hvalue, hrun]
  rw [search, hrun]
  exact if_pos (by simpa using hused)

theorem search_invariant {P : σ → Prop} (hrun : ∀ t, P t → P (generator t).2) (attempts : Nat)
    (hs : P s) : P (search generator used attempts s).2 := by
  induction attempts generalizing s with
  | zero => exact hs
  | succ attempts ih =>
    by_cases hstops : Stops used (generator s).1
    · rw [search_of_stops attempts hstops]
      exact hrun s hs
    · rw [search_of_not_stops attempts hstops]
      exact ih (hrun s hs)

private theorem search_error {e : ε} (attempts : Nat)
    (h : (search generator used attempts s).1 = .error e) : ∃ t, (generator t).1 = .error e := by
  induction attempts generalizing s with
  | zero => cases h
  | succ attempts ih =>
    by_cases hstops : Stops used (generator s).1
    · rw [search_of_stops attempts hstops] at h
      refine ⟨s, ?_⟩
      cases houtput : (generator s).1 with
      | error e' =>
        rw [houtput] at h
        cases h
        rfl
      | ok value =>
        rw [houtput] at h
        cases h
    · rw [search_of_not_stops attempts hstops] at h
      exact ih h

private theorem search_endsAt (generator : ValueGenerator ε σ) (used : List String) (attempts : Nat)
    (s : σ) :
    ∃ last, EndsAt used (fun i => generator.output i s) (attempts + 1) last ∧
      search generator used (attempts + 1) s =
        (found used (generator.output last s), generator.after (last + 1) s) := by
  induction attempts generalizing s with
  | zero =>
    refine ⟨0, ⟨Nat.one_pos, fun _ hi => absurd hi (Nat.not_lt_zero _), .inr rfl⟩, ?_⟩
    by_cases hstops : Stops used (generator s).1
    · exact search_of_stops 0 hstops
    · rw [search_of_not_stops 0 hstops, search]
      exact Prod.ext (found_of_not_stops hstops).symm rfl
  | succ attempts ih =>
    by_cases hstops : Stops used (generator s).1
    · exact ⟨0, .first (Nat.succ_pos _) hstops, search_of_stops _ hstops⟩
    · obtain ⟨last, hends, hsearch⟩ := ih (generator s).2
      rw [search_of_not_stops _ hstops]
      exact ⟨last + 1, .later hstops hends, hsearch⟩

end Search

/-- What a draw for a field answers for the output at which it ends. -/
def answer (ledger : UniqueLedger) (model field : String) :
    Except ε MockValue → Except (UniqueFailure ε) MockValue
  | .error e => .error (.generator e)
  | .ok value =>
    if ledger.isUsed model field value then
      .error (.exhausted (fieldKey model field) ledger.maxAttempts)
    else .ok value

/-- The ledger after an answer: only a value that is handed out enters it. -/
def keeping (ledger : UniqueLedger) (model field : String) :
    Except (UniqueFailure ε) MockValue → UniqueLedger
  | .error _ => ledger
  | .ok value =>
    { ledger with
      used := ledger.used.insert (fieldKey model field)
        (value.uniqueKey :: ledger.usedUnder (fieldKey model field)) }

theorem maxAttempts_keeping (ledger : UniqueLedger) (model field : String)
    (answer : Except (UniqueFailure ε) MockValue) :
    (ledger.keeping model field answer).maxAttempts = ledger.maxAttempts := by
  cases answer <;> rfl

section Draw

variable (ledger : UniqueLedger) (model field : String) (generator : ValueGenerator ε σ) (s : σ)

theorem draw_keeps :
    (ledger.draw model field generator s).2.1 =
      ledger.keeping model field (ledger.draw model field generator s).1 := by
  unfold draw
  dsimp only
  split <;> rfl

theorem draw_state :
    (ledger.draw model field generator s).2.2 =
      (search generator (ledger.usedUnder (fieldKey model field))
        ledger.maxAttempts.toNat s).2 := by
  unfold draw
  dsimp only
  split <;> rename_i h <;> rw [h]

theorem draw_error {failure : UniqueFailure ε}
    (h : (ledger.draw model field generator s).1 = .error failure) :
    failure = .exhausted (fieldKey model field) ledger.maxAttempts ∨
      ∃ e t, failure = .generator e ∧ (generator t).1 = .error e := by
  unfold draw at h
  dsimp only at h
  split at h
  · rename_i e t hsearch
    cases h
    obtain ⟨before, hbefore⟩ := search_error _ (s := s) (congrArg Prod.fst hsearch)
    exact .inr ⟨e, before, rfl, hbefore⟩
  · cases h
    exact .inl rfl
  · cases h

theorem draw_endsAt (hattempts : 0 < ledger.maxAttempts.toNat) :
    ∃ last,
      EndsAt (ledger.usedUnder (fieldKey model field)) (fun i => generator.output i s)
        ledger.maxAttempts.toNat last ∧
      (ledger.draw model field generator s).1 =
        ledger.answer model field (generator.output last s) ∧
      (ledger.draw model field generator s).2.2 = generator.after (last + 1) s := by
  obtain ⟨attempts, hsucc⟩ := Nat.exists_eq_succ_of_ne_zero (Nat.ne_of_gt hattempts)
  obtain ⟨last, hends, hsearch⟩ :=
    search_endsAt generator (ledger.usedUnder (fieldKey model field)) attempts s
  rw [hsucc]
  refine ⟨last, hends, ?_⟩
  unfold draw
  dsimp only
  rw [hsucc, hsearch]
  cases generator.output last s with
  | error e => exact ⟨rfl, rfl⟩
  | ok value =>
    by_cases hused : (ledger.usedUnder (fieldKey model field)).contains value.uniqueKey = true
    · simp only [found, answer, isUsed, hused, if_true, and_self]
    · simp only [found, answer, isUsed, hused, if_false, and_self, Bool.false_eq_true]

theorem draw_counted {last : Nat}
    (hends : EndsAt (ledger.usedUnder (fieldKey model field)) (fun i => generator.output i s)
      ledger.maxAttempts.toNat last) :
    (ledger.draw model field generator.counted (s, 0)).1 =
        ledger.answer model field (generator.output last s) ∧
      (ledger.draw model field generator.counted (s, 0)).2.2 =
        (generator.after (last + 1) s, last + 1) := by
  have hattempts : 0 < ledger.maxAttempts.toNat := Nat.zero_lt_of_lt hends.within
  obtain ⟨other, hother, hanswer, hafter⟩ :=
    ledger.draw_endsAt model field generator.counted (s, 0) hattempts
  simp only [ValueGenerator.output_counted] at hother hanswer
  obtain rfl := hends.unique hother
  rw [hafter, ValueGenerator.after_counted, Nat.zero_add]
  exact ⟨hanswer, rfl⟩

end Draw

end UniqueLedger

end SchemaMocks
