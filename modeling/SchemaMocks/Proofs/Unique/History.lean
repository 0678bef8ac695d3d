import SchemaMocks.Proofs.Sampling.Ledger
import SchemaMocks.Proofs.Unique.Search

set_option autoImplicit false
set_option relaxedAutoImplicit false

/-!
Histories of a ledger. Calls on a ledger follow each other in any order, each with a generator of
its own; what can be seen of them is a journal of answers and resets. The ledger holds for a field
what the journal says was handed out since the last reset of the field, and nothing else.
-/

namespace SchemaMocks

/-- A call on a ledger. A generator comes with the state that it starts from. -/
inductive LedgerCall (ε σ : Type) where
  | generate (model field : String) (next : σ → MockValue × σ) (s : σ)
  | tryGenerate (model field : String) (generator : ValueGenerator ε σ) (s : σ)
  | reset
  | resetField (model field : String)

/-- What can be seen of a call. -/
inductive LedgerEvent (ε : Type) where
  | answered (model field : String) (answer : Except (UniqueFailure ε) MockValue)
  | reset
  | resetField (model field : String)

variable {ε σ : Type}

namespace LedgerCall

/-- What is seen of a call, and the ledger after it. -/
def run (ledger : UniqueLedger) : LedgerCall ε σ → LedgerEvent ε × UniqueLedger
  | generate model field next s =>
    let generator : ValueGenerator ε σ := ValueGenerator.ofTotal next
    let (answer, after, _) := ledger.draw model field generator s
    (.answered model field answer, after)
  | tryGenerate model field generator s =>
    let (answer, after, _) := ledger.draw model field generator s
    (.answered model field answer, after)
  | reset => (.reset, ledger.reset)
  | resetField model field => (.resetField model field, ledger.resetField model field)

theorem run_cases (call : LedgerCall ε σ) :
    (∃ (model field : String) (generator : ValueGenerator ε σ) (s : σ), ∀ ledger : UniqueLedger,
      call.run ledger = (.answered model field (ledger.draw model field generator s).1,
        (ledger.draw model field generator s).2.1)) ∨
    (∀ ledger, call.run ledger = (.reset, ledger.reset)) ∨
    ∃ model field, ∀ ledger, call.run ledger =
      (.resetField model field, ledger.resetField model field) := by
  cases call with
  | generate model field next s =>
    exact .inl ⟨model, field, ValueGenerator.ofTotal next, s, fun _ => rfl⟩
  | tryGenerate model field generator s =>
    exact .inl ⟨model, field, generator, s, fun _ => rfl⟩
  | reset => exact .inr (.inl fun _ => rfl)
  | resetField model field => exact .inr (.inr ⟨model, field, fun _ => rfl⟩)

end LedgerCall

namespace LedgerEvent

/-- The values handed out under a key since its last reset, the latest first, after a further
event. -/
def keep (key : String) (held : List MockValue) : LedgerEvent ε → List MockValue
  | answered model field (.ok value) =>
    if UniqueLedger.fieldKey model field = key then value :: held else held
  | answered _ _ (.error _) => held
  | reset => []
  | resetField model field => if UniqueLedger.fieldKey model field = key then [] else held

/-- The values that a journal says were handed out under a key since its last reset. -/
def returnedSince (key : String) (journal : List (LedgerEvent ε)) : List MockValue :=
  journal.foldl (keep key) []

end LedgerEvent

namespace UniqueLedger

/-- The ledger after calls one after the other. -/
def afterCalls (ledger : UniqueLedger) (calls : List (LedgerCall ε σ)) : UniqueLedger :=
  calls.foldl (fun ledger call => (call.run ledger).2) ledger

/-- What is seen of calls one after the other. -/
def journal (ledger : UniqueLedger) : List (LedgerCall ε σ) → List (LedgerEvent ε)
  | [] => []
  | call :: rest => (call.run ledger).1 :: journal (call.run ledger).2 rest

structure Remembers (ledger : UniqueLedger) (key : String) (held : List MockValue) : Prop where
  texts : ledger.usedUnder key = held.map MockValue.uniqueKey
  nodup : (held.map MockValue.uniqueKey).Nodup

private theorem Remembers.empty (attempts : UInt32) (key : String) :
    Remembers (empty.withMaxAttempts attempts) key [] :=
  ⟨rfl, List.nodup_nil⟩

/-- A ledger allows at least one run. -/
theorem one_le_attempts (attempts : UInt32) : 1 ≤ (max attempts 1).toNat := by
  change 1 ≤ (if attempts ≤ 1 then 1 else attempts).toNat
  split
  · exact Nat.le_refl 1
  · rename_i hmore
    rw [UInt32.le_iff_toNat_le] at hmore
    change ¬attempts.toNat ≤ 1 at hmore
    omega

section Steps

variable {ledger : UniqueLedger} {key : String} {held : List MockValue}

private theorem Remembers.keeping (h : Remembers ledger key held) {model field : String}
    {answer : Except (UniqueFailure ε) MockValue}
    (hfresh : ∀ value, answer = .ok value →
      value.uniqueKey ∉ ledger.usedUnder (fieldKey model field)) :
    Remembers (ledger.keeping model field answer) key
      (LedgerEvent.keep key held (.answered model field answer)) := by
  cases answer with
  | error failure => exact h
  | ok value =>
    have hunder := ledger.usedUnder_insert (fieldKey model field) key
      (value.uniqueKey :: ledger.usedUnder (fieldKey model field))
    rw [LedgerEvent.keep]
    by_cases hkey : fieldKey model field = key
    · have hnew : value.uniqueKey ∉ held.map MockValue.uniqueKey := by
        rw [← h.texts, ← hkey]
        exact hfresh value rfl
      rw [if_pos hkey] at hunder ⊢
      refine ⟨hunder.trans ?_, List.nodup_cons.2 ⟨hnew, h.nodup⟩⟩
      rw [hkey, h.texts, List.map_cons]
    · rw [if_neg hkey] at hunder ⊢
      exact ⟨hunder.trans h.texts, h.nodup⟩

private theorem Remembers.resetField (h : Remembers ledger key held) (model field : String) :
    Remembers (ledger.resetField model field) key
      ((LedgerEvent.resetField model field : LedgerEvent ε).keep key held) := by
  have hunder := ledger.usedUnder_insert (fieldKey model field) key []
  rw [LedgerEvent.keep]
  by_cases hkey : fieldKey model field = key
  · rw [if_pos hkey] at hunder ⊢
    exact ⟨hunder, List.nodup_nil⟩
  · rw [if_neg hkey] at hunder ⊢
    exact ⟨hunder.trans h.texts, h.nodup⟩

private theorem Remembers.run (h : Remembers ledger key held) (call : LedgerCall ε σ) :
    Remembers (call.run ledger).2 key ((call.run ledger).1.keep key held) := by
  rcases call.run_cases with ⟨model, field, generator, s, hrun⟩ | hrun | ⟨model, field, hrun⟩
  · rw [hrun, draw_keeps]
    exact h.keeping fun value hvalue => (draw_fresh hvalue).1
  · rw [hrun]
    exact ⟨rfl, List.nodup_nil⟩
  · rw [hrun]
    exact h.resetField model field

private theorem Remembers.afterCalls (h : Remembers ledger key held)
    (calls : List (LedgerCall ε σ)) :
    Remembers (ledger.afterCalls calls) key
      ((ledger.journal calls).foldl (LedgerEvent.keep key) held) := by
  induction calls generalizing ledger held with
  | nil => exact h
  | cons call rest ih => exact ih (h.run call)

theorem maxAttempts_run (ledger : UniqueLedger) (call : LedgerCall ε σ) :
    (call.run ledger).2.maxAttempts = ledger.maxAttempts := by
  rcases call.run_cases with ⟨model, field, generator, s, hrun⟩ | hrun | ⟨model, field, hrun⟩
  · rw [hrun, draw_keeps, maxAttempts_keeping]
  · rw [hrun]
    rfl
  · rw [hrun]
    rfl

private theorem maxAttempts_afterCalls (ledger : UniqueLedger) (calls : List (LedgerCall ε σ)) :
    (ledger.afterCalls calls).maxAttempts = ledger.maxAttempts := by
  induction calls generalizing ledger with
  | nil => rfl
  | cons call rest ih => exact (ih _).trans (maxAttempts_run ledger call)

end Steps

theorem isUsed_iff {ledger : UniqueLedger} {model field : String} {value : MockValue} :
    ledger.isUsed model field value = true ↔
      value.uniqueKey ∈ ledger.usedUnder (fieldKey model field) :=
  List.contains_iff_mem

/-- What a ledger holds for a field: the texts of some values, none of them twice. These are what it
counts and what it knows again. -/
structure Holds (ledger : UniqueLedger) (model field : String) (returned : List MockValue) :
    Prop where
  texts : ledger.usedUnder (fieldKey model field) = returned.map MockValue.uniqueKey
  nodup : (returned.map MockValue.uniqueKey).Nodup
  count : ledger.usedCount model field = returned.length
  known : ∀ value : MockValue, ledger.isUsed model field value = true ↔
    value.uniqueKey ∈ returned.map MockValue.uniqueKey

private theorem Remembers.holds {ledger : UniqueLedger} {model field : String}
    {held : List MockValue}
    (h : Remembers ledger (fieldKey model field) held) : Holds ledger model field held where
  texts := h.texts
  nodup := h.nodup
  count := by rw [usedCount, h.texts, List.length_map]
  known value := by rw [isUsed_iff, h.texts]

/-- How a draw for a field searches. It runs its generator up to the first failure or unused value,
at most as often as the ledger allows; the output there is the answer unless it is used. A draw that
fails leaves the ledger as it was for every field. -/
structure Searches (ledger : UniqueLedger) (model field : String) (generator : ValueGenerator ε σ)
    (s : σ) : Prop where
  runs : ∃ last,
    EndsAt (ledger.usedUnder (fieldKey model field)) (fun i => generator.output i s)
      ledger.maxAttempts.toNat last ∧
    (ledger.draw model field generator s).1 =
      ledger.answer model field (generator.output last s) ∧
    (ledger.draw model field generator s).2.2 = generator.after (last + 1) s ∧
    (ledger.draw model field generator.counted (s, 0)).1 =
      (ledger.draw model field generator s).1 ∧
    (ledger.draw model field generator.counted (s, 0)).2.2 =
      (generator.after (last + 1) s, last + 1)
  exhausted :
    (ledger.draw model field generator s).1 =
        .error (.exhausted (fieldKey model field) ledger.maxAttempts) ↔
      ∀ i < ledger.maxAttempts.toNat, ∃ value, generator.output i s = .ok value ∧
        ledger.isUsed model field value = true
  unchanged : ∀ failure, (ledger.draw model field generator s).1 = .error failure →
    ∀ m f : String, (ledger.draw model field generator s).2.1.usedCount m f = ledger.usedCount m f ∧
      ∀ value, (ledger.draw model field generator s).2.1.isUsed m f value =
        ledger.isUsed m f value

private theorem answer_eq_exhausted_iff {ledger : UniqueLedger} {model field : String}
    {output : Except ε MockValue} :
    ledger.answer model field output =
        .error (.exhausted (fieldKey model field) ledger.maxAttempts) ↔
      ¬Stops (ledger.usedUnder (fieldKey model field)) output := by
  cases output with
  | error e => simp [answer, Stops]
  | ok value =>
    have hused : ledger.isUsed model field value = true ↔
        value.uniqueKey ∈ ledger.usedUnder (fieldKey model field) := isUsed_iff
    by_cases h : ledger.isUsed model field value = true
    · simp [answer, Stops, h, hused.1 h]
    · simp [answer, Stops, h, mt hused.2 h]

private theorem searches (ledger : UniqueLedger) (hattempts : 0 < ledger.maxAttempts.toNat)
    (model field : String) (generator : ValueGenerator ε σ) (s : σ) :
    Searches ledger model field generator s := by
  obtain ⟨last, hends, hanswer, hafter⟩ :=
    ledger.draw_endsAt model field generator s hattempts
  obtain ⟨hcountedAnswer, hcountedAfter⟩ := ledger.draw_counted model field generator s hends
  refine ⟨⟨last, hends, hanswer, hafter, hcountedAnswer.trans hanswer.symm, hcountedAfter⟩, ?_, ?_⟩
  · rw [hanswer, answer_eq_exhausted_iff, hends.all_used_iff]
    simp only [not_stops_iff, isUsed_iff]
  · intro failure hfailure m f
    rw [draw_keeps, hfailure]
    exact ⟨rfl, fun _ => rfl⟩

/-- Over any calls on a new ledger, what it holds for a field is what was handed out since the last
reset of the field, and every further draw searches as it should. -/
theorem holds_returned_and_searches (attempts : UInt32) (calls : List (LedgerCall ε σ)) :
    (∀ model field : String,
      Holds ((empty.withMaxAttempts attempts).afterCalls calls) model field
        (LedgerEvent.returnedSince (fieldKey model field)
          ((empty.withMaxAttempts attempts).journal calls))) ∧
      ((empty.withMaxAttempts attempts).afterCalls calls).maxAttempts = max attempts 1 ∧
      ∀ (model field : String) (generator : ValueGenerator ε σ) (s : σ),
        Searches ((empty.withMaxAttempts attempts).afterCalls calls) model field generator s := by
  have hmax : ((empty.withMaxAttempts attempts).afterCalls calls).maxAttempts = max attempts 1 :=
    maxAttempts_afterCalls _ calls
  have hpositive : 0 < ((empty.withMaxAttempts attempts).afterCalls calls).maxAttempts.toNat := by
    rw [hmax]
    exact one_le_attempts attempts
  refine ⟨fun model field => ?_, hmax, fun model field generator s => ?_⟩
  · exact ((Remembers.empty attempts (fieldKey model field)).afterCalls calls).holds
  · exact searches _ hpositive model field generator s

end UniqueLedger

end SchemaMocks
