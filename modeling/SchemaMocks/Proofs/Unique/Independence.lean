import SchemaMocks.Mock.FieldValue
import SchemaMocks.Mock.Vocabulary
import SchemaMocks.Proofs.Datamodel.Validation
import SchemaMocks.Proofs.Unique.History

set_option autoImplicit false
set_option relaxedAutoImplicit false

/-!
Fields that do not disturb each other. Ledgers and counters are kept by the text of a model and a
field with a dot between them, and what is done under one text leaves all others alone. Two fields
share a text just where a name with a dot lets the text be split at two places.
-/

namespace SchemaMocks

variable {ε σ : Type}

namespace UniqueLedger

/-- Two fields with the same text: the model of the one is that of the other with more behind a dot,
and the same stands before the field of the other. -/
def Overlaps (model field other otherField : String) : Prop :=
  ∃ middle, other = fieldKey model middle ∧ field = fieldKey middle otherField

private theorem toList_fieldKey (model field : String) :
    (fieldKey model field).toList = model.toList ++ '.' :: field.toList := by
  simp [fieldKey]

private theorem fieldKey_assoc (model middle field : String) :
    fieldKey model (fieldKey middle field) = fieldKey (fieldKey model middle) field := by
  simp only [fieldKey, String.append_assoc]

private theorem split_or_between {before before' after after' : List Char}
    (h : before ++ '.' :: after = before' ++ '.' :: after') :
    (before = before' ∧ after = after') ∨
      (∃ middle, before' = before ++ '.' :: middle ∧ after = middle ++ '.' :: after') ∨
      ∃ middle, before = before' ++ '.' :: middle ∧ after' = middle ++ '.' :: after := by
  rcases List.append_eq_append_iff.1 h with ⟨_ | ⟨c, middle⟩, hbefore, hafter⟩ |
    ⟨_ | ⟨c, middle⟩, hbefore, hafter⟩
  · rw [List.append_nil] at hbefore
    exact .inl ⟨hbefore.symm, (List.cons.inj hafter).2⟩
  · obtain ⟨rfl, rfl⟩ := List.cons.inj hafter
    exact .inr (.inl ⟨middle, hbefore, rfl⟩)
  · rw [List.append_nil] at hbefore
    exact .inl ⟨hbefore, (List.cons.inj hafter).2.symm⟩
  · obtain ⟨rfl, rfl⟩ := List.cons.inj hafter
    exact .inr (.inr ⟨middle, hbefore, rfl⟩)

private theorem fieldKey_eq_iff {model field other otherField : String} :
    fieldKey model field = fieldKey other otherField ↔
      (model = other ∧ field = otherField) ∨ Overlaps model field other otherField ∨
        Overlaps other otherField model field := by
  constructor
  · intro h
    have hlist := congrArg String.toList h
    rw [toList_fieldKey, toList_fieldKey] at hlist
    rcases split_or_between hlist with ⟨hmodel, hfield⟩ | ⟨middle, hother, hfield⟩ |
      ⟨middle, hmodel, hfield⟩
    · exact .inl ⟨String.toList_inj.1 hmodel, String.toList_inj.1 hfield⟩
    · refine .inr (.inl ⟨String.ofList middle, ?_, ?_⟩) <;> rw [← String.toList_inj] <;>
        simpa [toList_fieldKey]
    · refine .inr (.inr ⟨String.ofList middle, ?_, ?_⟩) <;> rw [← String.toList_inj] <;>
        simpa [toList_fieldKey]
  · rintro (⟨rfl, rfl⟩ | ⟨middle, rfl, rfl⟩ | ⟨middle, rfl, rfl⟩)
    · rfl
    · exact fieldKey_assoc model middle otherField
    · exact (fieldKey_assoc other middle field).symm

structure AgreesAt (key : String) (left right : UniqueLedger) : Prop where
  budget : left.maxAttempts = right.maxAttempts
  texts : left.usedUnder key = right.usedUnder key

section Agreement

variable {key model field : String} {left right : UniqueLedger}

theorem usedUnder_keeping (ledger : UniqueLedger) (model field key : String)
    (answer : Except (UniqueFailure ε) MockValue) (h : fieldKey model field ≠ key) :
    (ledger.keeping model field answer).usedUnder key = ledger.usedUnder key := by
  cases answer with
  | error failure => rfl
  | ok value => exact (ledger.usedUnder_insert _ _ _).trans (if_neg h)

private theorem usedUnder_resetField (ledger : UniqueLedger) (model field key : String) :
    (ledger.resetField model field).usedUnder key =
      if fieldKey model field = key then [] else ledger.usedUnder key :=
  ledger.usedUnder_insert _ _ _

private theorem AgreesAt.draw (h : AgreesAt (fieldKey model field) left right)
    (generator : ValueGenerator ε σ) (s : σ) :
    (left.draw model field generator s).1 = (right.draw model field generator s).1 ∧
      (left.draw model field generator s).2.2 = (right.draw model field generator s).2.2 := by
  unfold UniqueLedger.draw
  dsimp only
  rw [h.texts, h.budget]
  split <;> exact ⟨rfl, rfl⟩

private theorem AgreesAt.keeping (h : AgreesAt key left right)
    {answer answer' : Except (UniqueFailure ε) MockValue}
    (hanswer : fieldKey model field = key → answer = answer') :
    AgreesAt key (left.keeping model field answer) (right.keeping model field answer') := by
  refine ⟨by rw [maxAttempts_keeping, maxAttempts_keeping, h.budget], ?_⟩
  by_cases hkey : fieldKey model field = key
  · obtain rfl := hanswer hkey
    subst hkey
    cases answer with
    | error failure => exact h.texts
    | ok value =>
      have hleft := left.usedUnder_insert (fieldKey model field) (fieldKey model field)
        (value.uniqueKey :: left.usedUnder (fieldKey model field))
      have hright := right.usedUnder_insert (fieldKey model field) (fieldKey model field)
        (value.uniqueKey :: right.usedUnder (fieldKey model field))
      rw [if_pos rfl] at hleft hright
      exact hleft.trans ((congrArg (value.uniqueKey :: ·) h.texts).trans hright.symm)
  · rw [usedUnder_keeping left _ _ _ _ hkey, usedUnder_keeping right _ _ _ _ hkey]
    exact h.texts

private theorem AgreesAt.run (h : AgreesAt key left right) (call : LedgerCall ε σ) :
    AgreesAt key (call.run left).2 (call.run right).2 := by
  rcases call.run_cases with ⟨model, field, generator, s, hrun⟩ | hrun | ⟨model, field, hrun⟩
  · rw [hrun, hrun, draw_keeps, draw_keeps]
    refine h.keeping fun hkey => ?_
    subst hkey
    exact (h.draw generator s).1
  · rw [hrun, hrun]
    exact ⟨h.budget, rfl⟩
  · rw [hrun, hrun]
    refine ⟨h.budget, ?_⟩
    dsimp only
    rw [usedUnder_resetField, usedUnder_resetField, h.texts]

private theorem AgreesAt.afterCalls (h : AgreesAt key left right) (calls : List (LedgerCall ε σ)) :
    AgreesAt key (left.afterCalls calls) (right.afterCalls calls) := by
  induction calls generalizing left right with
  | nil => exact h
  | cons call rest ih => exact ih (h.run call)

end Agreement

end UniqueLedger

def LedgerCall.IsFor (model field : String) : LedgerCall ε σ → Prop
  | generate m f _ _ | tryGenerate m f _ _ | resetField m f => m = model ∧ f = field
  | reset => False

namespace UniqueLedger

private theorem agreesAt_run {model field key : String} (ledger : UniqueLedger)
    {call : LedgerCall ε σ}
    (hcall : call.IsFor model field) (hkey : fieldKey model field ≠ key) :
    AgreesAt key (call.run ledger).2 ledger := by
  refine ⟨maxAttempts_run ledger call, ?_⟩
  have hdraw : ∀ (generator : ValueGenerator ε σ) (s : σ),
      (ledger.draw model field generator s).2.1.usedUnder key = ledger.usedUnder key := by
    intro generator s
    rw [draw_keeps]
    exact usedUnder_keeping ledger model field key _ hkey
  cases call with
  | generate m f next s =>
    obtain ⟨rfl, rfl⟩ := hcall
    exact hdraw (ValueGenerator.ofTotal next) s
  | tryGenerate m f generator s =>
    obtain ⟨rfl, rfl⟩ := hcall
    exact hdraw generator s
  | reset => cases hcall
  | resetField m f =>
    obtain ⟨rfl, rfl⟩ := hcall
    exact (usedUnder_resetField ledger m f key).trans (if_neg hkey)

end UniqueLedger

/-- The number that a counter has reached. -/
def ValueState.reached (s : ValueState) (key : String) : Nat :=
  (s.counters.get? key).getD 0

def ValueState.counted (s : ValueState) (key : String) : ValueState :=
  { s with counters := s.counters.insert key (s.reached key + 1) }

theorem ValueState.reached_counted (s : ValueState) (key other : String) :
    (s.counted key).reached other = if key = other then s.reached key + 1 else s.reached other := by
  unfold counted reached
  rw [Dictionary.get?_insert]
  split <;> rfl

theorem unique_invariant {model field : String} {draw : ValueDraw MockValue} {P : ValueState → Prop}
    (hdraw : ∀ t, P t → P (draw.run t).2) {s : SamplerState} (hs : P s.values) :
    P ((Sampling.unique model field draw).run s).2.values := by
  rw [unique_values, UniqueLedger.draw_state]
  exact UniqueLedger.search_invariant hdraw _ hs

theorem MockSource.autoincrement_run (profile : MockProfile) (model : Model) (field : Field)
    (s : ValueState) :
    ((MockSource.default .autoincrement).value profile model field).run s =
      (.ok (.int (Int64.ofNat (s.reached (UniqueLedger.fieldKey model.name field.name) + 1))),
        s.counted (UniqueLedger.fieldKey model.name field.name)) :=
  rfl

namespace UniqueLedger

/-- What is done for a field never disturbs another one. From any ledger, and so after any history,
a call for the field changes neither what the other has used nor what any later draw for it comes
to, whatever is called in between; and a number drawn for the field leaves the one that the other
has reached. -/
structure Independent (model field other otherField : String) : Prop where
  count : ∀ {ε σ : Type} (ledger : UniqueLedger) (call : LedgerCall ε σ), call.IsFor model field →
    (call.run ledger).2.usedCount other otherField = ledger.usedCount other otherField
  known : ∀ {ε σ : Type} (ledger : UniqueLedger) (call : LedgerCall ε σ), call.IsFor model field →
    ∀ value, (call.run ledger).2.isUsed other otherField value =
      ledger.isUsed other otherField value
  later : ∀ {ε σ : Type} (ledger : UniqueLedger) (call : LedgerCall ε σ), call.IsFor model field →
    ∀ (calls : List (LedgerCall ε σ)) (generator : ValueGenerator ε σ) (s : σ),
      (((call.run ledger).2.afterCalls calls).draw other otherField generator s).1 =
          ((ledger.afterCalls calls).draw other otherField generator s).1 ∧
        (((call.run ledger).2.afterCalls calls).draw other otherField generator s).2.2 =
          ((ledger.afterCalls calls).draw other otherField generator s).2.2
  sequence : ∀ (profile : MockProfile) (m : Model) (f : Field), m.name = model → f.name = field →
    (∀ s : ValueState,
      (((MockSource.default .autoincrement).value profile m f).run s).2.reached
          (fieldKey other otherField) =
        s.reached (fieldKey other otherField)) ∧
      ∀ s : SamplerState,
        ((Sampling.unique model field
            ((MockSource.default .autoincrement).value profile m f)).run s).2.values.reached
              (fieldKey other otherField) =
          s.values.reached (fieldKey other otherField)

private theorem independent_of_ne {model field other otherField : String}
    (h : fieldKey model field ≠ fieldKey other otherField) :
    Independent model field other otherField where
  count ledger call hcall := congrArg List.length (ledger.agreesAt_run hcall h).texts
  known ledger call hcall value :=
    congrArg (·.contains value.uniqueKey) (ledger.agreesAt_run hcall h).texts
  later ledger call hcall calls generator s :=
    ((ledger.agreesAt_run hcall h).afterCalls calls).draw generator s
  sequence profile m f hm hf := by
    have hnumber : ∀ s : ValueState,
        (((MockSource.default .autoincrement).value profile m f).run s).2.reached
            (fieldKey other otherField) =
          s.reached (fieldKey other otherField) := by
      intro s
      rw [MockSource.autoincrement_run, hm, hf]
      exact (s.reached_counted _ _).trans (if_neg h)
    refine ⟨hnumber, fun s => ?_⟩
    exact unique_invariant (P := fun t =>
      t.reached (fieldKey other otherField) = s.values.reached (fieldKey other otherField))
      (fun t ht => (hnumber t).trans ht) rfl

/-- Fields are independent of each other unless they have the same names or share their text. -/
theorem independent_iff {model field other otherField : String} :
    Independent model field other otherField ↔
      (model ≠ other ∨ field ≠ otherField) ∧ ¬Overlaps model field other otherField ∧
        ¬Overlaps other otherField model field := by
  have hkey : fieldKey model field ≠ fieldKey other otherField ↔
      (model ≠ other ∨ field ≠ otherField) ∧ ¬Overlaps model field other otherField ∧
        ¬Overlaps other otherField model field := by
    rw [Ne, fieldKey_eq_iff]
    tauto
  rw [← hkey]
  refine ⟨fun h hsame => ?_, independent_of_ne⟩
  -- under the same text one value that is handed out for the field counts for the other
  let call : LedgerCall Empty Unit := .generate model field (fun s => (.null, s)) ()
  let generator : ValueGenerator Empty Unit := ValueGenerator.ofTotal fun s => (.null, s)
  have hanswer : (empty.draw model field generator ()).1 = .ok .null := rfl
  have hused := (draw_fresh hanswer).2
  rw [hsame] at hused
  have hknown : (call.run empty).2.isUsed other otherField .null = false :=
    h.known empty call ⟨rfl, rfl⟩ .null
  have hcontra := (isUsed_iff.2 hused).symm.trans hknown
  cases hcontra

/-- A generator of nothing but ones. -/
def ones : ValueGenerator Empty Unit :=
  fun s => (.ok (.int 1), s)

/-- The field `b.c` of `A` and the field `c` of `A.b` have one text: what is handed out for the one
is used for the other, and they count up together. -/
theorem dotted_fields_disturb :
    ("A", "b.c") ≠ ("A.b", "c") ∧
      (empty.withMaxAttempts 3).usedCount "A.b" "c" = 0 ∧
      ((LedgerCall.tryGenerate "A" "b.c" ones ()).run
        (empty.withMaxAttempts 3)).2.usedCount "A.b" "c" = 1 ∧
      (((LedgerCall.tryGenerate "A" "b.c" ones ()).run
        (empty.withMaxAttempts 3)).2.draw "A.b" "c" ones ()).1 =
          .error (.exhausted "A.b.c" 3) ∧
      (((MockSource.default .autoincrement).value ⟨.english, Timestamp.start2024, 30, .standard⟩
          ⟨"A", none, [], none, none, []⟩ (Field.bare "b.c" .scalar "Int")).run
        ⟨WordStream.ofSeed 0, Dictionary.empty, []⟩).2.reached (fieldKey "A.b" "c") = 1 :=
  ⟨by decide, rfl, by decide +kernel, rfl, by decide +kernel⟩

end UniqueLedger

end SchemaMocks
