import SchemaMocks.Mock.FieldValue
import SchemaMocks.Mock.Vocabulary
import SchemaMocks.Proofs.Pattern.Reduction
import SchemaMocks.Proofs.Random.Fairness
import SchemaMocks.Proofs.Sampling.Draws

set_option autoImplicit false
set_option relaxedAutoImplicit false

/-!
Texts that are drawn for a pattern match it. A plan has a language of its own, which lies within the
language of the reduced pattern: counts that are drawn for repetitions around repetitions multiply as
powers of languages do. Whatever the stream, what is drawn for a plan lies in its language.
-/

namespace SchemaMocks

namespace Draw

private theorem givesFairly_times {draw : Draw (List Char)} {l : Language Char}
    (h : GivesFairly draw (· ∈ l)) (n : Nat) :
    GivesFairly (times draw n) fun texts => texts.flatten ∈ l ^ n := by
  induction n with
  | zero => exact givesFairly_pure (Language.nil_mem_one)
  | succ n ih =>
    refine h.bind fun text htext => ih.bind fun texts htexts => givesFairly_pure ?_
    rw [List.flatten_cons, pow_succ']
    exact Language.append_mem_mul htext htexts

end Draw

namespace Plan

open Language Reduced

inductive IsProduct : List (Nat × Nat) → Nat → Prop where
  | none : IsProduct [] 1
  | times {low high n m : Nat} {spans : List (Nat × Nat)} (low_le : low ≤ n) (le_high : n ≤ high)
      (rest : IsProduct spans m) : IsProduct ((low, high) :: spans) (n * m)

mutual

def language : Plan → Language Char
  | text cs => {cs}
  | oneOf chars => lettersOf chars
  | sequence parts => productOf parts
  | choice branches => sumOf branches
  | times factor spans core => {w | ∃ n, IsProduct spans n ∧ w ∈ core.language ^ (factor * n)}

def productOf : List Plan → Language Char
  | [] => 1
  | part :: rest => part.language * productOf rest

def sumOf : List Plan → Language Char
  | [] => 0
  | branch :: rest => branch.language + sumOf rest

end

/-- Plans that can be drawn: there is something to choose from in each choice, and counts have
spans in order. -/
inductive Drawable : Plan → Prop where
  | text (cs : List Char) : Drawable (text cs)
  | oneOf {chars : CharSet} (nonempty : chars.size ≠ 0) : Drawable (oneOf chars)
  | sequence {parts : List Plan} (parts_drawable : ∀ part ∈ parts, Drawable part) :
      Drawable (sequence parts)
  | choice {branches : List Plan} (nonempty : branches ≠ [])
      (branches_drawable : ∀ branch ∈ branches, Drawable branch) : Drawable (choice branches)
  | times {spans : List (Nat × Nat)} {core : Plan} (factor : Nat)
      (in_order : ∀ span ∈ spans, span.1 ≤ span.2) (core_drawable : Drawable core) :
      Drawable (times factor spans core)

section Draws

open Draw

variable {plan : Plan} {plans : List Plan} {spans : List (Nat × Nat)}

private theorem givesFairly_counts (h : ∀ span ∈ spans, span.1 ≤ span.2)
    (hfits : ∀ span ∈ spans, span.2 < Width.modulus .bits32) :
    GivesFairly (counts spans) (IsProduct spans) := by
  induction spans with
  | nil => exact givesFairly_pure .none
  | cons span rest ih =>
    obtain ⟨low, high⟩ := span
    obtain ⟨hspan, hrest⟩ := List.forall_mem_cons.1 h
    obtain ⟨hhigh, hfits⟩ := List.forall_mem_cons.1 hfits
    have hcount : GivesFairly (count (low, high)) fun n => low ≤ n ∧ n ≤ high := by
      dsimp only at hspan hhigh
      refine (givesFairly_uniform (Nat.succ_pos _) ?_).bind fun n hn => givesFairly_pure ?_
      · dsimp only
        omega
      · dsimp only at hn ⊢
        omega
    exact hcount.bind fun n hn =>
      (ih hrest hfits).bind fun m hm => givesFairly_pure (.times hn.1 hn.2 hm)

private theorem givesFairly_drawAll (h : ∀ plan ∈ plans, GivesFairly plan.draw (· ∈ plan.language)) :
    GivesFairly (drawAll plans) (· ∈ productOf plans) := by
  induction plans with
  | nil => exact givesFairly_pure Language.nil_mem_one
  | cons plan rest ih =>
    obtain ⟨hplan, hrest⟩ := List.forall_mem_cons.1 h
    exact hplan.bind fun u hu =>
      (ih hrest).bind fun v hv => givesFairly_pure (append_mem_mul hu hv)

private theorem givesFairly_drawAt (h : ∀ plan ∈ plans, GivesFairly plan.draw (· ∈ plan.language))
    {i : Nat}
    (hi : i < plans.length) : GivesFairly (drawAt plans i) (· ∈ sumOf plans) := by
  induction plans generalizing i with
  | nil => cases hi
  | cons plan rest ih =>
    obtain ⟨hplan, hrest⟩ := List.forall_mem_cons.1 h
    cases i with
    | zero => exact hplan.mono fun _ => .inl
    | succ i => exact (ih hrest (Nat.lt_of_succ_lt_succ hi)).mono fun _ => .inr

private theorem fits_of_allFit (h : allFit plans = true) : ∀ plan ∈ plans, plan.fits = true := by
  induction plans with
  | nil => exact List.forall_mem_nil _
  | cons plan rest ih =>
    obtain ⟨hplan, hrest⟩ := Bool.and_eq_true_iff.1 h
    exact List.forall_mem_cons.2 ⟨hplan, ih hrest⟩

private theorem Drawable.givesFairly (h : plan.Drawable) (hfits : plan.fits = true) :
    GivesFairly plan.draw (· ∈ plan.language) := by
  induction h with
  | text cs => exact givesFairly_pure rfl
  | oneOf hsome =>
    have hword {chars : CharSet} : chars.size ≤ Width.modulus .bits32 :=
      Nat.le_trans chars.size_le (by decide)
    refine (givesFairly_uniform (Nat.pos_of_ne_zero hsome) hword).bind fun i hi =>
      givesFairly_pure ?_
    obtain ⟨c, hc, hheld⟩ := CharSet.exists_at? hi
    exact ⟨c, hheld, by rw [hc, Option.toList_some]⟩
  | sequence _ ih =>
    exact givesFairly_drawAll fun part hpart => ih part hpart (fits_of_allFit hfits part hpart)
  | choice hsome _ ih =>
    obtain ⟨hcount, hbranches⟩ := Bool.and_eq_true_iff.1 hfits
    have hword := (of_decide_eq_true hcount).le
    refine (givesFairly_uniform (List.length_pos_iff.2 hsome) hword).bind fun i hi => ?_
    exact givesFairly_drawAt
      (fun branch hbranch => ih branch hbranch (fits_of_allFit hbranches branch hbranch)) hi
  | times factor horder _ ih =>
    obtain ⟨hspans, hrest⟩ := Bool.and_eq_true_iff.1 hfits
    obtain ⟨-, hcore⟩ := Bool.and_eq_true_iff.1 hrest
    have hhighs := fun span hspan => of_decide_eq_true (List.all_eq_true.1 hspans span hspan)
    refine (givesFairly_counts horder hhighs).bind fun n hn => ?_
    exact (givesFairly_times (ih hcore) _).bind fun texts htexts =>
      givesFairly_pure ⟨n, hn, htexts⟩

end Draws

section Repetitions

variable {plan : Plan} {spans : List (Nat × Nat)} {low high n : Nat} {w : List Char}

private theorem exists_of_isProduct_append (h : IsProduct (spans ++ [(low, high)]) n) :
    ∃ m k, IsProduct spans m ∧ (low ≤ k ∧ k ≤ high) ∧ n = m * k := by
  induction spans generalizing n with
  | nil =>
    cases h with
    | times hlow hhigh hrest =>
      cases hrest
      exact ⟨1, _, .none, ⟨hlow, hhigh⟩, Nat.mul_comm _ _⟩
  | cons span rest ih =>
    cases h with
    | times hlow hhigh hrest =>
      obtain ⟨m, k, hm, hk, rfl⟩ := ih hrest
      exact ⟨_, k, .times hlow hhigh hm, hk, (Nat.mul_assoc _ _ _).symm⟩

private theorem exists_core (plan : Plan) : ∃ factor spans core,
    (∀ low high, plan.ofRepeated low high = if low = high then times (factor * low) spans core
      else times factor (spans ++ [(low, high)]) core) ∧
    (plan.Drawable → (∀ span ∈ spans, span.1 ≤ span.2) ∧ core.Drawable) ∧
    ∀ n, IsProduct spans n → core.language ^ (factor * n) ≤ plan.language := by
  cases plan with
  | times factor spans core =>
    refine ⟨factor, spans, core, fun _ _ => rfl, fun h => ?_, fun n hn w hw => ⟨n, hn, hw⟩⟩
    cases h with
    | times _ horder hcore => exact ⟨horder, hcore⟩
  | _ =>
    refine ⟨1, [], _, fun _ _ => rfl, fun h => ⟨by simp, h⟩, fun n hn => ?_⟩
    cases hn
    rw [Nat.mul_one, pow_one]

private theorem Drawable.ofRepeated (h : plan.Drawable) (hrange : low ≤ high) :
    (plan.ofRepeated low high).Drawable := by
  obtain ⟨factor, spans, core, hplan, hdrawable, -⟩ := exists_core plan
  obtain ⟨horder, hcore⟩ := hdrawable h
  rw [hplan]
  split
  · exact .times _ horder hcore
  · refine .times _ (List.forall_mem_append.2 ⟨horder, ?_⟩) hcore
    exact List.forall_mem_singleton.2 hrange

private theorem exists_power_of_mem_ofRepeated (hrange : low ≤ high)
    (hw : w ∈ (plan.ofRepeated low high).language) :
    ∃ k, low ≤ k ∧ k ≤ high ∧ w ∈ plan.language ^ k := by
  obtain ⟨factor, spans, core, hplan, -, hpowers⟩ := exists_core plan
  rw [hplan] at hw
  split at hw
  · obtain ⟨n, hn, hw⟩ := hw
    refine ⟨low, Nat.le_refl low, hrange, pow_le_pow_left' (hpowers n hn) low ?_⟩
    rwa [← pow_mul, Nat.mul_right_comm]
  · obtain ⟨n, hn, hw⟩ := hw
    obtain ⟨m, k, hm, hk, rfl⟩ := exists_of_isProduct_append hn
    refine ⟨k, hk.1, hk.2, pow_le_pow_left' (hpowers m hm) k ?_⟩
    rwa [← pow_mul, Nat.mul_assoc]

end Repetitions

section Reductions

variable {r : Reduced} {plan : Plan} {items : List Reduced} {plans : List Plan} {w : List Char}

private theorem mem_sumOf : w ∈ sumOf plans ↔ ∃ plan ∈ plans, w ∈ plan.language := by
  induction plans with
  | nil => simp [sumOf, notMem_zero]
  | cons plan rest ih => rw [sumOf, mem_add, ih, List.exists_mem_cons_iff]

private theorem Drawable.branches (h : plan.Drawable) : plan.branches ≠ [] ∧
    ∀ branch ∈ plan.branches, branch.Drawable ∧ branch.language ≤ plan.language := by
  cases plan with
  | choice branches =>
    cases h with
    | choice hsome hbranches =>
      exact ⟨hsome, fun branch hbranch =>
        ⟨hbranches branch hbranch, fun w hw => mem_sumOf.2 ⟨branch, hbranch, hw⟩⟩⟩
  | _ => exact ⟨List.cons_ne_nil _ _, List.forall_mem_singleton.2 ⟨h, fun w hw => hw⟩⟩

def CarriesOut (plan : Plan) (r : Reduced) : Prop :=
  plan.Drawable ∧ plan.language ≤ r.language

private theorem carriesOut_sequence (h : List.Forall₂ CarriesOut plans items) :
    CarriesOut (sequence plans) (.sequence items) := by
  refine ⟨.sequence fun plan hplan => ?_, ?_⟩
  · obtain ⟨r, -, hr⟩ := exists_right_of_forall₂ h hplan
    exact hr.1
  · rw [language, Reduced.language]
    induction h with
    | nil => exact le_refl 1
    | cons hhead _ ih => exact mul_le_mul' hhead.2 ih

private theorem carriesOut_choice (hsome : items ≠ []) (h : List.Forall₂ CarriesOut plans items) :
    CarriesOut (choice (plans.flatMap branches)) (.choice items) := by
  have hbranch : ∀ branch ∈ plans.flatMap branches,
      branch.Drawable ∧ branch.language ≤ (Reduced.choice items).language := by
    intro branch hbranch
    obtain ⟨plan, hplan, hbranch⟩ := List.mem_flatMap.1 hbranch
    obtain ⟨r, hr, hcarries⟩ := exists_right_of_forall₂ h hplan
    obtain ⟨hdrawable, htexts⟩ := hcarries.1.branches.2 branch hbranch
    exact ⟨hdrawable, fun w hw => Reduced.mem_sumOf.2 ⟨r, hr, hcarries.2 (htexts hw)⟩⟩
  refine ⟨.choice ?_ fun branch hmem => (hbranch branch hmem).1, fun w hw => ?_⟩
  · obtain ⟨r, hr⟩ := List.exists_mem_of_ne_nil items hsome
    obtain ⟨plan, hplan, hcarries⟩ := exists_left_of_forall₂ h hr
    obtain ⟨branch, hmem⟩ := List.exists_mem_of_ne_nil _ hcarries.1.branches.1
    exact List.ne_nil_of_mem (List.mem_flatMap.2 ⟨plan, hplan, hmem⟩)
  · obtain ⟨branch, hmem, hw⟩ := mem_sumOf.1 hw
    exact (hbranch branch hmem).2 hw

private theorem carriesOut_repeated {min : Nat} {max : Option Nat} (greedy : Bool)
    (hbounds : max.all (min ≤ ·) = true) (h : CarriesOut plan r) :
    CarriesOut (plan.ofRepeated min (max.getD (min + slack))) (.repeated r min max greedy) := by
  have hrange : min ≤ max.getD (min + slack) := by
    cases max <;> simp at hbounds ⊢
    exact hbounds
  refine ⟨h.1.ofRepeated hrange, fun w hw => ?_⟩
  obtain ⟨k, hmin, hmax, hw⟩ := exists_power_of_mem_ofRepeated hrange hw
  refine ⟨k, hmin, fun m hm => ?_, pow_le_pow_left' h.2 k hw⟩
  rwa [hm, Option.getD_some] at hmax

private theorem carriesOut_all
    (hitems : ∀ r ∈ items, ∀ plan, ofReduced? r = some plan → CarriesOut plan r)
    (h : allOfReduced? items = some plans) : List.Forall₂ CarriesOut plans items := by
  induction items generalizing plans with
  | nil =>
    obtain rfl : [] = plans := Option.some.inj h
    exact .nil
  | cons r rest ih =>
    obtain ⟨hr, hrest⟩ := List.forall_mem_cons.1 hitems
    obtain ⟨plan, hplan, h⟩ := Option.bind_eq_some_iff.1 h
    obtain ⟨more, hmore, h⟩ := Option.bind_eq_some_iff.1 h
    obtain rfl : plan :: more = plans := Option.some.inj h
    exact .cons (hr plan hplan) (ih hrest hmore)

/-- The plan of an orderly reduced pattern can be drawn, and all of its texts are texts of the
pattern. -/
private theorem carriesOut_of_ofReduced? (h : r.Orderly) (hplan : ofReduced? r = some plan) :
    CarriesOut plan r := by
  induction h generalizing plan with
  | empty =>
    obtain rfl := Option.some.inj hplan
    exact ⟨.text [], le_refl 1⟩
  | text cs =>
    obtain rfl := Option.some.inj hplan
    exact ⟨.text cs, le_refl {cs}⟩
  | oneOf chars =>
    rw [ofReduced?, Option.ite_none_left_eq_some] at hplan
    obtain rfl := Option.some.inj hplan.2
    exact ⟨.oneOf hplan.1, le_refl (Reduced.lettersOf chars)⟩
  | look => cases hplan
  | repeated greedy hbounds _ ih =>
    obtain ⟨inner, hinner, rfl⟩ := Option.map_eq_some_iff.1 hplan
    exact carriesOut_repeated greedy hbounds (ih hinner)
  | capture index _ ih => exact ih hplan
  | sequence _ ih =>
    obtain ⟨plans, hplans, rfl⟩ := Option.map_eq_some_iff.1 hplan
    exact carriesOut_sequence (carriesOut_all (fun r hr plan hplan => ih r hr hplan) hplans)
  | choice hsome _ ih =>
    obtain ⟨plans, hplans, rfl⟩ := Option.map_eq_some_iff.1 hplan
    exact carriesOut_choice hsome (carriesOut_all (fun r hr plan hplan => ih r hr hplan) hplans)

end Reductions

end Plan

namespace Directive

variable {profile : MockProfile} {fieldName pattern : String} {scalar : Option ScalarType}

private theorem value_pattern_eq : (Directive.pattern pattern).value profile fieldName scalar =
    .ofAttempt (patternValue profile.resources.characters fieldName pattern) :=
  rfl

private theorem run_value_pattern {plan : Plan}
    (h : Pattern.planOfText? profile.resources.characters pattern = some plan)
    (state : ValueState) :
    ((Directive.pattern pattern).value profile fieldName scalar).run state =
      (.ok (.text (String.ofList (plan.draw.run state.stream).1)),
        { state with stream := (plan.draw.run state.stream).2 }) := by
  rw [value_pattern_eq, patternValue, h]
  rfl

private theorem run_value_pattern_of_none
    (h : Pattern.planOfText? profile.resources.characters pattern = none) (state : ValueState) :
    ((Directive.pattern pattern).value profile fieldName scalar).run state =
      (.error (.badPattern fieldName pattern), state) := by
  rw [value_pattern_eq, patternValue, h]
  rfl

/-- A pattern that gives a value once gives texts only, and each of them matches the pattern from end
to end: from every stream in which an accepted word is always ahead, since words that would favour
some numbers are refused, and as long as the counts of the pattern are the numbers of 32 bits that
texts are drawn with. -/
theorem value_pattern_matches {accepted : ValueState} {v : MockValue}
    (h : (((Directive.pattern pattern).value profile fieldName scalar).run accepted).1 = .ok v)
    (hfits : Pattern.countsFit profile.resources.characters pattern = true) :
    ∃ p, Pattern.ofText? profile.resources.characters pattern = some p ∧
      ∀ state : ValueState, state.stream.IsFair → ∃ text,
        (((Directive.pattern pattern).value profile fieldName scalar).run state).1 =
          .ok (.text (String.ofList text)) ∧ p.Matches text := by
  cases hplan : Pattern.planOfText? profile.resources.characters pattern with
  | none =>
    rw [run_value_pattern_of_none hplan] at h
    cases h
  | some plan =>
    rw [Pattern.countsFit, hplan, Option.all_some] at hfits
    obtain ⟨p, hp, hreduced⟩ := Option.bind_eq_some_iff.1 hplan
    have horderly := Pattern.orderly_of_ofText? hp
    obtain ⟨hdrawable, htexts⟩ := Plan.carriesOut_of_ofReduced? horderly.reduced hreduced
    refine ⟨p, hp, fun state hfair => ?_⟩
    refine ⟨(plan.draw.run state.stream).1, by rw [run_value_pattern hplan], ?_⟩
    exact horderly.matches_of_mem_language
      (htexts (hdrawable.givesFairly hfits state.stream hfair).1)

/-- Letters in either case, a class with a part taken out, counts around counts and an unbounded
repetition. -/
theorem value_pattern_matches_nested :
    let pattern := "((?i:ab|c)[d-g--e]){2}(x{1,2}){3}-*"
    let profile : MockProfile := ⟨.english, Timestamp.start2024, 30, .standard⟩
    let draw := (Directive.pattern pattern).value profile "code" none
    (∃ accepted v, (draw.run accepted).1 = .ok v) ∧
      Pattern.countsFit profile.resources.characters pattern = true ∧
      WordStream.greatest.IsFair ∧
      ∃ p, Pattern.ofText? profile.resources.characters pattern = some p ∧
        (∀ state : ValueState, state.stream.IsFair → ∃ text,
          (draw.run state).1 = .ok (.text (String.ofList text)) ∧ p.Matches text) ∧
        ∃ text, (draw.run ⟨.greatest, .empty, []⟩).1 = .ok (.text (String.ofList text)) ∧
          p.Matches text := by
  intro pattern profile draw
  have hplanned : (Pattern.planOfText? profile.resources.characters pattern).isSome = true := by
    decide +kernel
  have hfits : Pattern.countsFit profile.resources.characters pattern = true := by
    decide +kernel
  obtain ⟨plan, hplan⟩ := Option.isSome_iff_exists.1 hplanned
  let accepted : ValueState := ⟨.ofSeed 7, .empty, []⟩
  have hvalue : (draw.run accepted).1 =
      .ok (.text (String.ofList (plan.draw.run accepted.stream).1)) :=
    congrArg Prod.fst (run_value_pattern hplan accepted)
  obtain ⟨p, hp, hmatches⟩ := value_pattern_matches hvalue hfits
  exact ⟨⟨accepted, _, hvalue⟩, hfits, WordStream.isFair_greatest, p, hp, hmatches,
    hmatches ⟨.greatest, .empty, []⟩ WordStream.isFair_greatest⟩

end Directive

end SchemaMocks
