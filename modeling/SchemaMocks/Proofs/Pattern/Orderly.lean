import SchemaMocks.Pattern.Reader

set_option autoImplicit false
set_option relaxedAutoImplicit false

/-!
What is read is orderly: the bounds of its repetitions are in order, and its choices have branches.
-/

namespace SchemaMocks.Pattern

inductive Orderly : Pattern → Prop where
  | empty : Orderly empty
  | char (rule : CaseRule) (c : Char) : Orderly (char rule c)
  | oneOf (chars : CharSet) : Orderly (oneOf chars)
  | bracket (mode : ClassMode) (negated : Bool) (body : ClassExpr) :
      Orderly (bracket mode negated body)
  | look : Orderly look
  | sequence {parts : List Pattern} (parts_orderly : ∀ part ∈ parts, Orderly part) :
      Orderly (sequence parts)
  | choice {branches : List Pattern} (nonempty : branches ≠ [])
      (branches_orderly : ∀ branch ∈ branches, Orderly branch) : Orderly (choice branches)
  | repeated {body : Pattern} {min : Nat} {max : Option Nat} (greedy : Bool)
      (bounds : max.all (min ≤ ·) = true) (body_orderly : Orderly body) :
      Orderly (repeated body min max greedy)
  | group {body : Pattern} (index : Option Nat) (body_orderly : Orderly body) :
      Orderly (group index body)

namespace Reader

section Ensures

variable {α β : Type} {P : α → Prop} {reader : Reader α}

def Ensures (reader : Reader α) (P : α → Prop) : Prop :=
  ∀ state a state', reader.run state = some (a, state') → P a

private theorem ensures_any : Ensures reader fun _ => True :=
  fun _ _ _ _ => trivial

private theorem ensures_pure {a : α} (h : P a) : Ensures (pure a : Reader α) P := by
  rintro state _ _ hrun
  cases hrun
  exact h

private theorem ensures_failure : Ensures (failure : Reader α) P := by
  rintro state a state' hrun
  cases hrun

private theorem Ensures.bind {Q : β → Prop} {next : α → Reader β} (h : Ensures reader P)
    (hnext : ∀ a, P a → Ensures (next a) Q) : Ensures (reader >>= next) Q := by
  intro state b state' hrun
  obtain ⟨⟨a, between⟩, hfirst, hsecond⟩ := Option.bind_eq_some_iff.1 hrun
  exact hnext a (h state a between hfirst) between b state' hsecond

end Ensures

section Items

variable {items earlier : List Pattern}

private theorem orderly_inSequence (h : ∀ item ∈ items, Orderly item) :
    Orderly (inSequence items) := by
  unfold inSequence
  split
  · exact .empty
  · exact h _ (List.mem_singleton_self _)
  · exact .sequence h

private theorem orderly_wholeOf (hitems : ∀ item ∈ items, Orderly item)
    (hearlier : ∀ branch ∈ earlier, Orderly branch) : Orderly (wholeOf items earlier) := by
  have hlast : Orderly (inSequence items.reverse) :=
    orderly_inSequence fun item h => hitems item (List.mem_reverse.1 h)
  unfold wholeOf
  split
  · exact hlast
  · refine .choice (by simp) fun branch h => ?_
    exact List.forall_mem_cons.2 ⟨hlast, hearlier⟩ branch (List.mem_reverse.1 h)

private theorem ensures_single : Ensures single Orderly := by
  refine ensures_any.bind fun state _ => ensures_any.bind fun next _ => ?_
  split
  · exact ensures_failure
  · refine ensures_any.bind fun atom _ => ?_
    split
    · exact ensures_pure (.char ..)
    · exact ensures_pure (.oneOf _)
    · exact ensures_pure .look
  · refine ensures_any.bind fun _ _ => ?_
    dsimp only
    split
    · exact ensures_pure (.oneOf _)
    · exact ensures_failure
  · refine ensures_any.bind fun _ _ => ensures_pure ?_
    split
    · exact .look
    · exact .char ..

private theorem ensures_bracket : Ensures bracket Orderly := by
  refine ensures_any.bind fun opening _ => ensures_any.bind fun start _ => ?_
  refine ensures_any.bind fun body _ => ensures_any.bind fun state _ => ?_
  dsimp only
  refine ensures_any.bind fun state' _ => ?_
  split
  · exact ensures_pure (.bracket ..)
  · exact ensures_failure

private theorem ensures_counts :
    Ensures counts fun bounds => bounds.2.all (bounds.1 ≤ ·) = true := by
  have hclosing : ∀ min max, Ensures (do
      if (← peek) ≠ some '\x7d' then failure
      skipOn
      if max.all (min ≤ ·) then return (min, max) else failure : Reader (Nat × Option Nat))
      fun bounds => bounds.2.all (bounds.1 ≤ ·) = true := by
    intro min max
    refine ensures_any.bind fun next _ => ?_
    dsimp only
    split
    · exact (ensures_failure (P := fun _ => False)).bind fun _ h => h.elim
    · refine ensures_any.bind fun _ _ => ?_
      split
      · rename_i hbounds
        exact ensures_pure hbounds
      · exact ensures_failure
  refine ensures_any.bind fun _ _ => ensures_any.bind fun min _ => ensures_any.bind fun next _ => ?_
  dsimp only
  split
  · refine ensures_any.bind fun _ _ => ensures_any.bind fun next _ => ?_
    split
    · exact ensures_any.bind fun max _ => hclosing min max
    · exact ensures_any.bind fun max _ => hclosing min max
  · exact ensures_any.bind fun max _ => hclosing min max

private theorem ensures_repeatLast {min : Nat} {max : Option Nat}
    (hitems : ∀ item ∈ items, Orderly item)
    (hbounds : max.all (min ≤ ·) = true) :
    Ensures (repeatLast items min max) fun items => ∀ item ∈ items, Orderly item := by
  have hlast : ∀ item rest sparing, (∀ part ∈ item :: rest, Orderly part) →
      Ensures (do return .repeated item min max (sparing == (← get).flags.lazyFirst) :: rest)
        fun items => ∀ item ∈ items, Orderly item := by
    intro item rest sparing hparts
    obtain ⟨hitem, hrest⟩ := List.forall_mem_cons.1 hparts
    refine ensures_any.bind fun state _ => ensures_pure ?_
    exact List.forall_mem_cons.2 ⟨.repeated _ hbounds hitem, hrest⟩
  refine ensures_any.bind fun next _ => ?_
  dsimp only
  split
  · refine ensures_any.bind fun _ _ => ?_
    split
    · exact ensures_failure
    · exact ensures_failure
    · exact hlast _ _ _ hitems
  · split
    · exact ensures_failure
    · exact ensures_failure
    · exact hlast _ _ _ hitems

private theorem ensures_branches (fuel : Nat) (hitems : ∀ item ∈ items, Orderly item)
    (hearlier : ∀ branch ∈ earlier, Orderly branch) :
    Ensures (branches fuel items earlier) Orderly := by
  induction fuel generalizing items earlier with
  | zero => exact ensures_failure
  | succ fuel ih =>
    unfold branches
    refine ensures_any.bind fun _ _ => ensures_any.bind fun next _ => ?_
    split
    · exact ensures_pure (orderly_wholeOf hitems hearlier)
    · exact ensures_pure (orderly_wholeOf hitems hearlier)
    · refine ensures_any.bind fun _ _ => ih (by simp) ?_
      have hlast : Orderly (inSequence items.reverse) :=
        orderly_inSequence fun item h => hitems item (List.mem_reverse.1 h)
      exact List.forall_mem_cons.2 ⟨hlast, hearlier⟩
    · refine ensures_any.bind fun _ _ => ensures_any.bind fun state _ => ?_
      refine ensures_any.bind fun opening _ => ?_
      split
      · exact ensures_any.bind fun _ _ => ih (List.forall_mem_cons.2 ⟨.empty, hitems⟩) hearlier
      · refine ensures_any.bind fun _ _ => (ih (by simp) (by simp)).bind fun body hbody => ?_
        refine ensures_any.bind fun _ _ => ensures_any.bind fun _ _ => ?_
        exact ih (List.forall_mem_cons.2 ⟨.group _ hbody, hitems⟩) hearlier
    · refine ensures_bracket.bind fun item hitem => ?_
      exact ih (List.forall_mem_cons.2 ⟨hitem, hitems⟩) hearlier
    · refine ensures_any.bind fun _ _ => ?_
      exact (ensures_repeatLast hitems (by decide)).bind fun items hitems => ih hitems hearlier
    · refine ensures_any.bind fun _ _ => ?_
      exact (ensures_repeatLast hitems (by decide)).bind fun items hitems => ih hitems hearlier
    · refine ensures_any.bind fun _ _ => ?_
      exact (ensures_repeatLast hitems (by decide)).bind fun items hitems => ih hitems hearlier
    · refine ensures_counts.bind fun bounds hbounds => ?_
      exact (ensures_repeatLast hitems hbounds).bind fun items hitems => ih hitems hearlier
    · refine ensures_single.bind fun item hitem => ?_
      exact ih (List.forall_mem_cons.2 ⟨hitem, hitems⟩) hearlier

end Items

end Reader

/-- Every pattern that is read from a text is orderly. -/
theorem orderly_of_ofText? {table : CharacterTable} {s : String} {pattern : Pattern}
    (h : ofText? table s = some pattern) : Orderly pattern := by
  unfold ofText? at h
  obtain ⟨⟨read, state⟩, hrun, hkept⟩ := Option.bind_eq_some_iff.1 h
  rw [Option.ite_none_right_eq_some] at hkept
  obtain rfl : read = pattern := Option.some.inj hkept.2
  exact Reader.ensures_branches _ (by simp) (by simp) _ _ _ hrun

end SchemaMocks.Pattern
