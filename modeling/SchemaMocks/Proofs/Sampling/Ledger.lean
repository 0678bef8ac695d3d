import Mathlib.Data.List.Nodup
import SchemaMocks.Proofs.Sampling.Draws

set_option autoImplicit false
set_option relaxedAutoImplicit false

/-!
What draws hand out. The ledger only grows, also where a draw fails in the end; a draw answers for
texts that were not under a key before it and are there after it. So the texts of two draws one
after the other differ.
-/

namespace SchemaMocks

namespace UniqueLedger

variable {ε σ : Type} {generator : ValueGenerator ε σ} {used : List String} {value : MockValue}

private theorem search_fresh (attempts : Nat) (s : σ)
    (h : (search generator used attempts s).1 = .ok (some value)) : value.uniqueKey ∉ used := by
  induction attempts generalizing s with
  | zero => cases h
  | succ attempts ih =>
    rw [search] at h
    split at h
    · cases h
    · split at h
      · exact ih _ h
      · rename_i hunused
        cases h
        simpa using hunused

theorem usedUnder_insert (ledger : UniqueLedger) (key k : String) (texts : List String) :
    usedUnder { ledger with used := ledger.used.insert key texts } k =
      if key = k then texts else ledger.usedUnder k := by
  unfold usedUnder
  rw [Dictionary.get?_insert]
  split <;> rfl

private theorem draw_grows (ledger : UniqueLedger) (model field key : String) (s : σ) :
    ledger.usedUnder key ⊆ (ledger.draw model field generator s).2.1.usedUnder key := by
  unfold draw
  dsimp only
  split
  · exact List.Subset.refl _
  · exact List.Subset.refl _
  · rw [usedUnder_insert]
    split
    · rename_i hkey
      exact hkey ▸ List.subset_cons_self _ _
    · exact List.Subset.refl _

/-- A value that is handed out enters the ledger as a new one. -/
theorem draw_fresh {ledger : UniqueLedger} {model field : String} {s : σ}
    (h : (ledger.draw model field generator s).1 = .ok value) :
    value.uniqueKey ∉ ledger.usedUnder (fieldKey model field) ∧
    value.uniqueKey ∈
      (ledger.draw model field generator s).2.1.usedUnder (fieldKey model field) := by
  unfold draw at h ⊢
  dsimp only at h ⊢
  split at h
  · cases h
  · cases h
  · rename_i drawn s' hsearch
    obtain rfl : drawn = value := by simpa using h
    refine ⟨search_fresh _ s (congrArg Prod.fst hsearch), ?_⟩
    rw [usedUnder_insert, if_pos rfl]
    exact List.mem_cons_self

end UniqueLedger

def UniqueFailure.asMock : UniqueFailure MockFailure → MockFailure
  | exhausted key attempts => .exhausted key attempts
  | generator e => e

section HandsOut

variable {α β : Type} {key : String}

/-- Whatever the state, a draw keeps what is in the ledger under a key, and what it gives goes along
with texts, all different, that it is the first to put there. -/
def HandsOut (key : String) (draw : Sampling α) (P : α → List String → Prop) : Prop :=
  ∀ (s t : SamplerState) (result : Except MockFailure α), draw.run s = (result, t) →
    s.ledger.usedUnder key ⊆ t.ledger.usedUnder key ∧
    ∀ a, result = .ok a → ∃ texts, P a texts ∧ texts.Nodup ∧
      ∀ x ∈ texts, x ∉ s.ledger.usedUnder key ∧ x ∈ t.ledger.usedUnder key

def AnswersFor (key : String) (draw : Sampling α) (texts : α → List String) : Prop :=
  HandsOut key draw fun a handed => handed.Perm (texts a)

theorem handsOut_pure {P : α → List String → Prop} {a : α} (h : P a []) :
    HandsOut key (pure a) P := by
  intro s t result hrun
  cases hrun
  refine ⟨List.Subset.refl _, ?_⟩
  rintro _ ⟨⟩
  exact ⟨[], h, List.nodup_nil, by simp⟩

theorem handsOut_throw {P : α → List String → Prop} (e : MockFailure) :
    HandsOut key (throw e) P := by
  intro s t result hrun
  cases hrun
  refine ⟨List.Subset.refl _, ?_⟩
  rintro _ ⟨⟩

variable {draw : Sampling α} {P : α → List String → Prop}

theorem HandsOut.fewer {Q : α → List String → Prop} (h : HandsOut key draw P)
    (hfewer : ∀ a texts, P a texts → ∃ some, some.Sublist texts ∧ Q a some) :
    HandsOut key draw Q := by
  intro s t result hrun
  obtain ⟨hgrows, hresult⟩ := h s t result hrun
  refine ⟨hgrows, fun a ha => ?_⟩
  obtain ⟨texts, hP, hnodup, hnew⟩ := hresult a ha
  obtain ⟨some, hsub, hQ⟩ := hfewer a texts hP
  exact ⟨some, hQ, hnodup.sublist hsub, fun x hx => hnew x (hsub.subset hx)⟩

theorem HandsOut.mono {Q : α → List String → Prop} (h : HandsOut key draw P)
    (himp : ∀ a texts, P a texts → Q a texts) : HandsOut key draw Q :=
  h.fewer fun a texts hP => ⟨texts, List.Sublist.refl _, himp a texts hP⟩

theorem HandsOut.and {Q : α → Prop} (h : HandsOut key draw P) (hQ : Yields draw Q) :
    HandsOut key draw fun a texts => P a texts ∧ Q a := by
  intro s t result hrun
  obtain ⟨hgrows, hresult⟩ := h s t result hrun
  refine ⟨hgrows, fun a ha => ?_⟩
  obtain ⟨texts, hP, hnodup, hnew⟩ := hresult a ha
  exact ⟨texts, ⟨hP, hQ s t a (ha ▸ hrun)⟩, hnodup, hnew⟩

theorem HandsOut.bind {Q : β → List String → Prop} {next : α → Sampling β}
    (h : HandsOut key draw P)
    (hnext : ∀ a first, P a first → HandsOut key (next a) fun b second => Q b (first ++ second)) :
    HandsOut key (draw >>= next) Q := by
  intro s u result hrun
  rw [bind_run] at hrun
  rcases hdraw : draw.run s with ⟨_ | a, t⟩
  · rw [hdraw] at hrun
    cases hrun
    exact ⟨(h s u _ hdraw).1, fun b hb => nomatch hb⟩
  · rw [hdraw] at hrun
    obtain ⟨hgrows, hresult⟩ := h s t _ hdraw
    obtain ⟨first, hP, hnodup, hnew⟩ := hresult a rfl
    obtain ⟨hgrows', hresult'⟩ := hnext a first hP t u result hrun
    refine ⟨List.Subset.trans hgrows hgrows', fun b hb => ?_⟩
    obtain ⟨second, hQ, hnodup', hnew'⟩ := hresult' b hb
    refine ⟨first ++ second, hQ, List.nodup_append'.2 ⟨hnodup, hnodup', ?_⟩, fun x hx => ?_⟩
    · -- what the second draw puts there is new even after the first one
      exact fun x hx hx' => (hnew' x hx').1 (hnew x hx).2
    · rcases List.mem_append.1 hx with hx | hx
      · exact ⟨(hnew x hx).1, hgrows' (hnew x hx).2⟩
      · exact ⟨fun hbefore => (hnew' x hx).1 (hgrows hbefore), (hnew' x hx).2⟩

theorem HandsOut.map {Q : β → List String → Prop} {f : α → β} (h : HandsOut key draw P)
    (hQ : ∀ a texts, P a texts → Q (f a) texts) :
    HandsOut key (draw >>= fun a => pure (f a)) Q := by
  refine h.bind fun a texts hP => handsOut_pure ?_
  rw [List.append_nil]
  exact hQ a texts hP

theorem answersFor_mapM {γ : Type} {texts : α → List String} {draw : γ → Sampling α}
    (items : List γ) (h : ∀ c ∈ items, AnswersFor key (draw c) texts) :
    AnswersFor key (items.mapM draw) fun as => as.flatMap texts := by
  induction items with
  | nil => exact handsOut_pure (List.Perm.refl _)
  | cons c rest ih =>
    rw [List.mapM_cons]
    refine (h c List.mem_cons_self).bind fun a first hfirst => ?_
    refine (ih fun d hd => h d (List.mem_cons_of_mem _ hd)).map fun as second hsecond => ?_
    change (first ++ second).Perm ((a :: as).flatMap texts)
    rw [List.flatMap_cons]
    exact hfirst.append hsecond

/-- Over any number of draws no text comes up twice, nor does one that was there from the start. -/
theorem nodup_outcomes {texts : α → List String} {draws : List (Sampling α)}
    (h : ∀ draw ∈ draws, AnswersFor key draw texts) (s : SamplerState) :
    (((outcomes draws s).filterMap Except.toOption).flatMap texts).Nodup ∧
      ∀ x ∈ ((outcomes draws s).filterMap Except.toOption).flatMap texts,
        x ∉ s.ledger.usedUnder key := by
  induction draws generalizing s with
  | nil => exact ⟨List.nodup_nil, by simp [outcomes]⟩
  | cons draw rest ih =>
    obtain ⟨hdraw, hrest⟩ := List.forall_mem_cons.1 h
    rcases hrun : draw.run s with ⟨result, t⟩
    obtain ⟨hgrows, hresult⟩ := hdraw s t result hrun
    obtain ⟨hnodup, hnew⟩ := ih hrest t
    have hlater := fun x hx hbefore => hnew x hx (hgrows hbefore)
    rw [outcomes, hrun]
    cases result with
    | error e => exact ⟨hnodup, hlater⟩
    | ok a =>
      obtain ⟨handed, hperm, hnodup', hnew'⟩ := hresult a rfl
      simp only [List.filterMap_cons, Except.toOption, List.flatMap_cons]
      refine ⟨List.nodup_append'.2 ⟨hperm.nodup_iff.1 hnodup', hnodup, ?_⟩, fun x hx => ?_⟩
      · exact fun x hx hx' => hnew x hx' (hnew' x (hperm.mem_iff.2 hx)).2
      · rcases List.mem_append.1 hx with hx | hx
        · exact (hnew' x (hperm.mem_iff.2 hx)).1
        · exact hlater x hx

theorem handsOut_ofValueDraw (draw : ValueDraw α) :
    HandsOut key (Sampling.ofValueDraw draw) fun _ texts => texts = [] := by
  intro s t result hrun
  rw [ofValueDraw_run] at hrun
  cases hrun
  exact ⟨List.Subset.refl _, fun _ _ => ⟨[], rfl, List.nodup_nil, by simp⟩⟩

theorem unique_run (model field : String) (draw : ValueDraw MockValue) (s : SamplerState) :
    ((Sampling.unique model field draw).run s).2.ledger =
        (s.ledger.draw model field draw.run s.values).2.1 ∧
      ∀ value, ((Sampling.unique model field draw).run s).1 = .ok value →
        (s.ledger.draw model field draw.run s.values).1 = .ok value := by
  change (Sampling.unique model field draw s).2.ledger = _ ∧
    ∀ value, (Sampling.unique model field draw s).1 = .ok value → _
  unfold Sampling.unique
  split <;> rename_i hdraw <;> rw [hdraw] <;> refine ⟨rfl, fun value h => ?_⟩
  · simpa using h
  · cases h
  · cases h

theorem unique_values (model field : String) (draw : ValueDraw MockValue) (s : SamplerState) :
    ((Sampling.unique model field draw).run s).2.values =
      (s.ledger.draw model field draw.run s.values).2.2 := by
  change (Sampling.unique model field draw s).2.values = _
  unfold Sampling.unique
  split <;> rename_i hdraw <;> rw [hdraw]

theorem unique_answer (model field : String) (draw : ValueDraw MockValue) (s : SamplerState) :
    ((Sampling.unique model field draw).run s).1 =
      ((s.ledger.draw model field draw.run s.values).1).mapError UniqueFailure.asMock := by
  change (Sampling.unique model field draw s).1 = _
  unfold Sampling.unique
  split <;> rename_i hdraw <;> rw [hdraw] <;> rfl

theorem handsOut_unique (model field : String) (draw : ValueDraw MockValue) :
    HandsOut (UniqueLedger.fieldKey model field) (Sampling.unique model field draw)
      fun value texts => texts = [value.uniqueKey] := by
  intro s t result hrun
  obtain ⟨hledger, hvalue⟩ := unique_run model field draw s
  rw [hrun] at hledger hvalue
  refine ⟨?_, fun value hresult => ⟨[value.uniqueKey], rfl, List.nodup_singleton _, ?_⟩⟩
  · rw [hledger]
    exact s.ledger.draw_grows model field _ s.values
  · rw [hledger, List.forall_mem_singleton]
    exact UniqueLedger.draw_fresh (hvalue value hresult)

theorem keeps_unique (model field : String) (draw : ValueDraw MockValue) :
    HandsOut key (Sampling.unique model field draw) fun _ texts => texts = [] := by
  intro s t result hrun
  obtain ⟨hledger, -⟩ := unique_run model field draw s
  rw [hrun] at hledger
  refine ⟨?_, fun _ _ => ⟨[], rfl, List.nodup_nil, by simp⟩⟩
  rw [hledger]
  exact s.ledger.draw_grows model field key s.values

end HandsOut

end SchemaMocks
