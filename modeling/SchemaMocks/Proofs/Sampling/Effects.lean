import SchemaMocks.Proofs.Sampling.Draws

set_option autoImplicit false
set_option relaxedAutoImplicit false

/-!
Effects of draws. An effect says from which states to which ones a draw may lead, together with the
items that it gives out on the way, and in which states it may fail. What keeps to an effect step by
step keeps to it as a whole, and gives out the items of its steps one after the other. An effect that
leaves the states open says what a draw gives and how it may fail.
-/

namespace SchemaMocks

/-- The ways from state to state that draws may take. Whatever starts with a step may go on from
where that leads. -/
structure Effect (σ τ : Type) where
  Step : σ → σ → List τ → Prop
  Fails : σ → σ → MockFailure → Prop
  still : ∀ s, Step s s []
  trans : ∀ {s t u : σ} {first second : List τ}, Step s t first → Step t u second →
    Step s u (first ++ second)
  fails_trans : ∀ {s t u : σ} {first : List τ} {e : MockFailure}, Step s t first → Fails t u e →
    Fails s u e

section Emits

variable {σ τ α β : Type} {E : Effect σ τ}

structure Emits (E : Effect σ τ) (draw : ExceptT MockFailure (StateM σ) α)
    (P : α → List τ → Prop) : Prop where
  gives : ∀ {s t : σ} {a : α}, draw.run s = (.ok a, t) → ∃ items, E.Step s t items ∧ P a items
  fails : ∀ {s t : σ} {e : MockFailure}, draw.run s = (.error e, t) → E.Fails s t e

def Keeps (E : Effect σ τ) (draw : ExceptT MockFailure (StateM σ) α) : Prop :=
  Emits E draw fun _ _ => True

theorem emits_pure {P : α → List τ → Prop} {a : α} (h : P a []) : Emits E (pure a) P where
  gives {s _ _} hrun := by
    cases hrun
    exact ⟨[], E.still s, h⟩
  fails hrun := by cases hrun

theorem emits_throw {P : α → List τ → Prop} {e : MockFailure} (h : ∀ s, E.Fails s s e) :
    Emits E (throw e) P where
  gives hrun := by cases hrun
  fails {s _ _} hrun := by
    cases hrun
    exact h s

variable {draw : ExceptT MockFailure (StateM σ) α} {P : α → List τ → Prop}
  {next : α → ExceptT MockFailure (StateM σ) β}

theorem Emits.mono {Q : α → List τ → Prop} (h : Emits E draw P)
    (himp : ∀ a items, P a items → Q a items) : Emits E draw Q where
  gives {s t a} hrun := by
    obtain ⟨items, hstep, hP⟩ := h.gives hrun
    exact ⟨items, hstep, himp a items hP⟩
  fails hrun := h.fails hrun

theorem Emits.and {Q : α → Prop} (h : Emits E draw P) (hQ : Yields draw Q) :
    Emits E draw fun a items => P a items ∧ Q a where
  gives {s t a} hrun := by
    obtain ⟨items, hstep, hP⟩ := h.gives hrun
    exact ⟨items, hstep, hP, hQ s t a hrun⟩
  fails hrun := h.fails hrun

theorem Emits.bind {Q : β → List τ → Prop} (h : Emits E draw P)
    (hnext : ∀ a first, P a first → Emits E (next a) fun b second => Q b (first ++ second)) :
    Emits E (draw >>= next) Q where
  gives {s u b} hrun := by
    rw [bind_run] at hrun
    rcases hdraw : draw.run s with ⟨e | a, t⟩
    · rw [hdraw] at hrun
      cases hrun
    · rw [hdraw] at hrun
      obtain ⟨first, hfirst, hP⟩ := h.gives hdraw
      obtain ⟨second, hsecond, hQ⟩ := (hnext a first hP).gives hrun
      exact ⟨first ++ second, E.trans hfirst hsecond, hQ⟩
  fails {s u e} hrun := by
    rw [bind_run] at hrun
    rcases hdraw : draw.run s with ⟨e' | a, t⟩
    · rw [hdraw] at hrun
      cases hrun
      exact h.fails hdraw
    · rw [hdraw] at hrun
      obtain ⟨first, hfirst, hP⟩ := h.gives hdraw
      exact E.fails_trans hfirst ((hnext a first hP).fails hrun)

theorem Emits.map {Q : β → List τ → Prop} {f : α → β} (h : Emits E draw P)
    (hQ : ∀ a items, P a items → Q (f a) items) :
    Emits E (draw >>= fun a => pure (f a)) Q := by
  refine h.bind fun a items hP => emits_pure ?_
  rw [List.append_nil]
  exact hQ a items hP

theorem emits_mapM {γ : Type} {values : α → List τ}
    {draw : γ → ExceptT MockFailure (StateM σ) α} (items : List γ)
    (h : ∀ c ∈ items, Emits E (draw c) fun a given => given = values a) :
    Emits E (items.mapM draw) fun as given => given = as.flatMap values := by
  induction items with
  | nil => exact emits_pure rfl
  | cons c rest ih =>
    rw [List.mapM_cons]
    refine (h c List.mem_cons_self).bind fun a first hfirst => ?_
    refine (ih fun d hd => h d (List.mem_cons_of_mem _ hd)).map fun as second hsecond => ?_
    rw [hfirst, hsecond, List.flatMap_cons]

theorem keeps_pure (a : α) : Keeps E (pure a) :=
  emits_pure trivial

theorem Keeps.bind (h : Keeps E draw) (hnext : ∀ a, Keeps E (next a)) : Keeps E (draw >>= next) :=
  Emits.bind h fun a _ _ => hnext a

theorem keeps_mapM {γ : Type} {draw : γ → ExceptT MockFailure (StateM σ) α} (items : List γ)
    (h : ∀ c ∈ items, Keeps E (draw c)) : Keeps E (items.mapM draw) := by
  induction items with
  | nil => exact keeps_pure _
  | cons c rest ih =>
    rw [List.mapM_cons]
    refine (h c List.mem_cons_self).bind fun a => ?_
    exact (ih fun d hd => h d (List.mem_cons_of_mem _ hd)).bind fun as => keeps_pure _

end Emits

section Settles

variable {σ α β : Type} {F G : MockFailure → Prop} {P : α → Prop}

/-- Draws that fail in some ways only. -/
def Effect.failing (F : MockFailure → Prop) : Effect σ Empty where
  Step _ _ _ := True
  Fails _ _ e := F e
  still _ := trivial
  trans _ _ := trivial
  fails_trans _ h := h

def Settles (F : MockFailure → Prop) (draw : ExceptT MockFailure (StateM σ) α) (P : α → Prop) :
    Prop :=
  Emits (Effect.failing F) draw fun a _ => P a

variable {draw : ExceptT MockFailure (StateM σ) α}

theorem Settles.bind {Q : β → Prop} {next : α → ExceptT MockFailure (StateM σ) β}
    (h : Settles F draw P) (hnext : ∀ a, P a → Settles F (next a) Q) :
    Settles F (draw >>= next) Q :=
  Emits.bind h fun a _ ha => hnext a ha

theorem Settles.mono {Q : α → Prop} (h : Settles F draw P) (himp : ∀ a, P a → Q a) :
    Settles F draw Q :=
  Emits.mono h fun a _ => himp a

theorem Settles.weaken (h : Settles F draw P) (himp : ∀ e, F e → G e) : Settles G draw P where
  gives hrun := h.gives hrun
  fails hrun := himp _ (h.fails hrun)

theorem Settles.yields (h : Settles F draw P) : Yields draw P := by
  intro s t a hrun
  obtain ⟨_, -, ha⟩ := h.gives hrun
  exact ha

theorem Settles.fails (h : Settles F draw P) {s : σ} {e : MockFailure}
    (hrun : (draw.run s).1 = .error e) : F e :=
  Emits.fails h (s := s) (t := (draw.run s).2) (Prod.ext hrun rfl)

theorem Settles.outcome (h : Settles F draw P) (s : σ) :
    (∃ a, (draw.run s).1 = .ok a ∧ P a) ∨ ∃ e, (draw.run s).1 = .error e ∧ F e := by
  rcases hrun : draw.run s with ⟨e | a, t⟩
  · exact .inr ⟨e, rfl, Emits.fails h hrun⟩
  · exact .inl ⟨a, rfl, h.yields s t a hrun⟩

end Settles

end SchemaMocks
