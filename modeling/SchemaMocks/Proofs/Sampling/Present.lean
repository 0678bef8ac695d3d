import SchemaMocks.Proofs.Random.Range
import SchemaMocks.Proofs.Sampling.Ledger

set_option autoImplicit false
set_option relaxedAutoImplicit false

/-!
Values that are present. What is drawn for a type or for the meaning of a name has a JSON form that
is not null, the numbers among them being finite; and it stays so where it is drawn for a list, or
until it differs from what was handed out before.
-/

namespace SchemaMocks

def MockValue.IsPresent (value : MockValue) : Prop :=
  value.toJson ≠ .null

section Lifted

variable {α : Type} {P : α → Prop}

theorem yields_ofDraw {draw : Draw α} (h : draw.Gives P) : Yields (liftM draw : Attempt α) P := by
  intro s t a hrun
  change (Except.ok (draw.run s).1, (draw.run s).2) = (Except.ok a, t) at hrun
  cases hrun
  exact h s

theorem yields_ofAttempt {attempt : Attempt α} (h : Yields attempt P) :
    Yields (ValueDraw.ofAttempt attempt) P := by
  intro s t a hrun
  change ((attempt.run s.stream).1, { s with stream := (attempt.run s.stream).2 }) = (Except.ok a, t)
    at hrun
  exact h s.stream (attempt.run s.stream).2 a (Prod.ext (Prod.mk.inj hrun).1 rfl)

end Lifted

namespace MockProfile

open Binary64

variable (profile : MockProfile)

private theorem isPresent_float {x : Binary64} {k : Nat} (h : x.IsWithin k) :
    (MockValue.float x).IsPresent := by
  obtain ⟨value, rfl⟩ := h.eq_finite
  simp [MockValue.IsPresent, MockValue.toJson, Json.ofBinary]

private theorem hundred_eq : hundred = .finite ⟨false, 7036874417766400, -46, by decide⟩ := by
  decide +kernel

private theorem isWithin_div_hundred {x : Binary64} {k : Nat} (h : x.IsWithin k) (hk : k ≤ 1000) :
    IsWithin (k + 1) (x.div hundred) := by
  rw [hundred_eq]
  exact h.div (by decide +kernel) hk

private theorem yields_floatBetween {low high : Binary64} {k : Nat} (hlow : IsWithin k low)
    (hhigh : IsWithin k high) (hk : k < 900) :
    Yields (Attempt.floatBetween low high) (IsWithin (k + 6)) := by
  refine (yields_ofDraw (Draw.gives_floatBetween hlow hhigh hk)).bind fun result hresult => ?_
  cases result with
  | none => exact yields_throw _
  | some x => exact yields_pure (hresult x rfl)

private theorem yields_hundredths {low high : Binary64} {k : Nat} (hlow : IsWithin k low)
    (hhigh : IsWithin k high) (hk : k ≤ 500) :
    Yields (do
      let x ← Attempt.floatBetween low high
      return .float ((x.mul hundred).round.div hundred) : Attempt MockValue)
      MockValue.IsPresent := by
  have hundredth : IsWithin 8 hundred := isWithin_ofInt (k := 7) (by decide) (by decide)
  refine (yields_floatBetween hlow hhigh (by omega)).bind fun x hx => ?_
  have hscaled := (hx.mul hundredth (by omega)).round (by omega)
  exact yields_pure (isPresent_float (isWithin_div_hundred hscaled (by omega)))

private theorem yields_typeValue (scalar : ScalarType) :
    Yields (profile.typeValue scalar NumericBounds.unbounded) MockValue.IsPresent := by
  have hlow : IsWithin 11 (Binary64.ofInt 0) := isWithin_ofInt (k := 10) (by decide) (by decide)
  have hhigh : IsWithin 11 (Binary64.ofInt 1000) := isWithin_ofInt (k := 10) (by decide) (by decide)
  cases scalar with
  | float | decimal => exact yields_hundredths hlow hhigh (by decide)
  | string | int | boolean | dateTime | bigInt | bytes =>
    exact yields_any.bind fun _ _ => yields_pure nofun
  | json =>
    exact yields_any.bind fun _ _ => yields_any.bind fun _ _ => yields_pure nofun

private theorem gives_price (scalar : ScalarType) :
    Draw.Gives (price scalar) MockValue.IsPresent := by
  refine (Draw.gives_between .bits64 (by decide) (by decide)).bind fun cents hcents => ?_
  refine Draw.gives_pure ?_
  split
  · have hwithin : IsWithin 18 (Binary64.ofInt cents) :=
      isWithin_ofInt (k := 17) (Nat.le_trans (m := 100000) (by omega) (by decide)) (by decide)
    exact isPresent_float (isWithin_div_hundred hwithin (by decide))
  · exact nofun

private theorem yields_semanticValue (semantic : SemanticType) (scalar : ScalarType)
    (fieldName : String) :
    Yields (profile.semanticValue semantic scalar fieldName) MockValue.IsPresent := by
  unfold semanticValue
  dsimp only
  cases semantic with
  | price => exact yields_ofDraw (gives_price scalar)
  | unknown => exact profile.yields_typeValue scalar
  | date => dsimp only; split <;> exact yields_any.bind fun _ _ => yields_pure nofun
  | _ => exact yields_any.bind fun _ _ => yields_pure nofun

end MockProfile

section Unique

variable {ε σ : Type} {generator : ValueGenerator ε σ} {used : List String} {value : MockValue}

private theorem UniqueLedger.search_generates (attempts : Nat) (s : σ)
    (h : (search generator used attempts s).1 = .ok (some value)) :
    ∃ before, (generator before).1 = .ok value := by
  induction attempts generalizing s with
  | zero => cases h
  | succ attempts ih =>
    rw [search] at h
    split at h
    · cases h
    · rename_i found after hfound
      split at h
      · exact ih after h
      · cases h
        exact ⟨s, by rw [hfound]⟩

private theorem UniqueLedger.draw_generates {ledger : UniqueLedger} {model field : String} {s : σ}
    (h : (ledger.draw model field generator s).1 = .ok value) :
    ∃ before, (generator before).1 = .ok value := by
  unfold draw at h
  dsimp only at h
  split at h
  · cases h
  · cases h
  · rename_i hsearch
    cases h
    exact search_generates _ s (by rw [hsearch])

theorem yields_unique (model field : String) {draw : ValueDraw MockValue} {P : MockValue → Prop}
    (h : Yields draw P) : Yields (Sampling.unique model field draw) P := by
  intro s t value hrun
  have hdraw := (unique_run model field draw s).2 value (by rw [hrun])
  obtain ⟨before, hbefore⟩ := UniqueLedger.draw_generates hdraw
  exact h before (draw.run before).2 value (Prod.ext hbefore rfl)

end Unique

namespace Sampler

theorem yields_chance (condition : Bool) :
    Yields (chance condition) fun outcome => outcome = true → condition = true := by
  unfold chance
  split
  · rename_i hcondition
    exact yields_any.mono fun _ _ _ => hcondition
  · exact yields_pure nofun

theorem yields_oneToThree (draw : ValueDraw MockValue) :
    Yields (Directive.oneToThree draw) MockValue.IsPresent :=
  yields_any.bind fun _ _ => yields_any.bind fun _ _ => yields_pure nofun

section Implicit

variable {field : Field}

theorem scalarSource_ne_directive (hsource : field.explicitSource? = none) (d : Directive) :
    field.scalarSource ≠ .directive d := by
  unfold Field.scalarSource
  simp only [hsource]
  cases field.scalar? with
  | none => exact nofun
  | some scalar => dsimp only; split <;> exact nofun

theorem yields_scalarSource (profile : MockProfile) (model : Model)
    (hsource : field.explicitSource? = none) {scalar : ScalarType}
    (htype : field.scalar? = some scalar) :
    Yields (field.scalarSource.value profile model field) MockValue.IsPresent := by
  unfold Field.scalarSource
  simp only [hsource, htype]
  split
  · exact yields_ofAttempt (profile.yields_semanticValue _ scalar field.name)
  · exact yields_ofAttempt (profile.yields_typeValue scalar)

end Implicit

end Sampler

end SchemaMocks
