import SchemaMocks.Mock.Sampler
import SchemaMocks.Proofs.Sampling.Effects
import SchemaMocks.Proofs.Unique.Independence

set_option autoImplicit false
set_option relaxedAutoImplicit false

/-!
Which draws count up. Of all sources only an automatically counted default touches a counter, the
one of its own field; and only the ledger refuses a value for being used, so that nothing else ever
fails for want of a new one.
-/

namespace SchemaMocks

/-- A failure that is not for want of a new value under a key. -/
def MockFailure.IsNotFor (key : String) (e : MockFailure) : Prop :=
  ∀ attempts, e ≠ .exhausted key attempts

/-- Draws that do not fail for want of a new value. -/
def neverExhausted : Effect WordStream Empty where
  Step _ _ _ := True
  Fails _ _ e := ∀ key, e.IsNotFor key
  still _ := trivial
  trans _ _ := trivial
  fails_trans _ h := h

/-- Draws that leave a counter as it is, and that do not fail for want of a new value under its
key. -/
def leavingCounter (key : String) : Effect ValueState Empty where
  Step s t _ := t.reached key = s.reached key
  Fails s t e := t.reached key = s.reached key ∧ e.IsNotFor key
  still _ := rfl
  trans hfirst hsecond := hsecond.trans hfirst
  fails_trans hfirst h := ⟨h.1.trans hfirst, h.2⟩

section Attempts

variable {α : Type}

private theorem keeps_ofDraw (draw : Draw α) : Keeps neverExhausted (liftM draw : Attempt α) where
  gives _ := ⟨[], trivial, trivial⟩
  fails {s t e} hrun := by
    change (Except.ok (draw.run s).1, (draw.run s).2) = (Except.error e, t) at hrun
    cases hrun

private theorem keeps_throw {e : MockFailure} (h : ∀ key, e.IsNotFor key) :
    Keeps neverExhausted (throw e : Attempt α) :=
  emits_throw fun _ => h

private theorem keeps_floatBetween (low high : Binary64) :
    Keeps neverExhausted (Attempt.floatBetween low high) := by
  refine (keeps_ofDraw _).bind fun drawn => ?_
  cases drawn with
  | some x => exact keeps_pure x
  | none => exact keeps_throw fun _ _ => nofun

namespace MockProfile

variable (profile : MockProfile)

private theorem keeps_before (seconds : Nat) : Keeps neverExhausted (profile.before seconds) := by
  unfold before
  split
  · exact keeps_pure _
  · exact keeps_throw fun _ _ => nofun

private theorem keeps_recent : Keeps neverExhausted profile.recent :=
  (keeps_ofDraw _).bind fun _ => profile.keeps_before _

private theorem keeps_birthday : Keeps neverExhausted profile.birthday :=
  (keeps_ofDraw _).bind fun _ => profile.keeps_before _

private theorem keeps_typeValue (scalar : ScalarType) (bounds : NumericBounds) :
    Keeps neverExhausted (profile.typeValue scalar bounds) := by
  cases scalar with
  | dateTime => exact profile.keeps_recent.bind fun _ => keeps_pure _
  | json => exact (keeps_ofDraw _).bind fun _ => (keeps_ofDraw _).bind fun _ => keeps_pure _
  | float | decimal => exact (keeps_floatBetween _ _).bind fun _ => keeps_pure _
  | string | int | boolean | bigInt | bytes =>
    exact (keeps_ofDraw _).bind fun _ => keeps_pure _

private theorem keeps_semanticValue (semantic : SemanticType) (scalar : ScalarType)
    (fieldName : String) :
    Keeps neverExhausted (profile.semanticValue semantic scalar fieldName) := by
  unfold semanticValue
  dsimp only
  cases semantic with
  | price => exact keeps_ofDraw _
  | unknown => exact profile.keeps_typeValue scalar _
  | date =>
    dsimp only
    split
    · exact profile.keeps_birthday.bind fun _ => keeps_pure _
    · exact profile.keeps_recent.bind fun _ => keeps_pure _
  | _ => exact (keeps_ofDraw _).bind fun _ => keeps_pure _

end MockProfile

namespace Directive

private theorem keeps_patternValue (characters : Pattern.CharacterTable)
    (fieldName pattern : String) :
    Keeps neverExhausted (patternValue characters fieldName pattern) := by
  unfold patternValue
  split
  · exact (keeps_ofDraw _).bind fun _ => keeps_pure _
  · exact keeps_throw fun _ _ => nofun

private theorem keeps_rangeValue (scalar : Option ScalarType) (min max : Finite64) :
    Keeps neverExhausted (rangeValue scalar min max) := by
  unfold rangeValue
  split
  · exact (keeps_floatBetween _ _).bind fun _ => keeps_pure _
  · exact (keeps_ofDraw _).bind fun _ => keeps_pure _

end Directive

end Attempts

section Values

variable {α : Type} {key : String}

private theorem keeps_ofAttempt {attempt : Attempt α} (h : Keeps neverExhausted attempt) :
    Keeps (leavingCounter key) (ValueDraw.ofAttempt attempt) where
  gives {s t a} hrun := by
    change ((attempt.run s.stream).1, { s with stream := (attempt.run s.stream).2 }) =
      (Except.ok a, t) at hrun
    obtain ⟨-, rfl⟩ := Prod.mk.inj hrun
    exact ⟨[], rfl, trivial⟩
  fails {s t e} hrun := by
    change ((attempt.run s.stream).1, { s with stream := (attempt.run s.stream).2 }) =
      (Except.error e, t) at hrun
    obtain ⟨hresult, rfl⟩ := Prod.mk.inj hrun
    exact ⟨rfl, h.fails (t := (attempt.run s.stream).2) (Prod.ext hresult rfl) key⟩

theorem Keeps.reached {draw : ValueDraw α} (h : Keeps (leavingCounter key) draw) (s : ValueState) :
    (draw.run s).2.reached key = s.reached key := by
  rcases hrun : draw.run s with ⟨e | a, t⟩
  · exact (h.fails hrun).1
  · obtain ⟨_, hsame, -⟩ := h.gives hrun
    exact hsame

theorem Keeps.isNotFor {draw : ValueDraw α} (h : Keeps (leavingCounter key) draw) {s : ValueState}
    {e : MockFailure} (he : (draw.run s).1 = .error e) : e.IsNotFor key :=
  (h.fails (s := s) (t := (draw.run s).2) (Prod.ext he rfl)).2

theorem keeps_notices (ns : List Notice) : Keeps (leavingCounter key) (ValueDraw.notices ns) where
  gives hrun := by
    cases hrun
    exact ⟨[], rfl, trivial⟩
  fails hrun := by cases hrun

theorem keeps_notice (n : Notice) : Keeps (leavingCounter key) (ValueDraw.notice n) :=
  keeps_notices [n]

private theorem keeps_draw (draw : Draw α) :
    Keeps (leavingCounter key) (ValueDraw.ofAttempt (liftM draw : Attempt α)) :=
  keeps_ofAttempt (keeps_ofDraw draw)

theorem keeps_oneToThree {draw : ValueDraw MockValue} (h : Keeps (leavingCounter key) draw) :
    Keeps (leavingCounter key) (Directive.oneToThree draw) :=
  (keeps_draw _).bind fun _ => (keeps_mapM _ fun _ _ => h).bind fun _ => keeps_pure _

private theorem Directive.keeps_value (profile : MockProfile) (fieldName : String)
    (scalar : Option ScalarType) (d : Directive) :
    Keeps (leavingCounter key) (d.value profile fieldName scalar) := by
  cases d with
  | faker expression =>
    refine (keeps_notice _).bind fun _ => ?_
    cases scalar with
    | none => exact keeps_pure _
    | some scalar => exact keeps_ofAttempt (profile.keeps_semanticValue _ scalar fieldName)
  | range min max => exact keeps_ofAttempt (keeps_rangeValue scalar min max)
  | pattern p => exact keeps_ofAttempt (keeps_patternValue _ fieldName p)
  | enum options => exact (keeps_draw _).bind fun _ => keeps_pure _
  | fixed literal | relationDepth depth => exact keeps_pure _

theorem Directive.keeps_listValue (profile : MockProfile) (fieldName : String)
    (scalar : Option ScalarType) (d : Directive) :
    Keeps (leavingCounter key) (d.listValue profile fieldName scalar) := by
  have hvalues : Keeps (leavingCounter key)
      (oneToThree (d.value profile fieldName scalar)) :=
    keeps_oneToThree (d.keeps_value profile fieldName scalar)
  unfold listValue
  split
  · exact (keeps_draw _).bind fun _ => keeps_pure _
  · split
    · exact keeps_pure _
    · exact hvalues
  · exact hvalues

private theorem keeps_countUp {own : String} (h : own ≠ key) :
    Keeps (leavingCounter key) (ValueDraw.countUp own) where
  gives {s _ _} hrun := by
    cases hrun
    exact ⟨[], (s.reached_counted own key).trans (if_neg h), trivial⟩
  fails hrun := by cases hrun

private theorem DefaultMock.keeps_value (profile : MockProfile) {own : String}
    (scalar : Option ScalarType) {d : DefaultMock} (h : d = .autoincrement → own ≠ key) :
    Keeps (leavingCounter key) (d.value profile own scalar) := by
  cases d with
  | autoincrement =>
    exact (keeps_countUp (h rfl)).bind fun _ => keeps_pure _
  | cuid | uuid | nanoid | ulid | auto => exact (keeps_draw _).bind fun _ => keeps_pure _
  | now | string s | number n | bool b | list values => exact keeps_pure _

theorem MockSource.keeps_value (profile : MockProfile) (model : Model) (field : Field)
    {source : MockSource}
    (h : source = .default .autoincrement → UniqueLedger.fieldKey model.name field.name ≠ key) :
    Keeps (leavingCounter key) (source.value profile model field) := by
  cases source with
  | directive d => exact d.keeps_value profile field.name field.scalar?
  | default d => exact DefaultMock.keeps_value profile _ fun hd => h (congrArg _ hd)
  | semantic s scalar => exact keeps_ofAttempt (profile.keeps_semanticValue s scalar field.name)
  | typeDefault scalar => exact keeps_ofAttempt (profile.keeps_typeValue scalar _)
  | placeholder => exact keeps_pure _

namespace Sampler

theorem keeps_chance (condition : Bool) : Keeps (leavingCounter key) (chance condition) := by
  unfold chance
  split
  · exact keeps_draw _
  · exact keeps_pure _

private theorem keeps_enumValue (sampler : Sampler) (field : Field) :
    Keeps (leavingCounter key) (sampler.enumValue field) := by
  unfold enumValue
  dsimp only
  split
  · exact keeps_pure _
  · refine (keeps_chance _).bind fun null => ?_
    split
    · exact keeps_pure _
    · split
      · exact (keeps_draw _).bind fun _ => keeps_pure _
      · exact (keeps_draw _).bind fun _ => keeps_pure _

theorem keeps_enumField (sampler : Sampler) (model : Model) {field : Field}
    (h : UniqueLedger.fieldKey model.name field.name ≠ key) :
    Keeps (leavingCounter key) (sampler.enumField model field) := by
  unfold enumField
  refine (keeps_notices _).bind fun _ => ?_
  split
  · exact sampler.keeps_enumValue field
  · rename_i d _
    refine (keeps_chance _).bind fun null => ?_
    split
    · exact keeps_pure _
    · split
      · exact d.keeps_listValue sampler.profile field.name none
      · exact d.keeps_value sampler.profile field.name field.scalar?
  · exact MockSource.keeps_value sampler.profile model field fun _ => h

end Sampler

end Values

end SchemaMocks
