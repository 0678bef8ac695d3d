import SchemaMocks.Mock.Vocabulary
import SchemaMocks.Proofs.Sampling.Counting
import SchemaMocks.Proofs.Sampling.Ranges
import SchemaMocks.Proofs.Sampling.RecentDates

set_option autoImplicit false
set_option relaxedAutoImplicit false

/-!
Values and the types of their fields. Each scalar type has one form of values. A meaning does not
look at the type that it is drawn for, except for an amount of money, so that what is drawn has the
form of the type because a meaning is only followed where the type accepts it: for a field, for a
call that is not made, and for a type by its name. Where nothing is drawn, a date could not be
represented, the bounds of a number with fractions are no finite distance apart, or the values of a
unique field have run out.
-/

namespace SchemaMocks

section Settles

variable {α : Type} {F : MockFailure → Prop} {P : α → Prop}

end Settles

/-- Whether a value has the form in which values of a scalar type are drawn. -/
inductive MockValue.IsOf : ScalarType → MockValue → Prop
  | string (text : String) : IsOf .string (.text text)
  | int (n : Int64) : IsOf .int (.int n)
  | float (x : Binary64) : IsOf .float (.float x)
  | decimal (x : Binary64) : IsOf .decimal (.float x)
  | boolean (b : Bool) : IsOf .boolean (.bool b)
  | dateTime (t : Timestamp) : IsOf .dateTime (.dateTime t)
  | bigInt (n : Int64) : IsOf .bigInt (.bigInt n)
  | json (j : Json) : IsOf .json (.json j)
  | bytes (bytes : List UInt8) : IsOf .bytes (.bytes bytes)

def Draw.HasFiniteWidth (low high : Binary64) : Prop :=
  high.le low = true ∨ ∃ width, high.sub low = .finite width

def NumericBounds.HasFiniteWidth (bounds : NumericBounds) : Prop :=
  Draw.HasFiniteWidth (bounds.min.getD (Binary64.ofInt 0)) (bounds.max.getD (Binary64.ofInt 1000))

/-- How drawing a value of a type within bounds can fail: with a recent date or a birthday that
cannot be represented, or with bounds that are no finite distance apart. -/
inductive MockProfile.FailsWith (profile : MockProfile) (bounds : NumericBounds) :
    ScalarType → MockFailure → Prop
  | recent {seconds : Nat} (hseconds : seconds < profile.window)
      (hback : profile.base.back? seconds = none) : FailsWith profile bounds .dateTime .dateOutOfRange
  | birthday {days : Nat} (hleast : 18 * 365 ≤ days) (hmost : days ≤ 80 * 365)
      (hback : profile.base.back? (days * Timestamp.secondsPerDay) = none) :
      FailsWith profile bounds .dateTime .dateOutOfRange
  | width {scalar : ScalarType} (hfractional : scalar.isFractional = true)
      (hwidth : ¬bounds.HasFiniteWidth) : FailsWith profile bounds scalar .widthNotFinite

namespace MockProfile

variable (profile : MockProfile) (bounds : NumericBounds)

end MockProfile

/-- Whether a value is one of a type for a field: null where the field is optional, one to three
values of the type where it is a list, and a value of the type where it is not. -/
inductive Field.Holds (field : Field) (scalar : ScalarType) : MockValue → Prop
  | null (hoptional : field.isRequired = false) : Holds field scalar .null
  | list {items : List MockValue} (hlist : field.isList = true) (hleast : 1 ≤ items.length)
      (hmost : items.length ≤ 3) (hitems : ∀ item ∈ items, item.IsOf scalar) :
      Holds field scalar (.list items)
  | single {value : MockValue} (hlist : field.isList = false) (hvalue : value.IsOf scalar) :
      Holds field scalar value

/-- How drawing a value of a type for a field of a model can fail: as a value of the type, or because
all the values that were drawn for a unique field had been handed out. -/
inductive Field.FailsWith (profile : MockProfile) (model : Model) (field : Field)
    (scalar : ScalarType) : MockFailure → Prop
  | value {e : MockFailure} (h : profile.FailsWith .unbounded scalar e) :
      FailsWith profile model field scalar e
  | exhausted (hlist : field.isList = false) (hunique : field.isUnique = true ∨ field.isId = true)
      (attempts : UInt32) :
      FailsWith profile model field scalar
        (.exhausted (UniqueLedger.fieldKey model.name field.name) attempts)

/-- A source that follows the type is a call, a meaning that the type of the field accepts, or that
type itself. -/
inductive MockSource.Follows (scalar : ScalarType) : MockSource → Prop
  | semantic {s : SemanticType} (haccepts : s.accepts scalar = true) :
      Follows scalar (.semantic s scalar)
  | typeDefault : Follows scalar (.typeDefault scalar)
  | faker (expression : String) : Follows scalar (.directive (.faker expression))

section Values

variable {F : MockFailure → Prop} {P : MockValue → Prop}

end Values

namespace Sampler

end Sampler

end SchemaMocks
