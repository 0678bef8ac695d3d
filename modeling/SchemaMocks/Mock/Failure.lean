import SchemaMocks.Mock.Unique
import SchemaMocks.Random.Range

set_option autoImplicit false
set_option relaxedAutoImplicit false

/-!
Why no mock value could be drawn.
-/

namespace SchemaMocks

/-- The causes for which a mock value or a mock record cannot be drawn. -/
inductive MockFailure where
  | unknownModel (name : String)
  | exhausted (key : String) (attempts : UInt32)
  | badPattern (field pattern : String)
  | unsupportedType (name : String)
  | dateOutOfRange
  | widthNotFinite
  deriving DecidableEq

namespace MockFailure

def message : MockFailure → String
  | unknownModel name => "invalid document: invalid document: unknown model '" ++ name ++ "'"
  | exhausted key attempts => exhaustedMessage key attempts
  | badPattern field pattern =>
    "invalid @mock annotation on " ++ field ++ ": invalid @mock.pattern '" ++ pattern ++ "'"
  | unsupportedType name => "unsupported feature: unsupported field type: " ++ name
  | dateOutOfRange => "date out of range"
  | widthNotFinite => "range without a finite width"

/-- Whether a failure is none of the library's own: an operation that it relies on has no result. -/
def stopsProgram : MockFailure → Bool
  | dateOutOfRange | widthNotFinite => true
  | _ => false

end MockFailure

/-- A draw that may fail; what it took from the stream stays taken. -/
abbrev Attempt := ExceptT MockFailure Draw

/-- A number of a range of floating-point numbers. -/
def Attempt.floatBetween (low high : Binary64) : Attempt Binary64 := do
  match ← Draw.floatBetween low high with
  | some x => return x
  | none => throw .widthNotFinite

end SchemaMocks
