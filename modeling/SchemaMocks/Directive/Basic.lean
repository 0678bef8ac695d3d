import SchemaMocks.Datamodel.Basic
import SchemaMocks.Notice

set_option autoImplicit false
set_option relaxedAutoImplicit false

/-!
Mock directives: what a line of documentation may ask of the mock of a field.
-/

namespace SchemaMocks

/-- A directive in the documentation of a field. -/
inductive Directive where
  /-- A call to be written out as it stands. -/
  | faker (expression : String)
  /-- A literal to be written out as it stands. -/
  | fixed (value : String)
  | range (min max : Finite64)
  | pattern (pattern : String)
  | enum (options : List String)
  /-- A bound on the expansion of a relation. -/
  | relationDepth (depth : UInt32)
  deriving DecidableEq

namespace Directive

/-- Whether a directive can be met by a field of a scalar type. A range needs a whole number between
its bounds, unless the type carries fractional digits. -/
def fits (scalar : Option ScalarType) : Directive → Bool
  | range min max => scalar.any ScalarType.isFractional || min.ceil ≤ max.floor
  | _ => true

def isArrayLiteral (value : String) : Bool :=
  match Text.trim value.toList with
  | [] => false
  | c :: rest => c == '[' && (c :: rest).getLast? == some ']'

end Directive

end SchemaMocks
