import SchemaMocks.Text.Blank
import SchemaMocks.Text.Search

set_option autoImplicit false
set_option relaxedAutoImplicit false

/-!
Assignments of a setting in one text: a key, an equals sign and a value. The first equals sign
counts; blanks around the key and around the value do not.
-/

namespace SchemaMocks

/-- A setting with its value. -/
structure Assignment where
  key : String
  value : String
  deriving DecidableEq

inductive AssignmentFault where
  | noEquals (raw : String)
  | noKey (raw : String)
  deriving DecidableEq

def AssignmentFault.message : AssignmentFault → String
  | noEquals raw => "expected key=value, got '" ++ raw ++ "'"
  | noKey raw => "empty key in '" ++ raw ++ "'"

def Assignment.ofText (raw : String) : Except AssignmentFault Assignment :=
  match Text.cut? '=' raw.toList with
  | none => .error (.noEquals raw)
  | some (key, value) =>
    let key := Text.trim key
    if key.isEmpty then .error (.noKey raw)
    else .ok ⟨String.ofList key, String.ofList (Text.trim value)⟩

end SchemaMocks
