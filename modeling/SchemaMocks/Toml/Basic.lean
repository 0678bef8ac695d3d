import SchemaMocks.Json.Basic
import SchemaMocks.Toml.Datetime

set_option autoImplicit false
set_option relaxedAutoImplicit false

/-!
The values of a settings file, and their JSON form. JSON knows neither dates nor undefined or
infinite numbers: a date becomes an object with a single reserved key, such a number null.
-/

namespace SchemaMocks.Toml

/-- A value. The entries of a table are in ascending order of keys. -/
inductive Value where
  | string (text : String)
  | integer (n : Int64)
  | float (x : Binary64)
  | boolean (value : Bool)
  | datetime (d : Datetime)
  | array (items : List Value)
  | table (entries : List (String × Value))

/-- The key that stands for a date where a table takes the place of one. -/
def datetimeKey : String := "$__toml_private_datetime"

namespace Value

instance : Inhabited Value := ⟨boolean false⟩

mutual

private def sameValue : (a b : Value) → Decidable (a = b)
  | string a, string b => decidable_of_iff (a = b) (by simp)
  | integer a, integer b => decidable_of_iff (a = b) (by simp)
  | float a, float b => decidable_of_iff (a = b) (by simp)
  | boolean a, boolean b => decidable_of_iff (a = b) (by simp)
  | datetime a, datetime b => decidable_of_iff (a = b) (by simp)
  | array a, array b =>
    match sameItems a b with
    | isTrue h => isTrue (by rw [h])
    | isFalse h => isFalse (by simpa using h)
  | table a, table b =>
    match sameEntries a b with
    | isTrue h => isTrue (by rw [h])
    | isFalse h => isFalse (by simpa using h)
  | string _, integer _ | string _, float _ | string _, boolean _
  | string _, datetime _ | string _, array _ | string _, table _
  | integer _, string _ | integer _, float _ | integer _, boolean _
  | integer _, datetime _ | integer _, array _ | integer _, table _
  | float _, string _ | float _, integer _ | float _, boolean _
  | float _, datetime _ | float _, array _ | float _, table _
  | boolean _, string _ | boolean _, integer _ | boolean _, float _
  | boolean _, datetime _ | boolean _, array _ | boolean _, table _
  | datetime _, string _ | datetime _, integer _ | datetime _, float _
  | datetime _, boolean _ | datetime _, array _ | datetime _, table _
  | array _, string _ | array _, integer _ | array _, float _
  | array _, boolean _ | array _, datetime _ | array _, table _
  | table _, string _ | table _, integer _ | table _, float _
  | table _, boolean _ | table _, datetime _ | table _, array _ =>
    isFalse (by simp)

private def sameItems : (a b : List Value) → Decidable (a = b)
  | [], [] => isTrue rfl
  | [], _ :: _ => isFalse (by simp)
  | _ :: _, [] => isFalse (by simp)
  | x :: xs, y :: ys =>
    match sameValue x y, sameItems xs ys with
    | isTrue h, isTrue hs => isTrue (by rw [h, hs])
    | isFalse h, _ => isFalse (by simp [h])
    | _, isFalse hs => isFalse (by simp [hs])

private def sameEntries : (a b : List (String × Value)) → Decidable (a = b)
  | [], [] => isTrue rfl
  | [], _ :: _ => isFalse (by simp)
  | _ :: _, [] => isFalse (by simp)
  | (k, x) :: xs, (l, y) :: ys =>
    match decEq k l, sameValue x y, sameEntries xs ys with
    | isTrue hk, isTrue h, isTrue hs => isTrue (by rw [hk, h, hs])
    | isFalse hk, _, _ => isFalse (by simp [hk])
    | _, isFalse h, _ => isFalse (by simp [h])
    | _, _, isFalse hs => isFalse (by simp [hs])

end

instance : DecidableEq Value := sameValue

def typeName : Value → String
  | string _ => "string"
  | integer _ => "integer"
  | float _ => "float"
  | boolean _ => "boolean"
  | datetime _ => "datetime"
  | array _ => "array"
  | table _ => "table"

mutual

def toJson : Value → Json
  | string text => .string text
  | integer n => .number (.ofInt64 n)
  | float x => .ofBinary x
  | boolean value => .bool value
  | datetime d => .object [(datetimeKey, .string d.text)]
  | array items => .array (itemsJson items)
  | table entries => .object (entriesJson entries)

def itemsJson : List Value → List Json
  | [] => []
  | item :: rest => toJson item :: itemsJson rest

def entriesJson : List (String × Value) → List (String × Json)
  | [] => []
  | (key, value) :: rest => (key, toJson value) :: entriesJson rest

end

end Value

end SchemaMocks.Toml
