import SchemaMocks.Binary64.Numeral
import SchemaMocks.Json.Printer
import SchemaMocks.Json.Reader
import SchemaMocks.Text.Blank
import SchemaMocks.Timestamp

set_option autoImplicit false
set_option relaxedAutoImplicit false

/-!
Mock values. In JSON a big integer is a text, bytes are hexadecimal and a point in time is written
with milliseconds. A literal of the documentation is a quoted text, a keyword, a number, a JSON
array or object, or else a text as it stands.
-/

namespace SchemaMocks

inductive MockValue where
  | null
  | bool (value : Bool)
  | int (value : Int64)
  | bigInt (value : Int64)
  | float (value : Binary64)
  | text (value : String)
  | dateTime (value : Timestamp)
  | json (value : Json)
  | bytes (value : List UInt8)
  | list (items : List MockValue)

namespace MockValue

def isNull : MockValue → Bool
  | null => true
  | _ => false

mutual

/-- The JSON form of a value; a number that is not finite is null. -/
def toJson : MockValue → Json
  | null => .null
  | bool value => .bool value
  | int value => .number (Json.Number.ofInt64 value)
  | bigInt value => .string (toString value.toInt)
  | float value => Json.ofBinary value
  | text value => .string value
  | dateTime value => .string value.formatMillis
  | json value => value
  | bytes value => .string (Text.hex value)
  | list items => .array (itemsToJson items)

def itemsToJson : List MockValue → List Json
  | [] => []
  | item :: rest => item.toJson :: itemsToJson rest

end

/-- The text by which values are told apart. -/
def uniqueKey (value : MockValue) : String :=
  value.toJson.compact

mutual

/-- The value of a JSON value; an object stays as it is. -/
def ofJson : Json → MockValue
  | .null => null
  | .bool value => bool value
  | .number n =>
    match n.toInt64? with
    | some value => int value
    | none => float n.toBinary
  | .string value => text value
  | .array items => list (ofItems items)
  | .object entries => json (.object entries)

def ofItems : List Json → List MockValue
  | [] => []
  | item :: rest => ofJson item :: ofItems rest

end

/-- What stands between two equal quote characters of any kind. -/
def unquoted? : List Char → Option (List Char)
  | [] => none
  | q :: rest =>
    if (q = '\x27' ∨ q = '\"' ∨ q = '\x60') ∧ rest.getLast? = some q then some rest.dropLast else none

def keyword? (word : String) : Option MockValue :=
  if word = "null" ∨ word = "undefined" then some null
  else if word = "true" then some (bool true)
  else if word = "false" then some (bool false)
  else none

/-- The value of a numeral: an integer of 64 bits, else a binary number. -/
def numeral? (cs : List Char) : Option MockValue :=
  match Text.intBetween? (-9223372036854775808) 9223372036854775807 cs with
  | some n => some (int (Int64.ofInt n))
  | none => (Binary64.ofNumeral? cs).map float

def structured? (cs : List Char) : Option MockValue :=
  match cs with
  | '[' :: _ | '\x7b' :: _ => (Json.read? (String.ofList cs)).map json
  | _ => none

/-- The value of a literal. -/
def ofLiteral (raw : String) : MockValue :=
  let cs := Text.trim raw.toList
  match unquoted? cs with
  | some body => text (String.ofList body)
  | none =>
    ((keyword? (String.ofList cs)).orElse fun _ =>
      (numeral? cs).orElse fun _ => structured? cs).getD (text (String.ofList cs))

end MockValue

end SchemaMocks
