import SchemaMocks.Json.Basic
import SchemaMocks.Text.Diagnostic

set_option autoImplicit false
set_option relaxedAutoImplicit false

/-!
Decoding JSON values into types. A decoder names what is wrong by its cause; the text of the cause
is made in one place. Records are described once, field by field, and are read from an object by key
or from an array by place. In an object the bad entry with the least key is reported, and only then
the first absent field.
-/

namespace SchemaMocks

/-- Why a JSON value is not of the wanted type. -/
inductive DecodeError where
  | wrongType (found : Json) (wanted : String)
  | outOfRange (found : Int) (wanted : String)
  | notOneKey
  | missingField (name : String)
  | unknownVariant (name : String) (known : List String)
  | noVariant (type : String)
  | wrongLength (length : Nat) (wanted : String)

namespace DecodeError

/-- What a value is called where it is not wanted. -/
def describe : Json → String
  | .null => "null"
  | .bool b => "boolean `" ++ (if b then "true" else "false") ++ "`"
  | .number (.integer n _) => "integer `" ++ toString n ++ "`"
  | .number (.decimal x) => "floating point `" ++ x.format ⟨none, true, .up⟩ ++ "`"
  | .string s => "string " ++ Text.diagnostic s
  | .array _ => "sequence"
  | .object _ => "map"

def message : DecodeError → String
  | wrongType found wanted => "invalid type: " ++ describe found ++ ", expected " ++ wanted
  | outOfRange found wanted =>
    "invalid value: integer `" ++ toString found ++ "`, expected " ++ wanted
  | notOneKey => "invalid value: map, expected map with a single key"
  | missingField name => "missing field `" ++ name ++ "`"
  | unknownVariant name known =>
    "unknown variant `" ++ name ++ "`, expected one of "
      ++ ", ".intercalate (known.map fun k => "`" ++ k ++ "`")
  | noVariant type => "data did not match any variant of untagged enum " ++ type
  | wrongLength length wanted => "invalid length " ++ toString length ++ ", expected " ++ wanted

end DecodeError

abbrev Decoder (α : Type) := Json → Except DecodeError α

namespace Decoder

variable {α β : Type}

def any : Decoder Json := .ok

def string : Decoder String
  | .string s => .ok s
  | other => .error (.wrongType other "a string")

def bool : Decoder Bool
  | .bool b => .ok b
  | other => .error (.wrongType other "a boolean")

def number : Decoder Json.Number
  | .number n => .ok n
  | other => .error (.wrongType other "a JSON number")

/-- An integer from zero up to a bound, which is not included. -/
def natBelow (bound : Nat) (wanted : String) : Decoder Nat
  | .number (.integer n _) =>
    if 0 ≤ n ∧ n < bound then .ok n.toNat else .error (.outOfRange n wanted)
  | other => .error (.wrongType other wanted)

def word32 : Decoder UInt32 := fun j =>
  (natBelow 4294967296 "u32" j).map UInt32.ofNat

def word64 : Decoder UInt64 := fun j =>
  (natBelow 18446744073709551616 "u64" j).map UInt64.ofNat

def finite64 : Decoder Finite64
  | .number n =>
    match n.toBinary with
    | .finite x => .ok x
    | _ => .error (.wrongType (.number n) "f64")
  | other => .error (.wrongType other "f64")

def nullable (item : Decoder α) : Decoder (Option α)
  | .null => .ok none
  | other => (item other).map some

def items (item : Decoder α) : List Json → Except DecodeError (List α)
  | [] => .ok []
  | j :: rest => do
    let x ← item j
    let xs ← items item rest
    pure (x :: xs)

def list (item : Decoder α) : Decoder (List α)
  | .array js => items item js
  | other => .error (.wrongType other "a sequence")

def entries (value : Decoder α) : List (String × Json) → Except DecodeError (List (String × α))
  | [] => .ok []
  | (k, j) :: rest => do
    let x ← value j
    let xs ← entries value rest
    pure ((k, x) :: xs)

def dictionary (value : Decoder α) : Decoder (Dictionary α)
  | .object js => (entries value js).map Dictionary.ofList
  | other => .error (.wrongType other "a map")

/-- The first of some decoders that succeeds, else an error that names the type. -/
def firstOf (type : String) : List (Decoder α) → Decoder α
  | [], _ => .error (.noVariant type)
  | d :: rest, j =>
    match d j with
    | .ok x => .ok x
    | .error _ => firstOf type rest j

def variant (known : List (String × α)) (name : String) : Except DecodeError α :=
  match Entries.get? name known with
  | some x => .ok x
  | none => .error (.unknownVariant name (known.map (·.1)))

/-- A bare variant: its name, or an object that holds nothing but null under its name. -/
def enumeration (known : List (String × α)) : Decoder α
  | .string name => variant known name
  | .object [(name, payload)] => do
    let x ← variant known name
    match payload with
    | .null => pure x
    | other => .error (.wrongType other "unit")
  | .object _ => .error .notOneKey
  | other => .error (.wrongType other "string or map")

end Decoder

/-- What was found out about the fields of a record in an object: all of them, that one without a
default is absent, or that a present one does not decode. -/
inductive FieldReport (α : Type) where
  | found (value : α)
  | absent (name : String)
  | faulty (name : String) (error : DecodeError)

/-- Joins the findings on two parts of a record. A fault outweighs an absence; of two faults the one
with the lesser key counts, of two absences the first. -/
def FieldReport.join {α β : Type} : FieldReport (α → β) → FieldReport α → FieldReport β
  | .faulty n e, .faulty m d => if m < n then .faulty m d else .faulty n e
  | .faulty n e, _ => .faulty n e
  | _, .faulty m d => .faulty m d
  | .absent n, _ => .absent n
  | .found _, .absent m => .absent m
  | .found f, .found x => .found (f x)

/-- Why the fields of a record cannot be read from an array. -/
inductive ItemFault where
  | endsAt (index : Nat)
  | bad (error : DecodeError)

/-- The fields of a record: how to find them in an object and in an array. -/
structure Fields (α : Type) where
  count : Nat
  fromEntries : List (String × Json) → FieldReport α
  fromItems : Nat → List Json → Except ItemFault (α × List Json)

namespace Fields

variable {α β : Type}

def pure (x : α) : Fields α :=
  ⟨0, fun _ => .found x, fun _ items => .ok (x, items)⟩

/-- The fields of one record part followed by those of another. -/
def seq (f : Fields (α → β)) (x : Fields α) : Fields β where
  count := f.count + x.count
  fromEntries entries := (f.fromEntries entries).join (x.fromEntries entries)
  fromItems index items :=
    match f.fromItems index items with
    | .error e => .error e
    | .ok (g, rest) =>
      match x.fromItems (index + f.count) rest with
      | .error e => .error e
      | .ok (a, rest) => .ok (g a, rest)

/-- A field of a given key; `absent` says what stands in where it is left out. -/
def field (name : String) (decode : Decoder α) (absent : Option α) : Fields α where
  count := 1
  fromEntries entries :=
    match Entries.get? name entries with
    | none =>
      match absent with
      | some x => .found x
      | none => .absent name
    | some j =>
      match decode j with
      | .ok x => .found x
      | .error e => .faulty name e
  fromItems index
    | [] =>
      match absent with
      | some x => .ok (x, [])
      | none => .error (.endsAt index)
    | j :: rest =>
      match decode j with
      | .ok x => .ok (x, rest)
      | .error e => .error (.bad e)

def required (name : String) (decode : Decoder α) : Fields α :=
  field name decode none

def withDefault (name : String) (decode : Decoder α) (default : α) : Fields α :=
  field name decode (some default)

def optional (name : String) (decode : Decoder α) : Fields (Option α) :=
  field name (Decoder.nullable decode) (some none)

instance : Functor Fields where
  map f x := seq (pure f) x

instance : Seq Fields where
  seq f x := Fields.seq f (x ())

def ofEntries (fields : Fields α) (entries : List (String × Json)) : Except DecodeError α :=
  match fields.fromEntries entries with
  | .found x => .ok x
  | .absent name => .error (.missingField name)
  | .faulty _ e => .error e

def elements (n : Nat) : String :=
  if n = 1 then "1 element" else toString n ++ " elements"

/-- Reads the fields from the items of an array. `surplus` is what is wanted where items remain. -/
def ofItems (fields : Fields α) (wanted surplus : String) (items : List Json) :
    Except DecodeError α :=
  match fields.fromItems 0 items with
  | .ok (x, []) => .ok x
  | .ok (_, _ :: _) => .error (.wrongLength items.length surplus)
  | .error (.endsAt index) =>
    .error (.wrongLength index (wanted ++ " with " ++ elements fields.count))
  | .error (.bad e) => .error e

/-- A record, wanted under a name. -/
def decoder (fields : Fields α) (wanted : String) : Decoder α
  | .object entries => fields.ofEntries entries
  | .array items => fields.ofItems wanted "fewer elements in array" items
  | other => .error (.wrongType other wanted)

/-- The record inside a variant that was told by its tag. -/
def payload (fields : Fields α) (wanted : String) : Decoder α
  | .object entries => fields.ofEntries entries
  | .array items => fields.ofItems wanted (elements fields.count ++ " in sequence") items
  | other => .error (.wrongType other wanted)

end Fields

namespace Decoder

variable {α : Type}

def tag (known : List (String × α)) : Decoder α
  | .string name => variant known name
  | other => .error (.wrongType other "variant identifier")

/-- A variant told by the entry `key` of its own object, or by the first item of its own array. -/
def tagged (type key : String) (known : List (String × Decoder α)) : Decoder α
  | .object entries =>
    match Entries.get? key entries with
    | none => .error (.missingField key)
    | some t => do
      let decode ← tag known t
      decode (.object (entries.filter fun entry => entry.1 != key))
  | .array [] => .error (.missingField key)
  | .array (t :: rest) => do
    let decode ← tag known t
    decode (.array rest)
  | other => .error (.wrongType other ("internally tagged enum " ++ type))

/-- The content of a variant without fields, told by its tag. -/
def noContent (x : α) (wanted : String) : Decoder α
  | .object _ => .ok x
  | .array items =>
    if items.isEmpty then .ok x
    else .error (.wrongLength items.length (Fields.elements 0 ++ " in sequence"))
  | .null => .ok x
  | other => .error (.wrongType other wanted)

/-- A variant under `key` and its content under `content`, in an object or as a pair. A variant
may do without content, and then has a value of its own. -/
def tagAndContent (type key content : String) (known : List (String × Decoder α × Option α)) :
    Decoder α
  | .object entries =>
    match Entries.get? key entries with
    | none => .error (.missingField key)
    | some t => do
      let (decode, bare) ← enumeration known t
      match Entries.get? content entries, bare with
      | some j, _ => decode j
      | none, some x => pure x
      | none, none => .error (.missingField content)
  | .array [] => .error (.wrongLength 0 ("adjacently tagged enum " ++ type))
  | .array [t] => do
    let _ ← enumeration known t
    .error (.wrongLength 1 ("adjacently tagged enum " ++ type))
  | .array (t :: j :: rest) => do
    let (decode, _) ← enumeration known t
    let x ← decode j
    if rest.isEmpty then pure x
    else .error (.wrongLength (2 + rest.length) (Fields.elements 2 ++ " in sequence"))
  | other => .error (.wrongType other ("adjacently tagged enum " ++ type))

end Decoder

end SchemaMocks
