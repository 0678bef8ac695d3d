import SchemaMocks.Json.Reader

set_option autoImplicit false
set_option relaxedAutoImplicit false

/-!
Passing over a JSON value that nobody wants. Its form is checked, its contents are not: it may nest
at any depth, escapes need not pair up, and numbers may be of any size.
-/

namespace SchemaMocks.Json

def skipEscape? : List Char → Option (List Char)
  | 'u' :: rest => (hex4? rest).map (·.2)
  | c :: rest => if "\"\\/bfnrt".toList.contains c then some rest else none
  | [] => none

def skipString : (fuel : Nat) → List Char → Option (List Char)
  | 0, _ => none
  | _ + 1, [] => none
  | fuel + 1, c :: rest =>
    if c = '\"' then some rest
    else if c = '\\' then (skipEscape? rest).bind (skipString fuel)
    else if c.toNat < 0x20 then none
    else skipString fuel rest

def skipDigits? (cs : List Char) : Option (List Char) :=
  let (digits, rest) := cs.span Char.isDigit
  if digits.isEmpty then none else some rest

def skipExponent? : List Char → Option (List Char)
  | mark :: rest =>
    if mark = 'e' ∨ mark = 'E' then
      match rest with
      | '+' :: rest => skipDigits? rest
      | '-' :: rest => skipDigits? rest
      | rest => skipDigits? rest
    else some (mark :: rest)
  | [] => some []

def skipNumber? (cs : List Char) : Option (List Char) :=
  let body := match cs with
    | '-' :: rest => rest
    | _ => cs
  let (whole, rest) := body.span Char.isDigit
  match whole, rest with
  | [], _ => none
  | '0' :: _ :: _, _ => none
  | _, '.' :: rest => (skipDigits? rest).bind skipExponent?
  | _, rest => skipExponent? rest

mutual

/-- What follows a value. -/
def skipValue : (fuel : Nat) → List Char → Option (List Char)
  | 0, _ => none
  | fuel + 1, cs =>
    match skipSpace cs with
    | 'n' :: 'u' :: 'l' :: 'l' :: rest => some rest
    | 't' :: 'r' :: 'u' :: 'e' :: rest => some rest
    | 'f' :: 'a' :: 'l' :: 's' :: 'e' :: rest => some rest
    | '\"' :: rest => skipString fuel rest
    | '[' :: rest =>
      match skipSpace rest with
      | ']' :: rest => some rest
      | _ => skipItems fuel rest
    | '\x7b' :: rest =>
      match skipSpace rest with
      | '\x7d' :: rest => some rest
      | _ => skipMembers fuel rest
    | cs => skipNumber? cs

def skipItems : (fuel : Nat) → List Char → Option (List Char)
  | 0, _ => none
  | fuel + 1, cs => do
    let rest ← skipValue fuel cs
    match skipSpace rest with
    | ']' :: rest => some rest
    | ',' :: rest => skipItems fuel rest
    | _ => none

def skipMembers : (fuel : Nat) → List Char → Option (List Char)
  | 0, _ => none
  | fuel + 1, cs =>
    match skipSpace cs with
    | '\"' :: rest => do
      let rest ← skipString fuel rest
      match skipSpace rest with
      | ':' :: rest =>
        let rest ← skipValue fuel rest
        match skipSpace rest with
        | '\x7d' :: rest => some rest
        | ',' :: rest => skipMembers fuel rest
        | _ => none
      | _ => none
    | _ => none

end

end SchemaMocks.Json
