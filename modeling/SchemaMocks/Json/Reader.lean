import SchemaMocks.Json.Basic
import SchemaMocks.Text.Numeral

set_option autoImplicit false
set_option relaxedAutoImplicit false

/-!
Reading JSON text. A text is one value with white space around it, nested at most 127 deep. Members
of an object come out in ascending order of keys, the last one of equal keys. Refused are lone
surrogate escapes, raw control characters, leading zeros, and numbers beyond the finite ones.
-/

namespace SchemaMocks.Json

def nestingLimit : Nat := 127

def isSpace (c : Char) : Bool :=
  c = ' ' || c = '\n' || c = '\t' || c = '\r'

def skipSpace (cs : List Char) : List Char :=
  cs.dropWhile isSpace

def hexValue? (c : Char) : Option Nat :=
  if c.isDigit then some (c.toNat - '0'.toNat)
  else if 'a' ≤ c && c ≤ 'f' then some (c.toNat - 'a'.toNat + 10)
  else if 'A' ≤ c && c ≤ 'F' then some (c.toNat - 'A'.toNat + 10)
  else none

/-- The value of four hexadecimal digits and what follows them. -/
def hex4? : List Char → Option (Nat × List Char)
  | a :: b :: c :: d :: rest => do
    let a ← hexValue? a
    let b ← hexValue? b
    let c ← hexValue? c
    let d ← hexValue? d
    pure (((a * 16 + b) * 16 + c) * 16 + d, rest)
  | _ => none

/-- The character of a numeric escape, after its mark; two escapes where surrogates pair up. -/
def unicodeEscape? (cs : List Char) : Option (Char × List Char) := do
  let (high, rest) ← hex4? cs
  if 0xDC00 ≤ high && high ≤ 0xDFFF then none
  else if 0xD800 ≤ high && high ≤ 0xDBFF then
    match rest with
    | '\\' :: 'u' :: rest =>
      let (low, rest) ← hex4? rest
      if 0xDC00 ≤ low && low ≤ 0xDFFF then
        pure (Char.ofNat ((high - 0xD800) * 0x400 + (low - 0xDC00) + 0x10000), rest)
      else none
    | _ => none
  else pure (Char.ofNat high, rest)

/-- The character of an escape, after the backslash. -/
def escape? : List Char → Option (Char × List Char)
  | '\"' :: rest => some ('\"', rest)
  | '\\' :: rest => some ('\\', rest)
  | '/' :: rest => some ('/', rest)
  | 'b' :: rest => some ('\x08', rest)
  | 'f' :: rest => some ('\x0c', rest)
  | 'n' :: rest => some ('\n', rest)
  | 'r' :: rest => some ('\r', rest)
  | 't' :: rest => some ('\t', rest)
  | 'u' :: rest => unicodeEscape? rest
  | _ => none

/-- The characters of a string up to its closing quote. -/
def readString : Nat → List Char → Option (List Char × List Char)
  | 0, _ => none
  | _ + 1, [] => none
  | fuel + 1, c :: rest =>
    if c = '\"' then some ([], rest)
    else if c = '\\' then do
      let (c, rest) ← escape? rest
      let (s, rest) ← readString fuel rest
      pure (c :: s, rest)
    else if c.toNat < 0x20 then none
    else do
      let (s, rest) ← readString fuel rest
      pure (c :: s, rest)

/-- Appends digits to a significand while it fits 64 bits; the digits that no longer fit stay. -/
def appendDigits (significand : Nat) : List Char → Nat × List Char
  | [] => (significand, [])
  | c :: rest =>
    let next := significand * 10 + Text.digitValue c
    if next < 18446744073709551616 then appendDigits next rest else (significand, c :: rest)

def powerOfTen (n : Nat) : Binary64 :=
  Binary64.ofDecimal false 1 n

/-- Scales a number by a power of ten, in steps of at most 308 powers; none where it overflows. -/
def scaleByTen : Nat → Binary64 → Int → Option Finite64
  | 0, _, _ => some (Finite64.zero false)
  | steps + 1, x, power =>
    if power.natAbs ≤ 308 then
      let scaled :=
        if 0 ≤ power then x.mul (powerOfTen power.toNat) else x.div (powerOfTen (-power).toNat)
      match scaled with
      | .finite y => some y
      | _ => none
    else match x with
      | .finite y =>
        if y.isZero then some y
        else if 0 ≤ power then none
        else scaleByTen steps (x.div (powerOfTen 308)) (power + 308)
      | _ => none

/-- The number of a significand of 64 bits and a power of ten. Two divisions by `10 ^ 308` bring any
significand to zero, so four steps are enough. -/
def scaled? (negative : Bool) (significand : Nat) (power : Int) : Option Number := do
  let x ← scaleByTen 4 (Binary64.ofInt significand) power
  pure (.decimal (if negative then x.neg else x))

/-- The number after an exponent mark. -/
def readExponent (negative : Bool) (significand : Nat) (power : Int) (cs : List Char) :
    Option (Number × List Char) :=
  let (minus, rest) := match cs with
    | '+' :: rest => (false, rest)
    | '-' :: rest => (true, rest)
    | _ => (false, cs)
  let (digits, rest) := rest.span Char.isDigit
  if digits.isEmpty then none
  else
    let e := Text.digitsValue 0 digits
    if 2147483648 ≤ e then
      if significand != 0 && !minus then none
      else some (.decimal (Finite64.zero negative), rest)
    else (scaled? negative significand (if minus then power - e else power + e)).map (·, rest)

/-- The number after its digits and point: an exponent may follow. -/
def finishNumber (negative : Bool) (significand : Nat) (power : Int) :
    List Char → Option (Number × List Char)
  | 'e' :: rest => readExponent negative significand power rest
  | 'E' :: rest => readExponent negative significand power rest
  | rest => (scaled? negative significand power).map (·, rest)

def readNumberTail (negative : Bool) (whole rest : List Char) : Option (Number × List Char) :=
  let (significand, excess) := appendDigits 0 whole
  match rest with
  | '.' :: rest =>
    let (part, rest) := rest.span Char.isDigit
    if part.isEmpty then none
    else
      let (significand, unread) := appendDigits significand part
      finishNumber negative significand
        ((excess.length : Int) - ((part.length : Int) - unread.length)) rest
  | 'e' :: rest => readExponent negative significand excess.length rest
  | 'E' :: rest => readExponent negative significand excess.length rest
  | _ =>
    let value : Int := if negative then -significand else significand
    if !excess.isEmpty then (scaled? negative significand excess.length).map (·, rest)
    else if negative && significand == 0 then some (.decimal (Finite64.zero true), rest)
    else if h : -9223372036854775808 ≤ value ∧ value < 18446744073709551616 then some (.integer value h, rest)
    else (scaled? negative significand 0).map (·, rest)

def readNumber (cs : List Char) : Option (Number × List Char) :=
  let (negative, body) := match cs with
    | '-' :: rest => (true, rest)
    | _ => (false, cs)
  let (whole, rest) := body.span Char.isDigit
  match whole with
  | [] => none
  | '0' :: _ :: _ => none
  | _ => readNumberTail negative whole rest

mutual

/-- A value in front of a text, in at most `depth` further levels of nesting. -/
def readValue : (fuel depth : Nat) → List Char → Option (Json × List Char)
  | 0, _, _ => none
  | fuel + 1, depth, cs =>
    match skipSpace cs with
    | 'n' :: 'u' :: 'l' :: 'l' :: rest => some (null, rest)
    | 't' :: 'r' :: 'u' :: 'e' :: rest => some (bool true, rest)
    | 'f' :: 'a' :: 'l' :: 's' :: 'e' :: rest => some (bool false, rest)
    | '\"' :: rest => (readString fuel rest).map fun (s, rest) => (string (String.ofList s), rest)
    | '[' :: rest =>
      match depth with
      | 0 => none
      | depth + 1 =>
        match skipSpace rest with
        | ']' :: rest => some (array [], rest)
        | _ => (readItems fuel depth rest).map fun (items, rest) => (array items, rest)
    | '\x7b' :: rest =>
      match depth with
      | 0 => none
      | depth + 1 =>
        match skipSpace rest with
        | '\x7d' :: rest => some (object [], rest)
        | _ =>
          (readMembers fuel depth rest).map fun (members, rest) =>
            (object (Entries.ofList members), rest)
    | cs => (readNumber cs).map fun (n, rest) => (number n, rest)

/-- The items of an array up to its closing bracket. -/
def readItems : (fuel depth : Nat) → List Char → Option (List Json × List Char)
  | 0, _, _ => none
  | fuel + 1, depth, cs => do
    let (item, rest) ← readValue fuel depth cs
    match skipSpace rest with
    | ']' :: rest => pure ([item], rest)
    | ',' :: rest =>
      let (items, rest) ← readItems fuel depth rest
      pure (item :: items, rest)
    | _ => none

/-- The members of an object up to its closing brace. -/
def readMembers : (fuel depth : Nat) → List Char → Option (List (String × Json) × List Char)
  | 0, _, _ => none
  | fuel + 1, depth, cs =>
    match skipSpace cs with
    | '\"' :: rest => do
      let (key, rest) ← readString fuel rest
      match skipSpace rest with
      | ':' :: rest =>
        let (value, rest) ← readValue fuel depth rest
        match skipSpace rest with
        | '\x7d' :: rest => pure ([(String.ofList key, value)], rest)
        | ',' :: rest =>
          let (members, rest) ← readMembers fuel depth rest
          pure ((String.ofList key, value) :: members, rest)
        | _ => none
      | _ => none
    | _ => none

end

/-- The value that a text is, none where it is not JSON. -/
def read? (text : String) : Option Json :=
  let cs := text.toList
  match readValue (2 * cs.length + 2) nestingLimit cs with
  | some (value, rest) => if (skipSpace rest).isEmpty then some value else none
  | none => none

end SchemaMocks.Json
