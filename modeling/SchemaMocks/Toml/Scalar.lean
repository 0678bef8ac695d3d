import SchemaMocks.Binary64.Numeral
import SchemaMocks.Json.Reader
import SchemaMocks.Toml.Basic

set_option autoImplicit false
set_option relaxedAutoImplicit false

/-!
Values that are written as a single word: truth values, numbers, dates and times. Digits of a number
may be grouped with an underscore between two of them.
-/

namespace SchemaMocks.Toml

/-- Further digits, without the underscores between them, and what follows. -/
def moreDigits (isDigit : Char → Bool) : List Char → List Char × List Char
  | [] => ([], [])
  | [c] => if isDigit c then ([c], []) else ([], [c])
  | c :: d :: rest =>
    if isDigit c then
      let (digits, rest) := moreDigits isDigit (d :: rest)
      (c :: digits, rest)
    else if c = '_' && isDigit d then
      let (digits, rest) := moreDigits isDigit rest
      (d :: digits, rest)
    else ([], c :: d :: rest)

def groupedDigits? (isDigit : Char → Bool) : List Char → Option (List Char × List Char)
  | [] => none
  | c :: rest =>
    if isDigit c then
      let (digits, rest) := moreDigits isDigit rest
      some (c :: digits, rest)
    else none

def sign : List Char → Bool × List Char
  | '-' :: rest => (true, rest)
  | '+' :: rest => (false, rest)
  | cs => (false, cs)

/-- The digits of a whole number, which have no zero in front. -/
def wholeDigits? (cs : List Char) : Option (List Char × List Char) :=
  match groupedDigits? Char.isDigit cs with
  | some ('0' :: _ :: _, _) => none
  | other => other

def valueIn (base : Nat) (digits : List Char) : Nat :=
  digits.foldl (fun n c => base * n + (Json.hexValue? c).getD 0) 0

def based? (base : Nat) (cs : List Char) : Option Int :=
  match groupedDigits? (fun c => (Json.hexValue? c).any (· < base)) cs with
  | some (digits, []) => some (valueIn base digits)
  | _ => none

/-- The integer that a word is: decimal with an optional sign, or in base two, eight or sixteen. -/
def integer? (cs : List Char) : Option Int64 :=
  let value : Option Int := match cs with
    | '0' :: 'x' :: rest => based? 16 rest
    | '0' :: 'o' :: rest => based? 8 rest
    | '0' :: 'b' :: rest => based? 2 rest
    | _ =>
      let (negative, rest) := sign cs
      match wholeDigits? rest with
      | some (digits, []) =>
        let n : Int := Text.digitsValue 0 digits
        some (if negative then -n else n)
      | _ => none
  (value.filter fun n => -9223372036854775808 ≤ n && n < 9223372036854775808).map Int64.ofInt

def exponent? : List Char → Option Int
  | mark :: rest =>
    if mark = 'e' || mark = 'E' then
      let (negative, rest) := sign rest
      match groupedDigits? Char.isDigit rest with
      | some (digits, []) =>
        let n : Int := Text.digitsValue 0 digits
        some (if negative then -n else n)
      | _ => none
    else none
  | [] => none

/-- The number that a word is, with a fraction, an exponent or both. It must not exceed all finite
numbers. -/
def decimal? (cs : List Char) : Option Binary64 := do
  let (negative, rest) := sign cs
  let (whole, rest) ← wholeDigits? rest
  let (part, power) ← match rest with
    | '.' :: rest => do
      let (part, rest) ← groupedDigits? Char.isDigit rest
      if rest.isEmpty then some (part, 0) else (exponent? rest).map fun e => (part, e)
    | _ => (exponent? rest).map fun e => ([], e)
  match Binary64.nearestDecimal negative (Text.digitsValue 0 (whole ++ part))
      (power - part.length) with
  | .infinite false => none
  | x => some x

def special? (cs : List Char) : Option Binary64 :=
  let (negative, rest) := sign cs
  if rest = "inf".toList then some (.infinite negative)
  else if rest = "nan".toList then some .nan
  else none

def scalar? (cs : List Char) : Option Value :=
  if cs = "true".toList then some (.boolean true)
  else if cs = "false".toList then some (.boolean false)
  else (((Datetime.ofLiteral? cs).map Value.datetime
    <|> (integer? cs).map Value.integer)
    <|> (decimal? cs).map Value.float)
    <|> (special? cs).map Value.float

def isWordChar (c : Char) : Bool :=
  c.isAlphanum || c = '+' || c = '-' || c = '_' || c = '.' || c = ':'

/-- The word in front of a text and what follows it. A blank between a date and a time of day
belongs to the word. -/
def word (cs : List Char) : List Char × List Char :=
  let (first, rest) := cs.span isWordChar
  match rest with
  | ' ' :: c :: more =>
    if c.isDigit && (Timestamp.date? first).any fun (_, tail) => tail.isEmpty then
      let (second, rest) := (c :: more).span isWordChar
      (first ++ ' ' :: second, rest)
    else (first, rest)
  | _ => (first, rest)

end SchemaMocks.Toml
