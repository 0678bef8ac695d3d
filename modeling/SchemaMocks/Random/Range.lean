import SchemaMocks.Binary64.Basic
import SchemaMocks.Random.Stream

set_option autoImplicit false
set_option relaxedAutoImplicit false

/-!
Draws from ranges. A draw from a range of `size` numbers multiplies a random word by the size and
takes the upper half of the product; where the lower half is close to overflowing, a second word
decides whether one is carried. Draws that must be exactly uniform try again instead.
-/

namespace SchemaMocks.Draw

/-- How many bits of a random word are used. -/
inductive Width where
  | bits32
  | bits64
  deriving DecidableEq

def Width.modulus : Width → Nat
  | bits32 => 4294967296
  | bits64 => 18446744073709551616

def wordOf : Width → Draw Nat
  | .bits32 => do return (← word).toNat
  | .bits64 => do return (← word64).toNat

/-- A number below `size`, which is positive and at most the modulus less one. -/
def offset (width : Width) (size : Nat) : Draw Nat := do
  let product := (← wordOf width) * size
  let high := product / width.modulus
  let low := product % width.modulus
  if width.modulus - size < low then
    let carry := (← wordOf width) * size / width.modulus
    pure (if width.modulus ≤ low + carry then high + 1 else high)
  else pure high

def signed (width : Width) (n : Nat) : Int :=
  if 2 * n < width.modulus then n else (n : Int) - width.modulus

/-- A number from `low` to `high`. A range of all words is one word. -/
def between (width : Width) (low high : Int) : Draw Int := do
  let size := (high - low + 1).toNat % width.modulus
  if size = 0 then return signed width (← wordOf width)
  else return low + (← offset width size)

/-- A number between two others, in either order. -/
def intBetween (a b : Int64) : Draw Int64 := do
  let low := min a.toInt b.toInt
  let high := max a.toInt b.toInt
  return Int64.ofInt (← between .bits64 low high)

/-- The width of the words that draw a place in a list of a size. Longer words are used only where
the size needs them. -/
def Width.ofSize (size : Nat) : Width :=
  if size < Width.modulus .bits32 then .bits32 else .bits64

def index (size : Nat) : Draw Nat := do
  return (← between (.ofSize size) 0 ((size : Int) - 1)).toNat

def boolean : Draw Bool := do
  return (← word64).toNat < 9223372036854775808

/-- A number from zero up to one, which is not reached. -/
def unit : Draw Binary64 := do
  return Binary64.roundRatio false ((← word64).toNat / twoTo 12) (twoTo 52)

/-- A number from `low` up to `high`; `low` itself where the range is empty, and none where its width
is not finite. -/
def floatBetween (low high : Binary64) : Draw (Option Binary64) := do
  if high.le low then return some low
  else match high.sub low with
    | .finite width => return some (((← unit).mul (.finite width)).add low)
    | _ => return none

/-- Draws until something is accepted. From a stream on which all is refused it does not end. -/
def retrying {α : Type} [Inhabited α] (draw : Draw (Option α)) (s : WordStream) : α × WordStream :=
  match draw s with
  | (some x, s) => (x, s)
  | (none, s) => draw |>.retrying s
partial_fixpoint

/-- Whether a word is accepted for a number below `size`. The words that are not are too few for
each number to have as many as the others. -/
def accepts (size : Nat) (w : UInt32) : Bool :=
  let modulus := Width.modulus .bits32
  modulus % size ≤ w.toNat * size % modulus

/-- A number below `size`, each with exactly the same chance. -/
def uniform (size : Nat) : Draw Nat :=
  retrying do
    let w ← word
    return if accepts size w then some (w.toNat * size / Width.modulus .bits32) else none

def times {α : Type} (draw : Draw α) : Nat → Draw (List α)
  | 0 => pure []
  | n + 1 => do
    let x ← draw
    let xs ← times draw n
    pure (x :: xs)

/-- One of some items, none where there are none. -/
def pick {α : Type} (items : List α) : Draw (Option α) := do
  if items.isEmpty then return none
  else return items[← index items.length]?

def fromCharset (charset : List Char) (length : Nat) : Draw (List Char) :=
  times (do return charset.getD (← index charset.length) ' ') length

def letters : List Char :=
  "ABCDEFGHIJKLMNOPQRSTUVWXYZabcdefghijklmnopqrstuvwxyz".toList

def lettersAndDigits : List Char :=
  letters ++ "0123456789".toList

def alpha (length : Nat) : Draw String := do
  return String.ofList (← fromCharset letters length)

/-- A letter or a digit, chosen by the six upper bits of the first word that fits. -/
def letterOrDigit : Draw Char :=
  retrying do return lettersAndDigits[((← word) >>> 26).toNat]?

def alphanumeric (length : Nat) : Draw String := do
  return String.ofList (← times letterOrDigit length)

end SchemaMocks.Draw
