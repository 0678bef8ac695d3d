import SchemaMocks.Pattern.Basic
import SchemaMocks.Pattern.Property
import SchemaMocks.Text.Numeral

set_option autoImplicit false
set_option relaxedAutoImplicit false

/-!
Reading patterns. A pattern has branches, branches have items, and an item is a character, a class,
a condition on the surroundings, or a group, perhaps repeated. Flags hold from where they are set to
the end of the group. What asks about surroundings beyond simple conditions is refused, and so are
patterns that are nested too deeply.
-/

namespace SchemaMocks.Pattern

structure Flags where
  caseless : Bool
  dotAll : Bool
  lazyFirst : Bool
  unicode : Bool
  crlf : Bool
  spaced : Bool

namespace Flags

def standard : Flags :=
  ⟨false, false, false, true, false, false⟩

def assign (flags : Flags) (letter : Char) (value : Bool) : Option Flags :=
  match letter with
  | 'i' => some { flags with caseless := value }
  | 'm' => some flags
  | 's' => some { flags with dotAll := value }
  | 'U' => some { flags with lazyFirst := value }
  | 'u' => some { flags with unicode := value }
  | 'R' => some { flags with crlf := value }
  | 'x' => some { flags with spaced := value }
  | _ => none

def rule (flags : Flags) : CaseRule :=
  if flags.caseless then if flags.unicode then .unicode else .ascii else .exact

def mode (flags : Flags) : ClassMode :=
  ⟨flags.rule, if flags.unicode then CharSet.charCount else 0x100⟩

end Flags

/-- Where a reader stands: what remains, the flags, and the groups so far; and the table in which it
looks up properties. -/
structure ReaderState where
  table : CharacterTable
  rest : List Char
  flags : Flags
  groupCount : Nat
  groupNames : List String

abbrev Reader (α : Type) := StateT ReaderState Option α

namespace Reader

/-- Drops blanks and comments. -/
def dropBlanks : (inComment : Bool) → List Char → List Char
  | _, [] => []
  | true, c :: rest => dropBlanks (c != '\n') rest
  | false, c :: rest =>
    if Text.isBlank c then dropBlanks false rest
    else if c = '#' then dropBlanks true rest
    else c :: rest

def rest : Reader (List Char) := do
  return (← get).rest

def proceed (rest : List Char) : Reader Unit :=
  modify fun s => { s with rest }

def peek : Reader (Option Char) := do
  return (← rest).head?

/-- Skips blanks and comments where they have no meaning. -/
def skipBlanks : Reader Unit :=
  modify fun s => if s.flags.spaced then { s with rest := dropBlanks false s.rest } else s

def skip : Reader Unit := do
  proceed (← rest).tail

def skipOn : Reader Unit := do
  skip
  skipBlanks

def expect (c : Char) : Reader Unit := do
  if (← peek) = some c then skip else failure

def takes (front : List Char) : Reader Bool := do
  let cs ← rest
  if front.isPrefixOf cs then
    proceed (cs.drop front.length)
    return true
  else return false

def collectFor (accept : Char → Bool) : Nat → Reader (List Char)
  | 0 => return []
  | fuel + 1 => do
    match ← peek with
    | none => return []
    | some c =>
      if accept c then
        skipOn
        return c :: (← collectFor accept fuel)
      else return []

def collect (accept : Char → Bool) : Reader (List Char) := do
  collectFor accept (← rest).length

def hexValue? (c : Char) : Option Nat :=
  "0123456789abcdef".toList.findIdx? (· == c.toLower)

def charOfHex? (digits : List Char) : Option Char := do
  let values ← digits.mapM hexValue?
  let n := values.foldl (fun acc d => 16 * acc + d) 0
  if digits.isEmpty ∨ ¬n.isValidChar then none else some (Char.ofNat n)

/-- A number of decimal digits, with blanks around it. -/
def decimal : Reader Nat := do
  proceed ((← rest).dropWhile Text.isBlank)
  let digits ← collect Char.isDigit
  proceed ((← rest).dropWhile Text.isBlank)
  match Text.digits? digits with
  | some n => if n < 4294967296 then return n else failure
  | none => failure

/-- What an escape may stand for. -/
inductive Atom where
  | char (c : Char)
  | set (chars : CharSet)
  | look

/-- A character given by its code point, after the marker of the width. -/
def hexAtom (width : Nat) : Reader Atom := do
  skipOn
  if (← peek) = some '\x7b' then
    skipOn
    let digits ← collect fun c => (hexValue? c).isSome
    expect '\x7d'
    skipBlanks
    match charOfHex? digits with
    | some c => return .char c
    | none => failure
  else
    let digits ← (List.range width).mapM fun _ => do
      match ← peek with
      | some c =>
        skipOn
        return c
      | none => failure
    match charOfHex? digits with
    | some c =>
      if width = 2 ∧ 0x80 ≤ c.toNat ∧ ¬(← get).flags.unicode then failure else return .char c
    | none => failure

/-- What stands before the first occurrence of a separator, and what stands after it. -/
def cutAt (sep : List Char) : List Char → Option (List Char × List Char)
  | [] => none
  | c :: rest =>
    if sep.isPrefixOf (c :: rest) then some ([], (c :: rest).drop sep.length)
    else (cutAt sep rest).map fun (front, back) => (c :: front, back)

/-- The characters of a property as it is written, and whether the others are meant. -/
def propertyOf (table : CharacterTable) (text : List Char) : Option (CharSet × Bool) :=
  match cutAt ['!', '='] text with
  | some (property, value) => (table.propertyValue? property value).map fun set => (set, true)
  | none =>
    match (cutAt [':'] text).orElse fun _ => cutAt ['='] text with
    | some (property, value) => (table.propertyValue? property value).map fun set => (set, false)
    | none => (table.property? text).map fun set => (set, false)

def propertyAtom (negated : Bool) : Reader Atom := do
  skipOn
  let text ← match ← peek with
    | none => failure
    | some '\x7b' => do
      skipOn
      let text ← collect (· != '\x7d')
      expect '\x7d'
      pure text
    | some c => do
      if c = '\\' then failure
      skipOn
      pure [c]
  let flags := (← get).flags
  match propertyOf (← get).table text with
  | some (set, opposite) =>
    if flags.unicode then return .set (flags.mode.finish (negated != opposite) set) else failure
  | none => failure

/-- The short class of a letter, which is negated in upper case. -/
def shortClass (table : CharacterTable) (flags : Flags) (letter : Char) : Option CharSet :=
  let set := match letter.toLower with
    | 'd' => digits flags.unicode
    | 's' => blanks flags.unicode
    | _ => wordCharacters table flags.unicode
  let set := if letter.isUpper then set.complement flags.mode.charCount else set
  if flags.unicode || set.isAscii then some set else none

def boundaryNames : List String := ["start", "end", "start-half", "end-half"]

/-- The name of a word boundary in braces; braces with anything but letters in front are left to be
read as a repetition. -/
def boundaryName : Reader Unit := do
  let before ← get
  if (← peek) = some '\x7b' then
    let isNameChar := fun c : Char => c.isAlpha || c == '-'
    skipOn
    match ← peek with
    | none => failure
    | some c =>
      if isNameChar c then
        let name ← collect isNameChar
        expect '\x7d'
        if boundaryNames.contains (String.ofList name) then return () else failure
      else set before

def controlEscapes : List (Char × Char) := [
  ('a', '\x07'), ('f', '\x0C'), ('t', '\t'), ('n', '\n'), ('r', '\r'), ('v', '\x0B')]

def escape : Reader Atom := do
  skip
  match ← peek with
  | none => failure
  | some c =>
    if c = 'x' then hexAtom 2
    else if c = 'u' then hexAtom 4
    else if c = 'U' then hexAtom 8
    else if c = 'p' ∨ c = 'P' then propertyAtom (c == 'P')
    else
      skip
      if "dswDSW".toList.contains c then
        match shortClass (← get).table (← get).flags c with
        | some set => return .set set
        | none => failure
      else if c = 'A' ∨ c = 'z' ∨ c = 'B' ∨ c = '<' ∨ c = '>' then return .look
      else if c = 'b' then
        boundaryName
        return .look
      else
        match controlEscapes.lookup c with
        | some control => return .char control
        | none => if c.toNat < 0x80 ∧ ¬c.isAlphanum then return .char c else failure

/-- A single item of a class, before it is known whether a range starts with it. -/
def classAtom : Reader Atom := do
  match ← peek with
  | none => failure
  | some '\\' => escape
  | some c => do
    skip
    return .char c

/-- A character as the item of a class; outside of Unicode only ASCII has a place there. -/
def classChar : Atom → Reader Char
  | .char c => do
    if (← get).flags.unicode ∨ c.toNat < 0x80 then return c else failure
  | _ => failure

def classRange : Reader ClassExpr := do
  let first ← classAtom
  skipBlanks
  let flags := (← get).flags
  let single : Reader ClassExpr :=
    match first with
    | .set set => return .chars set
    | atom => do return .chars (CharSet.singleton (← classChar atom))
  match ← rest with
  | [] => failure
  | '-' :: after =>
    let next := (if flags.spaced then dropBlanks false after else after).head?
    if next = some ']' ∨ next = some '-' then single
    else
      skipOn
      let low ← classChar first
      let high ← classChar (← classAtom)
      if low ≤ high then return .chars (CharSet.range low high) else failure
  | _ => single

def asciiClassFront? (flags : Flags) : List Char → Option (CharSet × List Char)
  | '[' :: ':' :: after =>
    let (negated, after) := match after with
      | '^' :: after => (true, after)
      | _ => (false, after)
    let name := after.takeWhile (· != ':')
    match after.drop name.length with
    | ':' :: ']' :: after =>
      (asciiClass? (String.ofList name)).map fun set => (flags.mode.finish negated set, after)
    | _ => none
  | _ => none

/-- The dashes in front of a class, which stand for themselves. -/
def leadingDashes : Nat → List ClassExpr → Reader (List ClassExpr)
  | 0, items => return items
  | fuel + 1, items => do
    if (← peek) = some '-' then
      skipOn
      leadingDashes fuel (.chars (CharSet.singleton '-') :: items)
    else return items

/-- The opening of a class: whether it is negated, and the dashes or the bracket in front. -/
def classOpening : Reader (Bool × List ClassExpr) := do
  skipOn
  let negated := (← peek) == some '^'
  if negated then skipOn
  let items ← leadingDashes (← rest).length []
  if items.isEmpty ∧ (← peek) = some ']' then
    skipOn
    return (negated, [.chars (CharSet.singleton ']')])
  else return (negated, items)

/-- Items side by side; a single one stands for itself. -/
def classUnion : List ClassExpr → ClassExpr
  | [] => .chars CharSet.empty
  | [item] => item
  | items => .union items

def classOperation? : List Char → Option ClassOperation
  | '&' :: '&' :: _ => some .intersection
  | '-' :: '-' :: _ => some .difference
  | '~' :: '~' :: _ => some .symmetricDifference
  | _ => none

/-- The rest of a class up to its closing bracket, given its items so far, the last one first, and
what stands to the left of them. -/
def classBody : Nat → (ClassExpr → ClassExpr) → List ClassExpr → Reader ClassExpr
  | 0, _, _ => failure
  | fuel + 1, left, items => do
    skipBlanks
    let cs ← rest
    match cs, asciiClassFront? (← get).flags cs, classOperation? cs with
    | [], _, _ => failure
    | _, some (set, after), _ => do
      proceed after
      classBody fuel left (.chars set :: items)
    | _, _, some operation => do
      skip
      skip
      let whole := left (classUnion items.reverse)
      classBody fuel (.combined operation whole) []
    | '[' :: _, _, _ => do
      let (negated, opening) ← classOpening
      let body ← classBody fuel id opening
      classBody fuel left (.bracket negated body :: items)
    | ']' :: _, _, _ => do
      skip
      return left (classUnion items.reverse)
    | _, _, _ => do
      let item ← classRange
      classBody fuel left (item :: items)

def bracket : Reader Pattern := do
  let (negated, opening) ← classOpening
  let body ← classBody ((← rest).length + 1) id opening
  let mode := (← get).flags.mode
  if (← get).flags.unicode ∨ ((ClassExpr.bracket negated body).toSet mode).isAscii then
    return .bracket mode negated body
  else failure

def single : Reader Pattern := do
  let flags := (← get).flags
  match ← peek with
  | none => failure
  | some '\\' => do
    match ← escape with
    | .char c => return .char flags.rule c
    | .set set => return .oneOf set
    | .look => return .look
  | some '.' => do
    skip
    let left := if flags.dotAll then [] else if flags.crlf then ['\n', '\r'] else ['\n']
    if flags.unicode then return .oneOf ((CharSet.ofChars left).complement CharSet.charCount)
    else failure
  | some c => do
    skip
    return if c = '^' ∨ c = '$' then .look else .char flags.rule c

/-- Repeats the last item. Nothing and flags cannot be repeated. -/
def repeatLast (items : List Pattern) (min : Nat) (max : Option Nat) : Reader (List Pattern) := do
  let sparing := (← peek) == some '?'
  if sparing then skip
  match items with
  | [] | .empty :: _ => failure
  | item :: rest => return .repeated item min max (sparing == (← get).flags.lazyFirst) :: rest

def counts : Reader (Nat × Option Nat) := do
  skipOn
  let min ← decimal
  let max ← do
    if (← peek) = some ',' then
      skipOn
      if (← peek) = some '\x7d' then pure none else some <$> decimal
    else pure (some min)
  if (← peek) ≠ some '\x7d' then failure
  skipOn
  if max.all (min ≤ ·) then return (min, max) else failure

def groupName : Reader String := do
  let cs ← rest
  let name := cs.takeWhile (· != '>')
  let isFirst := fun c : Char => c == '_' || c.isAlpha || 0x80 ≤ c.toNat
  let isLater := fun c : Char => isFirst c || c.isDigit || c == '.' || c == '[' || c == ']'
  match name with
  | [] => failure
  | c :: more =>
    if isFirst c ∧ more.all isLater then
      proceed (cs.drop name.length)
      expect '>'
      return String.ofList name
    else failure

/-- Flag letters up to a colon or a closing bracket: the flags, the letters and the end. -/
def flagLetters : Nat → Flags → (negated : Bool) → List Char → Reader (Flags × List Char × Char)
  | 0, _, _, _ => failure
  | fuel + 1, flags, negated, seen => do
    match ← peek with
    | none => failure
    | some c =>
      skip
      if c = ':' ∨ c = ')' then
        if seen.head? = some '-' then failure else return (flags, seen, c)
      else if seen.contains c then failure
      else if c = '-' then flagLetters fuel flags true (c :: seen)
      else
        match flags.assign c (!negated) with
        | some flags => flagLetters fuel flags negated (c :: seen)
        | none => failure

/-- What an opening bracket starts: a change of flags, or a group with its number and flags. -/
inductive Opening where
  | flags (flags : Flags)
  | group (index : Option Nat) (flags : Flags)

/-- Counts a group that remembers what it matches. -/
def numbered : Reader Opening := do
  let s ← get
  set { s with groupCount := s.groupCount + 1 }
  return .group (some (s.groupCount + 1)) s.flags

def groupOpening : Reader Opening := do
  skipBlanks
  let cs ← rest
  if [['?', '='], ['?', '!'], ['?', '<', '='], ['?', '<', '!']].any (·.isPrefixOf cs) then failure
  if (← takes ['?', 'P', '<']) || (← takes ['?', '<']) then
    let name ← groupName
    let s ← get
    if s.groupNames.contains name then failure
    set { s with groupNames := name :: s.groupNames }
    numbered
  else if ← takes ['?'] then
    let (flags, seen, last) ← flagLetters ((← rest).length + 1) (← get).flags false []
    if last = ')' then
      if seen.isEmpty then failure else return .flags flags
    else return .group none flags
  else numbered

/-- The branches as one pattern; a single branch stands for itself. -/
def wholeOf (items : List Pattern) (branches : List Pattern) : Pattern :=
  match branches with
  | [] => inSequence items.reverse
  | _ => .choice ((inSequence items.reverse :: branches).reverse)

/-- The branches of a group up to its end, given the items of the current branch and the branches
before it, the last ones first. -/
def branches : Nat → List Pattern → List Pattern → Reader Pattern
  | 0, _, _ => failure
  | fuel + 1, items, earlier => do
    skipBlanks
    match ← peek with
    | none => return wholeOf items earlier
    | some ')' => return wholeOf items earlier
    | some '|' => do
      skip
      branches fuel [] (inSequence items.reverse :: earlier)
    | some '(' => do
      skip
      let outer := (← get).flags
      match ← groupOpening with
      | .flags flags =>
        modify fun s => { s with flags }
        branches fuel (.empty :: items) earlier
      | .group index flags =>
        modify fun s => { s with flags }
        let body ← branches fuel [] []
        expect ')'
        modify fun s => { s with flags := outer }
        branches fuel (.group index body :: items) earlier
    | some '[' => do
      let item ← bracket
      branches fuel (item :: items) earlier
    | some '?' => do
      skip
      branches fuel (← repeatLast items 0 (some 1)) earlier
    | some '*' => do
      skip
      branches fuel (← repeatLast items 0 none) earlier
    | some '+' => do
      skip
      branches fuel (← repeatLast items 1 none) earlier
    | some '\x7b' => do
      let (min, max) ← counts
      branches fuel (← repeatLast items min max) earlier
    | some _ => do
      let item ← single
      branches fuel (item :: items) earlier

end Reader

def nestingLimit : Nat := 250

def ofText? (table : CharacterTable) (s : String) : Option Pattern := do
  let start : ReaderState := ⟨table, s.toList, Flags.standard, 0, []⟩
  let (pattern, state) ← (Reader.branches (s.length + 1) [] []).run start
  if state.rest.isEmpty ∧ pattern.depth ≤ nestingLimit then some pattern else none

end SchemaMocks.Pattern
