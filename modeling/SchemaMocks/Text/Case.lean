import SchemaMocks.Text.CaseTable

set_option autoImplicit false
set_option relaxedAutoImplicit false

/-!
Lower case and case folding. Lower-casing a text maps each character on its own, with two
exceptions: the dotted capital I becomes two characters, and a capital sigma at the end of a word
becomes a final sigma. Simple case folding maps one character to one character.
-/

namespace SchemaMocks.Text

/-- The mapping of a code point by the first run that covers it. -/
def mapByRuns (runs : List CaseRun) (c : Char) : Char :=
  match runs.find? (·.covers c.toNat) with
  | some run => Char.ofNat (Int.toNat (c.toNat + run.shift))
  | none => c

/-- The lower-case form of one character, without regard to its neighbours. -/
def lowerChar (c : Char) : List Char :=
  if c.toNat < 0x80 then [c.toLower]
  else if c = 'İ' then ['i', '\u0307']
  else [mapByRuns lowerRuns c]

/-- Whether the first character that is not skipped is a cased one. -/
def facesCased (cs : List Char) : Bool :=
  match cs.dropWhile fun c => inRanges caseIgnorableRanges c.toNat with
  | c :: _ => inRanges casedRanges c.toNat
  | [] => false

/-- Lower-casing, given the characters already passed, nearest first. -/
def lowerAfter (passed : List Char) : List Char → List Char
  | [] => []
  | c :: rest =>
    let image :=
      if c = 'Σ' then
        if facesCased passed && !facesCased rest then ['ς'] else ['σ']
      else lowerChar c
    image ++ lowerAfter (c :: passed) rest

def lowered (s : String) : String :=
  String.ofList (lowerAfter [] s.toList)

def fold (c : Char) : Char :=
  if c.toNat < 0x80 then c.toLower else mapByRuns foldRuns c

def foldSiblings (c : Char) : List Char :=
  let target := fold c
  let sources := foldRuns.filterMap fun run =>
    let n := Int.toNat (target.toNat - run.shift)
    if run.covers n then some (Char.ofNat n) else none
  target :: sources

/-- ASCII letters in lower case, all else as it is. -/
def asciiLowered (s : String) : String :=
  String.ofList (s.toList.map Char.toLower)

def asciiUppered (s : String) : String :=
  String.ofList (s.toList.map Char.toUpper)

end SchemaMocks.Text
