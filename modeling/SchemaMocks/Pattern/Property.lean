import SchemaMocks.Pattern.CharSet
import SchemaMocks.Text.Blank

set_option autoImplicit false
set_option relaxedAutoImplicit false

/-!
Named sets of characters: the short classes for digits, blanks and words, the bracketed ASCII
classes, and Unicode properties by any spelling of their name. Which characters belong to words and
which ones have a property is for a table to say.
-/

namespace SchemaMocks.Pattern

/-- The characters of words, and the ones that have a property of a name: in lower case, without
separators and without an introductory `is`. -/
structure CharacterTable where
  words : CharSet
  boolean? : String → Option CharSet
  category? : String → Option CharSet
  script? : String → Option CharSet
  age? : String → Option CharSet

def asciiClasses : List (String × CharSet) := [
  ("alnum", CharSet.ofCodeRanges [(0x30, 0x39), (0x41, 0x5A), (0x61, 0x7A)]),
  ("alpha", CharSet.ofCodeRanges [(0x41, 0x5A), (0x61, 0x7A)]),
  ("ascii", CharSet.ofCodeRanges [(0x0, 0x7F)]),
  ("blank", CharSet.ofCodeRanges [(0x9, 0x9), (0x20, 0x20)]),
  ("cntrl", CharSet.ofCodeRanges [(0x0, 0x1F), (0x7F, 0x7F)]),
  ("digit", CharSet.ofCodeRanges [(0x30, 0x39)]),
  ("graph", CharSet.ofCodeRanges [(0x21, 0x7E)]),
  ("lower", CharSet.ofCodeRanges [(0x61, 0x7A)]),
  ("print", CharSet.ofCodeRanges [(0x20, 0x7E)]),
  ("punct", CharSet.ofCodeRanges [(0x21, 0x2F), (0x3A, 0x40), (0x5B, 0x60), (0x7B, 0x7E)]),
  ("space", CharSet.ofCodeRanges [(0x9, 0xD), (0x20, 0x20)]),
  ("upper", CharSet.ofCodeRanges [(0x41, 0x5A)]),
  ("word", CharSet.ofCodeRanges [(0x30, 0x39), (0x41, 0x5A), (0x5F, 0x5F), (0x61, 0x7A)]),
  ("xdigit", CharSet.ofCodeRanges [(0x30, 0x39), (0x41, 0x46), (0x61, 0x66)])]

def asciiClass? (name : String) : Option CharSet :=
  (asciiClasses.find? fun entry => entry.1 == name).map (·.2)

def digits (unicode : Bool) : CharSet :=
  CharSet.ofCodeRanges (if unicode then Text.digitRanges else [(0x30, 0x39)])

def blanks (unicode : Bool) : CharSet :=
  CharSet.ofCodeRanges (if unicode then
    [(0x9, 0xD), (0x20, 0x20), (0x85, 0x85), (0xA0, 0xA0), (0x1680, 0x1680), (0x2000, 0x200A),
      (0x2028, 0x2029), (0x202F, 0x202F), (0x205F, 0x205F), (0x3000, 0x3000)]
    else [(0x9, 0xD), (0x20, 0x20)])

def wordCharacters (table : CharacterTable) (unicode : Bool) : CharSet :=
  if unicode then table.words
  else CharSet.ofCodeRanges [(0x30, 0x39), (0x41, 0x5A), (0x5F, 0x5F), (0x61, 0x7A)]

/-- A name of a property in lower case, without separators and without an introductory `is`. -/
def plainName (name : List Char) : String :=
  let kept := (name.filter fun c => c.toNat < 0x80 && c != ' ' && c != '_' && c != '-').map Char.toLower
  match name, kept with
  | a :: b :: _, _ :: _ :: rest =>
    if a.toLower = 'i' ∧ b.toLower = 's' ∧ rest ≠ ['c'] then String.ofList rest
    else String.ofList kept
  | _, _ => String.ofList kept

namespace CharacterTable

variable (table : CharacterTable)

def generalCategory? (name : String) : Option CharSet :=
  if name == "any" then some (CharSet.ofSpans [(0, CharSet.charCount)])
  else if name == "ascii" then asciiClass? "ascii"
  else table.category? name

/-- The property that a bare name denotes. Three names of categories and properties coincide, and
there the category is meant. -/
def property? (name : List Char) : Option CharSet :=
  let name := plainName name
  let boolean := if ["cf", "sc", "lc"].contains name then none else table.boolean? name
  (boolean.orElse fun _ => table.generalCategory? name).orElse fun _ => table.script? name

def propertyValue? (property value : List Char) : Option CharSet :=
  let property := plainName property
  let name := plainName value
  if ["generalcategory", "gc"].contains property then table.generalCategory? name
  else if ["script", "sc", "scriptextensions", "scx"].contains property then table.script? name
  else if property == "age" then table.age? name
  else none

end CharacterTable

end SchemaMocks.Pattern
