set_option autoImplicit false
set_option relaxedAutoImplicit false

/-!
Searching in a text: prefixes, suffixes, contained pieces, the documentation lines of a comment and
pieces between separators.
-/

namespace SchemaMocks.Text

/-- Whether `needle` stands somewhere in a text. -/
def occursIn (needle : List Char) : List Char → Bool
  | [] => needle.isPrefixOf []
  | c :: rest => needle.isPrefixOf (c :: rest) || occursIn needle rest

def after? (front : List Char) (cs : List Char) : Option (List Char) :=
  if front.isPrefixOf cs then some (cs.drop front.length) else none

def startsWith (s front : String) : Bool :=
  front.toList.isPrefixOf s.toList

def endsWith (s back : String) : Bool :=
  back.toList.isSuffixOf s.toList

def contains (s needle : String) : Bool :=
  occursIn needle.toList s.toList

/-- The pieces of a text between the places where `sep` stands. -/
def pieces (sep : Char) : List Char → List (List Char)
  | [] => [[]]
  | c :: rest =>
    if c = sep then [] :: pieces sep rest
    else
      match pieces sep rest with
      | [] => [[c]]
      | piece :: more => (c :: piece) :: more

def cut? (sep : Char) : List Char → Option (List Char × List Char)
  | [] => none
  | c :: rest =>
    if c = sep then some ([], rest)
    else (cut? sep rest).map fun (front, back) => (c :: front, back)

def joined (sep : String) (parts : List String) : String :=
  sep.intercalate parts

theorem pieces_ne_nil (sep : Char) (cs : List Char) : pieces sep cs ≠ [] := by
  cases cs with
  | nil => simp [pieces]
  | cons c rest =>
    simp only [pieces]
    split
    · simp
    · split <;> simp

end SchemaMocks.Text
