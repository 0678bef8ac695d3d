import SchemaMocks.Json.Basic
import SchemaMocks.Text.Numeral

set_option autoImplicit false
set_option relaxedAutoImplicit false

/-!
JSON text. Compact text has no white space. Indented text puts every item and every member on a
line of its own, two spaces deeper than its container. Strings escape the quote, the backslash and
the characters below the space, and nothing else.
-/

namespace SchemaMocks.Json

def escapeChar (c : Char) : List Char :=
  if c = '\"' then ['\\', '\"']
  else if c = '\\' then ['\\', '\\']
  else if c = '\n' then ['\\', 'n']
  else if c = '\r' then ['\\', 'r']
  else if c = '\t' then ['\\', 't']
  else if c = '\x08' then ['\\', 'b']
  else if c = '\x0c' then ['\\', 'f']
  else if c.toNat < 0x20 then '\\' :: 'u' :: '0' :: '0' :: Text.hexByte (UInt8.ofNat c.toNat)
  else [c]

def quote (s : List Char) : List Char :=
  '\"' :: (s.flatMap escapeChar ++ ['\"'])

mutual

def print : Json → List Char
  | null => ['n', 'u', 'l', 'l']
  | bool true => ['t', 'r', 'u', 'e']
  | bool false => ['f', 'a', 'l', 's', 'e']
  | number n => n.text.toList
  | string s => quote s.toList
  | array [] => ['[', ']']
  | array (item :: rest) => '[' :: (print item ++ printItems rest)
  | object [] => ['\x7b', '\x7d']
  | object ((key, value) :: rest) =>
    '\x7b' :: (quote key.toList ++ ':' :: (print value ++ printMembers rest))

def printItems : List Json → List Char
  | [] => [']']
  | item :: rest => ',' :: (print item ++ printItems rest)

/-- The further members of an object and its closing brace. -/
def printMembers : List (String × Json) → List Char
  | [] => ['\x7d']
  | (key, value) :: rest =>
    ',' :: (quote key.toList ++ ':' :: (print value ++ printMembers rest))

end

def compact (j : Json) : String :=
  String.ofList (print j)

def lineBreak (level : Nat) : List Char :=
  '\n' :: List.replicate (2 * level) ' '

mutual

/-- Indented text of a value that stands at a level. -/
def printIndented (level : Nat) : Json → List Char
  | array [] => ['[', ']']
  | array (item :: rest) =>
    '[' :: (lineBreak (level + 1) ++ (printIndented (level + 1) item ++ indentedItems level rest))
  | object [] => ['\x7b', '\x7d']
  | object ((key, value) :: rest) =>
    '\x7b' :: (lineBreak (level + 1) ++ (quote key.toList ++ ':' :: ' ' ::
      (printIndented (level + 1) value ++ indentedMembers level rest)))
  | null => print null
  | bool b => print (bool b)
  | number n => print (number n)
  | string s => print (string s)

def indentedItems (level : Nat) : List Json → List Char
  | [] => lineBreak level ++ [']']
  | item :: rest =>
    ',' :: (lineBreak (level + 1) ++ (printIndented (level + 1) item ++ indentedItems level rest))

def indentedMembers (level : Nat) : List (String × Json) → List Char
  | [] => lineBreak level ++ ['\x7d']
  | (key, value) :: rest =>
    ',' :: (lineBreak (level + 1) ++ (quote key.toList ++ ':' :: ' ' ::
      (printIndented (level + 1) value ++ indentedMembers level rest)))

end

def indented (j : Json) : String :=
  String.ofList (printIndented 0 j)

end SchemaMocks.Json
