import SchemaMocks.Binary64.Shortest

set_option autoImplicit false
set_option relaxedAutoImplicit false

/-!
Literals of the generated code: texts in single quotes, numbers without needless points, and the
expression for one to three values.
-/

namespace SchemaMocks.TypeScript

def escapeChar (c : Char) : List Char :=
  if c = '\\' then ['\\', '\\']
  else if c = '\x27' then ['\\', '\x27']
  else if c = '\n' then ['\\', 'n']
  else if c = '\r' then ['\\', 'r']
  else if c = '\t' then ['\\', 't']
  else [c]

def quoteChars (cs : List Char) : List Char :=
  '\x27' :: (cs.flatMap escapeChar ++ ['\x27'])

def quote (s : String) : String :=
  String.ofList (quoteChars s.toList)

def isPlainWhole (x : Finite64) : Bool :=
  x.isWhole && x.magnitude < tenTo 15 * Finite64.unitsPerOne

/-- A number literal: an integer where the number is a whole one of moderate size. -/
def numberLiteral : Binary64 → String
  | .finite x => if isPlainWhole x then toString x.trunc else x.format .plain
  | other => other.format .plain

def repeatText (expression : String) : String :=
  "Array.from(\x7b length: faker.number.int(\x7b min: 1, max: 3 \x7d) \x7d, () => " ++ expression
    ++ ")"

def quotedList (items : List String) : String :=
  "[" ++ ", ".intercalate (items.map quote) ++ "]"

end SchemaMocks.TypeScript
