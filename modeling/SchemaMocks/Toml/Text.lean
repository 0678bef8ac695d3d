import SchemaMocks.Json.Reader

set_option autoImplicit false
set_option relaxedAutoImplicit false

/-!
Blanks, comments and quoted texts of a settings file. A text in double quotes may hold escapes, one
in single quotes is taken as it stands. Three quotes open a text of several lines, whose line ends
are single line feeds; a line feed right after the opening does not count.
-/

namespace SchemaMocks.Toml

def skipBlanks (cs : List Char) : List Char :=
  cs.dropWhile fun c => c = ' ' || c = '\t'

def afterLineEnd? : List Char → Option (List Char)
  | '\n' :: rest => some rest
  | '\r' :: '\n' :: rest => some rest
  | _ => none

/-- Whether a character may stand in a comment or, quotes and backslashes apart, in a text. -/
def isPlain (c : Char) : Bool :=
  c = '\t' || (0x20 ≤ c.toNat && c.toNat != 0x7F)

def skipComment : List Char → List Char
  | '#' :: rest => rest.dropWhile isPlain
  | cs => cs

/-- What follows the end of a line, before which blanks and a comment may stand. The end of the text
ends a line too. -/
def afterLine? (cs : List Char) : Option (List Char) :=
  match skipComment (skipBlanks cs) with
  | [] => some []
  | rest => afterLineEnd? rest

def skipWhite : List Char → List Char
  | ' ' :: rest | '\t' :: rest | '\n' :: rest | '\r' :: '\n' :: rest => skipWhite rest
  | cs => cs

def numbered? (width : Nat) (cs : List Char) : Option (Char × List Char) := do
  let digits ← (cs.take width).mapM Json.hexValue?
  let n := digits.foldl (fun n d => 16 * n + d) 0
  if digits.length = width ∧ n.isValidChar then some (Char.ofNat n, cs.drop width) else none

def escape? : List Char → Option (Char × List Char)
  | 'b' :: rest => some ('\x08', rest)
  | 't' :: rest => some ('\t', rest)
  | 'n' :: rest => some ('\n', rest)
  | 'f' :: rest => some ('\x0c', rest)
  | 'r' :: rest => some ('\r', rest)
  | '\"' :: rest => some ('\"', rest)
  | '\\' :: rest => some ('\\', rest)
  | 'u' :: rest => numbered? 4 rest
  | 'U' :: rest => numbered? 8 rest
  | _ => none

/-- A text in double quotes up to its closing quote. -/
def readBasic : (fuel : Nat) → List Char → Option (List Char × List Char)
  | 0, _ => none
  | _ + 1, [] => none
  | fuel + 1, c :: rest =>
    if c = '\"' then some ([], rest)
    else if c = '\\' then do
      let (c, rest) ← escape? rest
      let (text, rest) ← readBasic fuel rest
      some (c :: text, rest)
    else if isPlain c then (readBasic fuel rest).map fun (text, rest) => (c :: text, rest)
    else none

def readLiteral (cs : List Char) : Option (List Char × List Char) :=
  let (text, rest) := cs.span fun c => isPlain c && c != '\''
  match rest with
  | '\'' :: rest => some (text, rest)
  | _ => none

/-- The end of a text of several lines at a run of quotes: up to two more quotes than the closing
ones belong to the text. None where the run closes nothing. -/
def closing? (quote : Char) (cs : List Char) : Option (List Char × List Char) :=
  let run := (cs.takeWhile (· = quote)).length
  if run < 3 then none
  else
    let kept := min (run - 3) 2
    some (List.replicate kept quote, cs.drop (kept + 3))

/-- The rest of a line and further lines of a text of several lines, up to its closing quotes. With
escapes, a backslash at the end of a line takes away the line end and the white space after it. -/
def readLines (quote : Char) (escapes : Bool) : (fuel : Nat) → List Char →
    Option (List Char × List Char)
  | 0, _ => none
  | _ + 1, [] => none
  | fuel + 1, c :: rest =>
    if c = quote then
      match closing? quote (c :: rest) with
      | some found => some found
      | none => (readLines quote escapes fuel rest).map fun (text, rest) => (c :: text, rest)
    else if c = '\\' && escapes then
      match afterLineEnd? (skipBlanks rest) with
      | some rest => readLines quote escapes fuel (skipWhite rest)
      | none => do
        let (c, rest) ← escape? rest
        let (text, rest) ← readLines quote escapes fuel rest
        some (c :: text, rest)
    else if isPlain c then
      (readLines quote escapes fuel rest).map fun (text, rest) => (c :: text, rest)
    else do
      let rest ← afterLineEnd? (c :: rest)
      let (text, rest) ← readLines quote escapes fuel rest
      some ('\n' :: text, rest)

def skipLineEnd (cs : List Char) : List Char :=
  (afterLineEnd? cs).getD cs

def readQuoted? : List Char → Option (String × List Char)
  | '\"' :: rest => (readBasic (rest.length + 1) rest).map fun (s, rest) => (String.ofList s, rest)
  | '\'' :: rest => (readLiteral rest).map fun (s, rest) => (String.ofList s, rest)
  | _ => none

/-- A quoted text, on one line or on several. -/
def readText? (cs : List Char) : Option (String × List Char) :=
  let lines (quote : Char) (escapes : Bool) (rest : List Char) :=
    (readLines quote escapes (rest.length + 1) (skipLineEnd rest)).map fun (s, rest) =>
      (String.ofList s, rest)
  match cs with
  | '\"' :: '\"' :: '\"' :: rest => lines '\"' true rest
  | '\'' :: '\'' :: '\'' :: rest => lines '\'' false rest
  | _ => readQuoted? cs

end SchemaMocks.Toml
