import SchemaMocks.Toml.Draft
import SchemaMocks.Toml.Scalar
import SchemaMocks.Toml.Text

set_option autoImplicit false
set_option relaxedAutoImplicit false

/-!
Reading the text of a settings file. A line is blank, holds a header or pairs a key with a value;
values in brackets may go on over several lines. Values nest at most 79 deep, and a key has fewer
than 80 parts.
-/

namespace SchemaMocks.Toml

def nestingLimit : Nat := 79

/-- One part of a key: bare or quoted. -/
def keyPart? (cs : List Char) : Option (String × List Char) :=
  match readQuoted? cs with
  | some found => some found
  | none =>
    let (part, rest) := cs.span fun c => c.isAlphanum || c = '-' || c = '_'
    if part.isEmpty then none else some (String.ofList part, rest)

/-- The parts of a key, with points between them and blanks around them. -/
def keyParts? : (fuel : Nat) → List Char → Option (List String × List Char)
  | 0, _ => none
  | fuel + 1, cs => do
    let (part, rest) ← keyPart? (skipBlanks cs)
    match skipBlanks rest with
    | '.' :: rest =>
      let (parts, rest) ← keyParts? fuel rest
      some (part :: parts, rest)
    | rest => some ([part], rest)

def readKey? (cs : List Char) : Option (KeyPath × List Char) := do
  let (parts, rest) ← keyParts? nestingLimit cs
  let last ← parts.getLast?
  some (⟨parts.dropLast, last⟩, rest)

/-- Drops blanks, comments and line ends in front. -/
def skipLines : (fuel : Nat) → List Char → List Char
  | 0, cs => cs
  | fuel + 1, cs =>
    match afterLineEnd? (skipComment (skipBlanks cs)) with
    | some rest => skipLines fuel rest
    | none => skipBlanks cs

mutual

/-- A value in front of a text, in at most `depth` further levels of nesting. -/
def readValue : (fuel depth : Nat) → List Char → Option (Value × List Char)
  | 0, _, _ => none
  | fuel + 1, depth, cs =>
    match cs with
    | [] => none
    | c :: rest =>
      if c = '[' then
        match depth with
        | 0 => none
        | depth + 1 => (readItems fuel depth rest).map fun (items, rest) => (.array items, rest)
      else if c = '\x7b' then
        match depth with
        | 0 => none
        | depth + 1 => do
          let (pairs, rest) ← match skipBlanks rest with
            | '\x7d' :: rest => some ([], rest)
            | _ => readPairs fuel depth rest
          let draft ← Draft.fill? [] pairs
          let value ← settledTable? draft
          some (value, rest)
      else if c = '\"' || c = '\'' then
        (readText? cs).map fun (text, rest) => (.string text, rest)
      else
        let (word, rest) := word cs
        (scalar? word).map fun value => (value, rest)

/-- The items of an array up to its closing bracket; a comma may follow the last one. -/
def readItems : (fuel depth : Nat) → List Char → Option (List Value × List Char)
  | 0, _, _ => none
  | fuel + 1, depth, cs =>
    match skipLines cs.length cs with
    | ']' :: rest => some ([], rest)
    | cs => do
      let (item, rest) ← readValue fuel depth cs
      match skipLines rest.length rest with
      | ']' :: rest => some ([item], rest)
      | ',' :: rest =>
        let (items, rest) ← readItems fuel depth rest
        some (item :: items, rest)
      | _ => none

def readPairs : (fuel depth : Nat) → List Char → Option (List (KeyPath × Value) × List Char)
  | 0, _, _ => none
  | fuel + 1, depth, cs => do
    let (key, rest) ← readKey? cs
    match rest with
    | '=' :: rest =>
      let (value, rest) ← readValue fuel depth (skipBlanks rest)
      match skipBlanks rest with
      | '\x7d' :: rest => some ([(key, value)], rest)
      | ',' :: rest =>
        let (pairs, rest) ← readPairs fuel depth rest
        some ((key, value) :: pairs, rest)
      | _ => none
    | _ => none

end

inductive Statement where
  | table (path : KeyPath)
  | row (path : KeyPath)
  | pair (path : KeyPath) (value : Value)

def readStatement? : List Char → Option (Statement × List Char)
  | '[' :: '[' :: rest => do
    let (path, rest) ← readKey? rest
    match rest with
    | ']' :: ']' :: rest => some (.row path, rest)
    | _ => none
  | '[' :: rest => do
    let (path, rest) ← readKey? rest
    match rest with
    | ']' :: rest => some (.table path, rest)
    | _ => none
  | cs => do
    let (path, rest) ← readKey? cs
    match rest with
    | '=' :: rest =>
      let (value, rest) ← readValue (2 * rest.length + 2) nestingLimit (skipBlanks rest)
      some (.pair path value, rest)
    | _ => none

def readStatements? : (fuel : Nat) → List Char → Option (List Statement)
  | 0, _ => none
  | fuel + 1, cs =>
    match skipBlanks cs with
    | [] => some []
    | line =>
      match afterLine? line with
      | some rest => readStatements? fuel rest
      | none => do
        let (statement, rest) ← readStatement? line
        let rest ← afterLine? rest
        let statements ← readStatements? fuel rest
        some (statement :: statements)

/-- A header and the pairs below it. -/
structure Section where
  path : KeyPath
  inRow : Bool
  pairs : List (KeyPath × Value)

/-- The pairs in front of all headers, and the sections. -/
def sectioned : List Statement → List (KeyPath × Value) × List Section
  | [] => ([], [])
  | statement :: rest =>
    let (pairs, sections) := sectioned rest
    match statement with
    | .pair path value => ((path, value) :: pairs, sections)
    | .table path => ([], ⟨path, false, pairs⟩ :: sections)
    | .row path => ([], ⟨path, true, pairs⟩ :: sections)

def Draft.addSection? (draft : Draft) (s : Section) : Option Draft :=
  if s.inRow then draft.row? s.path s.pairs else draft.section? s.path s.pairs

def Draft.ofStatements? (statements : List Statement) : Option Draft := do
  let (pairs, sections) := sectioned statements
  let draft ← Draft.fill? [] pairs
  sections.foldlM Draft.addSection? draft

/-- The table that a text is, none where it is no settings file. A byte order mark in front does not
count. -/
def read? (text : String) : Option (Dictionary Value) := do
  let cs := match text.toList with
    | '\ufeff' :: rest => rest
    | cs => cs
  let statements ← readStatements? (cs.length + 1) cs
  let draft ← Draft.ofStatements? statements
  let entries ← settled? draft
  some (Dictionary.ofList entries)

end SchemaMocks.Toml
