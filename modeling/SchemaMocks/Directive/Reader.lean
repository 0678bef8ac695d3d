import SchemaMocks.Binary64.Numeral
import SchemaMocks.Directive.Basic
import SchemaMocks.Text.CaseTable

set_option autoImplicit false
set_option relaxedAutoImplicit false

/-!
Reading directives. A trimmed line that starts with the bare mark holds a call or a literal. In any
other line a directive with arguments may stand anywhere: the forms are tried in the order range,
pattern, enum, relation depth, each at its first place; the first form found decides, even where its
arguments turn out to be unusable.
-/

namespace SchemaMocks.Directive

open Text

abbrev Finding := Option Directive

def leftmost (form : List Char → Option Finding) : List Char → Option Finding
  | [] => form []
  | c :: rest => (form (c :: rest)).orElse fun _ => leftmost form rest

/-- What follows the mark, a name and an opening parenthesis. -/
def opened? (name : String) (cs : List Char) : Option (List Char) := do
  let rest ← after? ("@mock." ++ name).toList cs
  match trimFront rest with
  | '(' :: rest => some rest
  | _ => none

def isDigit (c : Char) : Bool :=
  inRanges digitRanges c.toNat

def digitRun? (cs : List Char) : Option (List Char × List Char) :=
  let (digits, rest) := cs.span isDigit
  if digits.isEmpty then none else some (digits, rest)

/-- A number without its sign: digits, and perhaps a point and more digits. -/
def unsigned? (cs : List Char) : Option (List Char × List Char) := do
  let (whole, rest) ← digitRun? cs
  match rest with
  | '.' :: tail =>
    match digitRun? tail with
    | some (part, rest) => some (whole ++ '.' :: part, rest)
    | none => some (whole, rest)
  | _ => some (whole, rest)

def number? (cs : List Char) : Option (List Char × List Char) := do
  let (text, rest) ← match trimFront cs with
    | '-' :: rest => (unsigned? rest).map fun (text, rest) => ('-' :: text, rest)
    | cs => unsigned? cs
  some (text, trimFront rest)

/-- The range between two numerals, where both are finite and in order. -/
def rangeOf? (low high : List Char) : Finding :=
  match Binary64.ofNumeral? low, Binary64.ofNumeral? high with
  | some (.finite min), some (.finite max) =>
    if min.units ≤ max.units then some (range min max) else none
  | _, _ => none

def rangeForm (cs : List Char) : Option Finding := do
  let rest ← opened? "range" cs
  let (low, rest) ← number? rest
  match rest with
  | ',' :: rest =>
    let (high, rest) ← number? rest
    match rest with
    | ')' :: _ => some (rangeOf? low high)
    | _ => none
  | _ => none

def isQuote (c : Char) : Bool :=
  c == '\"' || c == '\x27'

def closesQuoted : List Char → Bool
  | [] => false
  | c :: rest => isQuote c && (trimFront rest).head? == some ')'

/-- The characters up to the first place where a quoted argument closes, on one line. -/
def quotedBody? : List Char → Option (List Char)
  | [] => none
  | c :: rest =>
    if closesQuoted (c :: rest) then some []
    else if c == '\n' then none
    else (quotedBody? rest).map (c :: ·)

/-- A pattern in front of a text; its first character is never the closing quote. -/
def patternForm (cs : List Char) : Option Finding := do
  let rest ← opened? "pattern" cs
  match trimFront rest with
  | q :: c :: rest =>
    if isQuote q && c != '\n' then
      let body ← quotedBody? rest
      some (some (pattern (String.ofList (c :: body))))
    else none
  | _ => none

def beforeLastParen? (cs : List Char) : Option (List Char) :=
  match cs.reverse.dropWhile (· != ')') with
  | [] => none
  | _ :: before => some before.reverse

/-- The options of an enum: the trimmed pieces between commas, without quotes, blank ones left out. -/
def optionsOf (body : List Char) : List String :=
  let options := (pieces ',' body).map fun piece => (trim piece).filter fun c => !isQuote c
  (options.filter fun option => !option.isEmpty).map String.ofList

/-- An enum in front of a text; its arguments reach to the last parenthesis of the line. -/
def enumForm (cs : List Char) : Option Finding := do
  let rest ← opened? "enum" cs
  let body ← beforeLastParen? (rest.takeWhile (· != '\n'))
  if body.isEmpty then none else some (some (enum (optionsOf body)))

def depthForm (cs : List Char) : Option Finding := do
  let rest ← opened? "relationDepth" cs
  let (digits, rest) ← digitRun? (trimFront rest)
  match trimFront rest with
  | ')' :: _ => some ((natBelow? 4294967296 digits).map fun n => relationDepth (UInt32.ofNat n))
  | _ => none

def withArguments? (line : List Char) : Option Directive :=
  ([rangeForm, patternForm, enumForm, depthForm].findSome? fun form => leftmost form line).join

def bare? (line rest : List Char) : Option Directive :=
  let rest := trim rest
  if "faker.".toList.isPrefixOf rest then some (faker (String.ofList rest))
  else if !occursIn "faker.".toList line && !rest.isEmpty then some (fixed (String.ofList rest))
  else none

def ofLine? (line : String) : Option Directive :=
  let line := trim line.toList
  match after? "@mock ".toList line with
  | some rest => bare? line rest
  | none => withArguments? line

end SchemaMocks.Directive

namespace SchemaMocks.Field

def directives (field : Field) : List Directive :=
  field.documentationLines.filterMap Directive.ofLine?

def directive? (field : Field) : Option Directive :=
  field.directives.find? (Directive.fits field.scalar?)

/-- What is noticed when the directive of a field is looked up: a mark that led to nothing. -/
def directiveNotices (field : Field) : List Notice :=
  match field.directive? with
  | some _ => []
  | none =>
    match field.documentationLines.find? (Text.startsWith · "@mock") with
    | some line => [.directiveIgnored field.name line]
    | none => []

/-- The bound that the documentation sets on the expansion of the field. -/
def relationDepth? (field : Field) : Option UInt32 :=
  field.directives.findSome? fun d =>
    match d with
    | .relationDepth depth => some depth
    | _ => none

end SchemaMocks.Field
