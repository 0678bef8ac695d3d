import SchemaMocks.Pattern.Reader
import SchemaMocks.Pattern.Reduced
import SchemaMocks.Random.Range

set_option autoImplicit false
set_option relaxedAutoImplicit false

/-!
Drawing texts that match a pattern. A plan says what is drawn in which order. Repetitions around
repetitions are one: the counts are drawn first, the innermost one first, and their product says how
often the core is drawn.
-/

namespace SchemaMocks

/-- What is drawn for a pattern, and in which order. -/
inductive Plan where
  | text (cs : List Char)
  | oneOf (chars : CharSet)
  | sequence (parts : List Plan)
  | choice (branches : List Plan)
  /-- The core as often as `factor` times a number from each of the spans. -/
  | times (factor : Nat) (spans : List (Nat × Nat)) (core : Plan)

namespace Plan

def slack : Nat := 16

def ofRepeated (plan : Plan) (low high : Nat) : Plan :=
  let (factor, spans, core) := match plan with
    | times factor spans core => (factor, spans, core)
    | core => (1, [], core)
  if low = high then times (factor * low) spans core
  else times factor (spans ++ [(low, high)]) core

/-- The branches of a choice, else the plan itself. -/
def branches : Plan → List Plan
  | choice branches => branches
  | plan => [plan]

mutual

/-- The plan for a reduced pattern. Conditions on the surroundings and empty classes have none. -/
def ofReduced? : Reduced → Option Plan
  | .empty => some (text [])
  | .text cs => some (text cs)
  | .oneOf chars => if chars.size = 0 then none else some (oneOf chars)
  | .look => none
  | .repeated body min max _ => (ofReduced? body).map fun plan =>
    plan.ofRepeated min (max.getD (min + slack))
  | .capture _ body => ofReduced? body
  | .sequence parts => (allOfReduced? parts).map sequence
  | .choice items => (allOfReduced? items).map fun plans => choice (plans.flatMap branches)

def allOfReduced? : List Reduced → Option (List Plan)
  | [] => some []
  | part :: rest => do
    let plan ← ofReduced? part
    let plans ← allOfReduced? rest
    some (plan :: plans)

end

def count (span : Nat × Nat) : Draw Nat := do
  return span.1 + (← Draw.uniform (span.2 - span.1 + 1))

def counts : List (Nat × Nat) → Draw Nat
  | [] => return 1
  | span :: rest => do
    let n ← count span
    return n * (← counts rest)

def most (factor : Nat) (spans : List (Nat × Nat)) : Nat :=
  spans.foldl (fun n span => n * span.2) factor

mutual

/-- Whether the counts of a plan are numbers of 32 bits: how many branches there are, how often a
part is repeated at most, and the product of repetitions around repetitions. -/
def fits : Plan → Bool
  | text _ | oneOf _ => true
  | sequence parts => allFit parts
  | choice branches => branches.length < Draw.Width.modulus .bits32 && allFit branches
  | times factor spans core =>
    spans.all (fun span => span.2 < Draw.Width.modulus .bits32) &&
      (most factor spans < Draw.Width.modulus .bits32 && core.fits)

def allFit : List Plan → Bool
  | [] => true
  | part :: rest => part.fits && allFit rest

end

mutual

def draw : Plan → Draw (List Char)
  | text cs => return cs
  | oneOf chars => do return (chars.at? (← Draw.uniform chars.size)).toList
  | sequence parts => drawAll parts
  | choice branches => do drawAt branches (← Draw.uniform branches.length)
  | times factor spans core => do
    let n ← counts spans
    return (← Draw.times core.draw (factor * n)).flatten

def drawAll : List Plan → Draw (List Char)
  | [] => return []
  | part :: rest => do
    let front ← part.draw
    return front ++ (← drawAll rest)

def drawAt : List Plan → Nat → Draw (List Char)
  | [], _ => return []
  | part :: _, 0 => part.draw
  | _ :: rest, i + 1 => drawAt rest i

end

end Plan

namespace Pattern

/-- The plan of a pattern text; none where it is no pattern or asks for what cannot be drawn. -/
def planOfText? (table : CharacterTable) (s : String) : Option Plan :=
  (ofText? table s).bind fun pattern => Plan.ofReduced? pattern.reduced

/-- Whether all counts that drawing for a pattern text takes are numbers of 32 bits. Texts are drawn
with such numbers, so that patterns beyond them are outside of what is said here. -/
def countsFit (table : CharacterTable) (s : String) : Bool :=
  (planOfText? table s).all Plan.fits

end Pattern

end SchemaMocks
