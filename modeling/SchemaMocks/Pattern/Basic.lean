import SchemaMocks.Pattern.CharSet

set_option autoImplicit false
set_option relaxedAutoImplicit false

/-!
Patterns and the texts that match them. A pattern is kept as it was written, with the flags that
were in force attached to its letters and classes. `Pattern.Matches` says which texts a pattern
matches from end to end; conditions on the surroundings of a text match nothing of their own.
-/

namespace SchemaMocks

inductive ClassOperation where
  | intersection
  | difference
  | symmetricDifference
  deriving DecidableEq

/-- What is written between the brackets of a class. -/
inductive ClassExpr where
  | chars (set : CharSet)
  | union (items : List ClassExpr)
  | bracket (negated : Bool) (body : ClassExpr)
  | combined (operation : ClassOperation) (left right : ClassExpr)

/-- Which characters a class is about: which ones count as the same, and how many there are. -/
structure ClassMode where
  rule : CaseRule
  charCount : Nat
  deriving DecidableEq

namespace ClassOperation

def apply : ClassOperation → CharSet → CharSet → CharSet
  | intersection => CharSet.intersection
  | difference => CharSet.difference
  | symmetricDifference => CharSet.symmetricDifference

end ClassOperation

/-- Whether a combination holds a character, given whether each side does. -/
def ClassOperation.holds : ClassOperation → Prop → Prop → Prop
  | .intersection, a, b => a ∧ b
  | .difference, a, b => a ∧ ¬b
  | .symmetricDifference, a, b => a ∧ ¬b ∨ b ∧ ¬a

namespace ClassMode

def finish (mode : ClassMode) (negated : Bool) (set : CharSet) : CharSet :=
  let closed := mode.rule.close set
  if negated then closed.complement mode.charCount else closed

end ClassMode

namespace ClassExpr

mutual

def toSet (mode : ClassMode) : ClassExpr → CharSet
  | chars set => set
  | union items => unionOf mode items
  | bracket negated body => mode.finish negated (toSet mode body)
  | combined operation left right =>
    operation.apply (mode.rule.close (toSet mode left)) (mode.rule.close (toSet mode right))

def unionOf (mode : ClassMode) : List ClassExpr → CharSet
  | [] => CharSet.empty
  | item :: rest => (toSet mode item).union (unionOf mode rest)

end

mutual

/-- Whether a class holds a character. Where several characters count as the same, one of them has
to be held by what a bracket or a combination is made of. -/
def Accepts (mode : ClassMode) : ClassExpr → Char → Prop
  | chars set, c => set.contains c = true
  | union items, c => AcceptsAny mode items c
  | bracket negated body, c =>
    let held := ∃ d, mode.rule.fold d = mode.rule.fold c ∧ Accepts mode body d
    if negated then ¬held ∧ CharSet.rank c < mode.charCount else held
  | combined operation left right, c =>
    operation.holds (∃ d, mode.rule.fold d = mode.rule.fold c ∧ Accepts mode left d)
      (∃ d, mode.rule.fold d = mode.rule.fold c ∧ Accepts mode right d)

def AcceptsAny (mode : ClassMode) : List ClassExpr → Char → Prop
  | [], _ => False
  | item :: rest, c => Accepts mode item c ∨ AcceptsAny mode rest c

end

mutual

def depth : ClassExpr → Nat
  | chars _ => 0
  | union items => depthOf items + 1
  | bracket _ body => body.depth + 1
  | combined _ left right => max left.depth right.depth + 1

def depthOf : List ClassExpr → Nat
  | [] => 0
  | item :: rest => max item.depth (depthOf rest)

end

end ClassExpr

inductive Pattern where
  | empty
  | char (rule : CaseRule) (c : Char)
  | oneOf (chars : CharSet)
  | bracket (mode : ClassMode) (negated : Bool) (body : ClassExpr)
  /-- A condition on the surroundings. -/
  | look
  | sequence (parts : List Pattern)
  | choice (branches : List Pattern)
  | repeated (body : Pattern) (min : Nat) (max : Option Nat) (greedy : Bool)
  /-- A group, with its number if what it matches is remembered. -/
  | group (index : Option Nat) (body : Pattern)

namespace Pattern

mutual

def depth : Pattern → Nat
  | empty | char .. | oneOf _ | look => 0
  | bracket _ _ body => body.depth + 1
  | sequence parts => depthOf parts + 1
  | choice branches => depthOf branches + 1
  | repeated body .. => body.depth + 1
  | group _ body => body.depth + 1

def depthOf : List Pattern → Nat
  | [] => 0
  | part :: rest => max part.depth (depthOf rest)

end

/-- Some parts in a row; a single part stands for itself. -/
def inSequence : List Pattern → Pattern
  | [] => empty
  | [part] => part
  | parts => sequence parts

/-- The texts that a pattern matches from end to end. -/
inductive Matches : Pattern → List Char → Prop where
  | empty : Matches empty []
  | char {rule : CaseRule} {c d : Char} (same : rule.fold d = rule.fold c) :
      Matches (char rule c) [d]
  | oneOf {chars : CharSet} {d : Char} (mem : chars.contains d = true) : Matches (oneOf chars) [d]
  | bracket {mode : ClassMode} {negated : Bool} {body : ClassExpr} {d : Char}
      (mem : (ClassExpr.bracket negated body).Accepts mode d) :
      Matches (bracket mode negated body) [d]
  | sequenceNil : Matches (sequence []) []
  | sequenceCons {part : Pattern} {rest : List Pattern} {u v : List Char}
      (head : Matches part u) (tail : Matches (sequence rest) v) :
      Matches (sequence (part :: rest)) (u ++ v)
  | choice {branches : List Pattern} {branch : Pattern} {w : List Char}
      (mem : branch ∈ branches) (body : Matches branch w) : Matches (choice branches) w
  | repeatedNil {body : Pattern} {max : Option Nat} {greedy : Bool} :
      Matches (repeated body 0 max greedy) []
  | repeatedCons {body : Pattern} {min : Nat} {max : Option Nat} {greedy : Bool} {u v : List Char}
      (room : max ≠ some 0) (head : Matches body u)
      (tail : Matches (repeated body (min - 1) (max.map (· - 1)) greedy) v) :
      Matches (repeated body min max greedy) (u ++ v)
  | group {index : Option Nat} {body : Pattern} {w : List Char} (inner : Matches body w) :
      Matches (group index body) w

end Pattern

end SchemaMocks
