import SchemaMocks.Pattern.Basic

set_option autoImplicit false
set_option relaxedAutoImplicit false

/-!
The reduced form of patterns. Letters in a row are one text, classes of one character are texts,
branches of single characters are one class, and branches that begin alike share their beginning.
Each constructor function keeps the texts that are matched.
-/

namespace SchemaMocks

inductive Reduced where
  | empty
  | text (cs : List Char)
  | oneOf (chars : CharSet)
  | look
  | repeated (body : Reduced) (min : Nat) (max : Option Nat) (greedy : Bool)
  | capture (index : Nat) (body : Reduced)
  | sequence (parts : List Reduced)
  | choice (branches : List Reduced)

namespace Reduced

mutual

private def decEqReduced : (a b : Reduced) → Decidable (a = b)
  | empty, empty => isTrue rfl
  | look, look => isTrue rfl
  | text a, text b => decidable_of_iff (a = b) (by simp)
  | oneOf a, oneOf b => decidable_of_iff (a = b) (by simp)
  | repeated a m n g, repeated b k l h =>
    match decEqReduced a b, (inferInstance : Decidable ((m, n, g) = (k, l, h))) with
    | isTrue hab, isTrue hr => isTrue (by simp_all)
    | isFalse hab, _ => isFalse (by simp [hab])
    | _, isFalse hr => isFalse (by intro he; cases he; exact hr rfl)
  | capture i a, capture j b =>
    match decEq i j, decEqReduced a b with
    | isTrue hi, isTrue h => isTrue (by rw [hi, h])
    | isFalse hi, _ => isFalse (by simp [hi])
    | _, isFalse h => isFalse (by simp [h])
  | sequence a, sequence b =>
    match decEqParts a b with
    | isTrue h => isTrue (by rw [h])
    | isFalse h => isFalse (by simpa using h)
  | choice a, choice b =>
    match decEqParts a b with
    | isTrue h => isTrue (by rw [h])
    | isFalse h => isFalse (by simpa using h)
  | empty, text _ | empty, oneOf _ | empty, look | empty, repeated .. | empty, capture ..
  | empty, sequence _ | empty, choice _
  | text _, empty | text _, oneOf _ | text _, look | text _, repeated .. | text _, capture ..
  | text _, sequence _ | text _, choice _
  | oneOf _, empty | oneOf _, text _ | oneOf _, look | oneOf _, repeated .. | oneOf _, capture ..
  | oneOf _, sequence _ | oneOf _, choice _
  | look, empty | look, text _ | look, oneOf _ | look, repeated .. | look, capture ..
  | look, sequence _ | look, choice _
  | repeated .., empty | repeated .., text _ | repeated .., oneOf _ | repeated .., look
  | repeated .., capture .. | repeated .., sequence _ | repeated .., choice _
  | capture .., empty | capture .., text _ | capture .., oneOf _ | capture .., look
  | capture .., repeated .. | capture .., sequence _ | capture .., choice _
  | sequence _, empty | sequence _, text _ | sequence _, oneOf _ | sequence _, look
  | sequence _, repeated .. | sequence _, capture .. | sequence _, choice _
  | choice _, empty | choice _, text _ | choice _, oneOf _ | choice _, look
  | choice _, repeated .. | choice _, capture .. | choice _, sequence _ => isFalse (by simp)

private def decEqParts : (a b : List Reduced) → Decidable (a = b)
  | [], [] => isTrue rfl
  | [], _ :: _ => isFalse (by simp)
  | _ :: _, [] => isFalse (by simp)
  | x :: xs, y :: ys =>
    match decEqReduced x y, decEqParts xs ys with
    | isTrue h, isTrue hs => isTrue (by rw [h, hs])
    | isFalse h, _ => isFalse (by simp [h])
    | _, isFalse hs => isFalse (by simp [hs])

end

instance : DecidableEq Reduced := decEqReduced

mutual

/-- Whether a pattern is bound to match nothing but the empty text. -/
def isWidthless : Reduced → Bool
  | empty | look => true
  | text _ | oneOf _ => false
  | repeated body _ max _ => max.any fun n => n == 0 || body.isWidthless
  | capture _ body => body.isWidthless
  | sequence parts => allWidthless parts
  | choice branches => allWidthless branches

def allWidthless : List Reduced → Bool
  | [] => true
  | part :: rest => part.isWidthless && allWidthless rest

end

/-- One character of a set; the only one of its set is a text. -/
def ofSet (chars : CharSet) : Reduced :=
  match chars.size, chars.at? 0 with
  | 1, some c => text [c]
  | _, _ => oneOf chars

/-- A repetition. Nothing is gained by repeating what has no width more than once, no repetition is
the empty text, and one repetition is the body itself. -/
def ofRepeated (body : Reduced) (min : Nat) (max : Option Nat) (greedy : Bool) : Reduced :=
  let (min, max) :=
    if body.isWidthless then (Nat.min min 1, some ((max.map (Nat.min · 1)).getD 1)) else (min, max)
  if min = 0 ∧ max = some 0 then empty
  else if min = 1 ∧ max = some 1 then body
  else repeated body min max greedy

/-- The parts of a sequence, else the pattern itself. -/
def parts : Reduced → List Reduced
  | sequence parts => parts
  | part => [part]

/-- Parts without empty ones, with neighbouring texts joined. -/
def joinTexts : List Reduced → List Reduced
  | [] => []
  | empty :: rest => joinTexts rest
  | text cs :: rest =>
    match joinTexts rest with
    | text ds :: more => text (cs ++ ds) :: more
    | more => text cs :: more
  | part :: rest => part :: joinTexts rest

def ofSequence (items : List Reduced) : Reduced :=
  match joinTexts (items.flatMap parts) with
  | [] => empty
  | [part] => part
  | parts => sequence parts

def branches : Reduced → List Reduced
  | choice branches => branches
  | branch => [branch]

def char? : Reduced → Option Char
  | text [c] => some c
  | _ => none

def set? : Reduced → Option CharSet
  | oneOf chars => some chars
  | _ => none

def sequenceParts? : Reduced → Option (List Reduced)
  | sequence parts => some parts
  | _ => none

def commonFront : List Reduced → List Reduced → List Reduced
  | x :: xs, y :: ys => if x = y then x :: commonFront xs ys else []
  | _, _ => []

/-- The parts with which all of some sequences begin. -/
def sharedFront : List (List Reduced) → List Reduced
  | [] => []
  | first :: rest => rest.foldl commonFront first

/-- One of some patterns. Sequences that begin alike share their beginning; `fuel` bounds how often
that is done. -/
def choiceWithin : Nat → List Reduced → Reduced
  | 0, items => choice items
  | fuel + 1, items =>
    match items.flatMap branches with
    | [branch] => branch
    | branches =>
      match branches.mapM char?, branches.mapM set?, branches.mapM sequenceParts? with
      | some cs, _, _ => ofSet (CharSet.ofChars cs)
      | none, some sets, _ => ofSet (sets.foldl CharSet.union CharSet.empty)
      | none, none, some sequences =>
        let front := sharedFront sequences
        if front.isEmpty then choice branches
        else
          let rests := sequences.map fun parts => ofSequence (parts.drop front.length)
          ofSequence (front ++ [choiceWithin fuel rests])
      | none, none, none => choice branches

mutual

def size : Reduced → Nat
  | empty | text _ | oneOf _ | look => 1
  | repeated body .. => body.size + 1
  | capture _ body => body.size + 1
  | sequence parts => sizeOfAll parts + 1
  | choice branches => sizeOfAll branches + 1

def sizeOfAll : List Reduced → Nat
  | [] => 0
  | part :: rest => part.size + sizeOfAll rest

end

def ofChoice (items : List Reduced) : Reduced :=
  choiceWithin (sizeOfAll items + 1) items

end Reduced

namespace Pattern

mutual

def reduced : Pattern → Reduced
  | empty => .empty
  | char rule c => Reduced.ofSet (rule.siblings c)
  | oneOf chars => Reduced.ofSet chars
  | bracket mode negated body => Reduced.ofSet ((ClassExpr.bracket negated body).toSet mode)
  | look => .look
  | sequence parts => Reduced.ofSequence (allReduced parts)
  | choice branches => Reduced.ofChoice (allReduced branches)
  | repeated body min max greedy => Reduced.ofRepeated body.reduced min max greedy
  | group none body => body.reduced
  | group (some index) body => .capture index body.reduced

def allReduced : List Pattern → List Reduced
  | [] => []
  | part :: rest => part.reduced :: allReduced rest

end

end Pattern

end SchemaMocks
