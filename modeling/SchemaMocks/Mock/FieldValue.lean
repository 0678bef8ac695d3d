import SchemaMocks.Mock.Profile
import SchemaMocks.Pattern.Plan
import SchemaMocks.Source.Basic

set_option autoImplicit false
set_option relaxedAutoImplicit false

/-!
Values for fields. Each source of a mock has its values: a directive states them, a default repeats
itself or counts up, a meaning or a type is drawn from a profile.
-/

namespace SchemaMocks

/-- What drawing a value changes: the random stream, the counters and what is noticed, the latest
notice first. -/
structure ValueState where
  stream : WordStream
  counters : Dictionary Nat
  noticed : List Notice

/-- A value that is drawn, or a failure; what changed on the way stays changed. -/
abbrev ValueDraw := ExceptT MockFailure (StateM ValueState)

namespace ValueDraw

def ofAttempt {α : Type} (attempt : Attempt α) : ValueDraw α :=
  fun s =>
    let (result, stream) := attempt.run s.stream
    (result, { s with stream })

instance : MonadLift Attempt ValueDraw := ⟨ofAttempt⟩

def notice (n : Notice) : ValueDraw Unit :=
  fun s => (.ok (), { s with noticed := n :: s.noticed })

def notices (ns : List Notice) : ValueDraw Unit :=
  fun s => (.ok (), { s with noticed := ns.reverse ++ s.noticed })

/-- The next number of a counter; the first one is one. -/
def countUp (key : String) : ValueDraw Nat :=
  fun s =>
    let next := (s.counters.get? key).getD 0 + 1
    (.ok next, { s with counters := s.counters.insert key next })

end ValueDraw

namespace Draw

/-- A list without the item at a place, which the last item moves to. -/
def swapRemove {α : Type} (items : List α) (i : Nat) : List α :=
  match items.getLast? with
  | some last => (items.set i last).dropLast
  | none => []

/-- Items at some places that are all different, in the order drawn. -/
def distinct {α : Type} : Nat → List α → Draw (List α)
  | 0, _ => return []
  | count + 1, pool => do
    let i ← index pool.length
    match pool[i]? with
    | none => return []
    | some item => return item :: (← distinct count (swapRemove pool i))

/-- At least one of some items at places that are all different; none where there are none. -/
def subset {α : Type} (items : List α) : Draw (List α) := do
  if items.isEmpty then return []
  else
    let count ← between .bits64 1 items.length
    distinct count.toNat items

end Draw

namespace DefaultMock

def smallLettersAndDigits : List Char :=
  "abcdefghijklmnopqrstuvwxyz0123456789".toList

def addressCharacters : List Char :=
  Draw.lettersAndDigits ++ ['_', '-']

def base32Digits : List Char :=
  "0123456789ABCDEFGHJKMNPQRSTVWXYZ".toList

def hexDigits : List Char :=
  "0123456789abcdef".toList

def textOf (charset : List Char) (length : Nat) : ValueDraw MockValue := do
  return .text (String.ofList (← Draw.fromCharset charset length))

/-- The value of a text default; where points in time are wanted, the one that the text states. -/
def textValue (scalar : Option ScalarType) (value : String) : MockValue :=
  match scalar, Timestamp.ofText? value with
  | some .dateTime, some t => .dateTime t
  | _, _ => .text value

def numberValue (scalar : Option ScalarType) (n : Json.Number) : MockValue :=
  match n.toInt64?, scalar with
  | some value, some .bigInt => .bigInt value
  | some value, _ => .int value
  | none, _ => .float n.toBinary

def value (profile : MockProfile) (key : String) (scalar : Option ScalarType) :
    DefaultMock → ValueDraw MockValue
  | now => return .dateTime profile.base
  | cuid => do
    return .text ("c" ++ String.ofList (← Draw.fromCharset smallLettersAndDigits 24))
  | uuid => do return .text (← Draw.uuid)
  | autoincrement => do return .int (Int64.ofNat (← ValueDraw.countUp key))
  | nanoid => textOf addressCharacters 21
  | ulid => textOf base32Digits 26
  | auto => textOf hexDigits 24
  | string s => return textValue scalar s
  | number n => return numberValue scalar n
  | bool b => return .bool b
  | list values => return .list (values.map MockValue.ofJson)

end DefaultMock

namespace Directive

/-- A number of a range: whole unless the type carries fractional digits. -/
def rangeValue (scalar : Option ScalarType) (min max : Finite64) : Attempt MockValue :=
  if scalar.any ScalarType.isFractional then do
    return .float (← Attempt.floatBetween (.finite min) (.finite max))
  else do
    return .int (← Draw.intBetween (Binary64.clampInt64 min.ceil) (Binary64.clampInt64 max.floor))

def patternValue (characters : Pattern.CharacterTable) (fieldName pattern : String) :
    Attempt MockValue :=
  match Pattern.planOfText? characters pattern with
  | some plan => do return .text (String.ofList (← plan.draw))
  | none => throw (.badPattern fieldName pattern)

/-- A single value that a directive asks for. A call is not made here: the field gets what it would
get without it. -/
def value (profile : MockProfile) (fieldName : String) (scalar : Option ScalarType) :
    Directive → ValueDraw MockValue
  | faker expression => do
    ValueDraw.notice (.directivePreviewed fieldName expression)
    match scalar with
    | some scalar =>
      profile.semanticValue (SemanticType.fitting fieldName scalar) scalar fieldName
    | none => return .null
  | fixed literal => return .ofLiteral literal
  | range min max => rangeValue scalar min max
  | pattern p => patternValue profile.resources.characters fieldName p
  | enum options => do return ((← Draw.pick options).map MockValue.text).getD .null
  | relationDepth _ => return .null

def oneToThree (draw : ValueDraw MockValue) : ValueDraw MockValue := do
  let count ← Draw.between .bits64 1 3
  return .list (← (List.range count.toNat).mapM fun _ => draw)

/-- The values that a directive asks for in a list field: some of the texts of an enumeration, an
array as it is written, else one to three single values. -/
def listValue (profile : MockProfile) (fieldName : String) (scalar : Option ScalarType)
    (d : Directive) : ValueDraw MockValue :=
  match d with
  | enum options => do return .list ((← Draw.subset options).map MockValue.text)
  | fixed literal =>
    if isArrayLiteral literal then return .ofLiteral literal
    else oneToThree (d.value profile fieldName scalar)
  | _ => oneToThree (d.value profile fieldName scalar)

end Directive

namespace MockSource

/-- A single value of a source for a field of a model. -/
def value (profile : MockProfile) (model : Model) (field : Field) : MockSource → ValueDraw MockValue
  | directive d => d.value profile field.name field.scalar?
  | default d => d.value profile (UniqueLedger.fieldKey model.name field.name) field.scalar?
  | semantic s scalar => profile.semanticValue s scalar field.name
  | typeDefault scalar => profile.typeValue scalar NumericBounds.unbounded
  | placeholder => return .null

def mayBeNull : MockSource → Bool
  | default _ | placeholder => false
  | _ => true

end MockSource

end SchemaMocks
