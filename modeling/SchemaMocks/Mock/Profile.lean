import SchemaMocks.Mock.Failure
import SchemaMocks.Mock.Fakers
import SchemaMocks.Mock.Locale
import SchemaMocks.Pattern.Property
import SchemaMocks.Semantics

set_option autoImplicit false
set_option relaxedAutoImplicit false

/-!
Plausible values. A profile says which locale values are drawn for and around which point in time.
A value is drawn for a scalar type alone, or for what the name of a field means.
-/

namespace SchemaMocks

/-- What values are drawn from besides random words. -/
structure MockResources where
  fakers : MockLocale → Fakers
  characters : Pattern.CharacterTable

/-- For which locale, around which point in time and from what values are drawn. -/
structure MockProfile where
  locale : MockLocale
  base : Timestamp
  /-- The window of recent dates in days. -/
  dateRange : UInt32
  resources : MockResources

structure NumericBounds where
  min : Option Binary64
  max : Option Binary64

def NumericBounds.unbounded : NumericBounds :=
  ⟨none, none⟩

namespace Draw

def wordBytes (w : UInt32) : List UInt8 :=
  [w.toUInt8, (w >>> 8).toUInt8, (w >>> 16).toUInt8, (w >>> 24).toUInt8]

/-- A random identifier of 128 bits with its version and variant. -/
def uuid : Draw String := do
  let words ← times word 4
  let bytes := (words.map wordBytes).flatten
  let bytes := (bytes.modify 6 fun b => (b &&& 0x0F) ||| 0x40).modify 8 fun b => (b &&& 0x3F) ||| 0x80
  let digits := (Text.hex bytes).toList
  let part (start length : Nat) : String := String.ofList ((digits.drop start).take length)
  return "-".intercalate [part 0 8, part 8 4, part 12 4, part 16 4, part 20 12]

end Draw

namespace MockProfile

variable (profile : MockProfile)

/-- The point in time some seconds before the base. -/
def before (seconds : Nat) : Attempt Timestamp :=
  match profile.base.back? seconds with
  | some t => pure t
  | none => throw .dateOutOfRange

/-- The seconds of the window of recent dates, which is at least a day. -/
def window : Nat :=
  (max profile.dateRange 1).toNat * Timestamp.secondsPerDay

def recent : Attempt Timestamp := do
  profile.before (← Draw.between .bits64 0 ((profile.window : Int) - 1)).toNat

def birthday : Attempt Timestamp := do
  let days ← Draw.between .bits64 (18 * 365) (80 * 365)
  profile.before (days.toNat * Timestamp.secondsPerDay)

def hundred : Binary64 :=
  Binary64.ofInt 100

def typeValue (scalar : ScalarType) (bounds : NumericBounds) : Attempt MockValue :=
  match scalar with
  | .string => do return .text (← Draw.alpha 10)
  | .int => do
    let low := (bounds.min.map Binary64.toInt64).getD 1
    let high := (bounds.max.map Binary64.toInt64).getD 1000
    return .int (← Draw.intBetween low high)
  | .float | .decimal => do
    let low := bounds.min.getD (Binary64.ofInt 0)
    let high := bounds.max.getD (Binary64.ofInt 1000)
    let x ← Attempt.floatBetween low high
    return .float ((x.mul hundred).round.div hundred)
  | .boolean => do return .bool (← Draw.boolean)
  | .dateTime => do return .dateTime (← profile.recent)
  | .bigInt => do return .bigInt (Int64.ofInt (← Draw.between .bits64 1 1000000))
  | .json => do
    let key ← Draw.alpha 5
    let value ← Draw.between .bits32 1 100
    return .json (.object [("key", .string key), ("value", .int value)])
  | .bytes => do return .bytes ((← Draw.alphanumeric 32).toList.map fun c => UInt8.ofNat c.toNat)

/-- An amount of money between one and a thousand, in hundredths where the type has fractions. -/
def price (scalar : ScalarType) : Draw MockValue := do
  let cents ← Draw.between .bits64 100 100000
  return if scalar.isFractional then .float ((Binary64.ofInt cents).div hundred)
    else .int (Int64.ofInt (cents / 100))

def imageUrl (lowerName : String) : Draw String := do
  if Text.contains lowerName "avatar" then
    return "https://avatars.githubusercontent.com/u/" ++ toString (← Draw.between .bits32 1 99999999)
  else return "https://picsum.photos/seed/" ++ (← Draw.alphanumeric 10) ++ "/640/480"

def siteUrl (fakers : Fakers) : Draw String := do
  let suffix ← fakers.domainSuffix
  return "https://www." ++ Text.asciiLowered (← Draw.alpha 8) ++ "." ++ suffix

/-- A part of a postal address, as the name of the field asks. -/
def addressPart (fakers : Fakers) (lowerName : String) : Draw String :=
  if Text.contains lowerName "city" then fakers.city
  else if Text.contains lowerName "zip" || Text.contains lowerName "postal" then fakers.postalCode
  else do return (← fakers.buildingNumber) ++ " " ++ (← fakers.streetName)

/-- A name of a person or a part of it, as the name of the field asks. -/
def personName (fakers : Fakers) (lowerName : String) : Draw String :=
  if Text.contains lowerName "first" then fakers.firstName
  else if Text.contains lowerName "last" then fakers.lastName
  else fakers.fullName

/-- A value that fits the meaning of a field name. -/
def semanticValue (semantic : SemanticType) (scalar : ScalarType) (fieldName : String) :
    Attempt MockValue :=
  let name := Text.lowered fieldName
  let fakers := profile.resources.fakers profile.locale
  match semantic with
  | .email => do return .text (← fakers.email)
  | .phone => do return .text (← fakers.phone)
  | .address => do return .text (← addressPart fakers name)
  | .image => do return .text (← imageUrl name)
  | .url => do return .text (← siteUrl fakers)
  | .description => do return .text (← fakers.paragraph 2 5)
  | .title => do return .text (← fakers.sentence 3 8)
  | .date => do
    return .dateTime (← if Text.contains name "birth" then profile.birthday else profile.recent)
  | .price => do return ← price scalar
  | .country => do return .text (← fakers.country)
  | .company => do return .text (← fakers.company)
  | .person => do return .text (← personName fakers name)
  | .unknown => profile.typeValue scalar NumericBounds.unbounded

/-- A value that fits the meaning of a field name where that fits the type, else a value of the
type. Types without a known name have no values. -/
def select (semantic : SemanticType) (typeName fieldName : String) (bounds : NumericBounds) :
    Attempt MockValue :=
  match ScalarType.ofName? typeName with
  | none => throw (.unsupportedType typeName)
  | some scalar =>
    if semantic.accepts scalar then profile.semanticValue semantic scalar fieldName
    else profile.typeValue scalar bounds

end MockProfile

end SchemaMocks
