import SchemaMocks.Binary64.Power
import SchemaMocks.Text.Numeral

set_option autoImplicit false
set_option relaxedAutoImplicit false

/-!
Points in time, in UTC, and their written form. The calendar is the Gregorian one, extended in both
directions. A leap second is counted as part of the second before it, with a billion nanoseconds or
more.
-/

namespace SchemaMocks

structure CalendarDate where
  year : Int
  month : Nat
  day : Nat
  deriving DecidableEq

namespace CalendarDate

def isLeapYear (year : Int) : Bool :=
  year % 4 == 0 && (year % 100 != 0 || year % 400 == 0)

def daysInMonth (year : Int) (month : Nat) : Nat :=
  match month with
  | 1 | 3 | 5 | 7 | 8 | 10 | 12 => 31
  | 4 | 6 | 9 | 11 => 30
  | 2 => if isLeapYear year then 29 else 28
  | _ => 0

def isValid (date : CalendarDate) : Bool :=
  1 ≤ date.day && date.day ≤ daysInMonth date.year date.month

/-- The day number of a date. Years are taken to start in March, so that a leap day is the last of
its year; day zero is the first of January 1970. -/
def toDay (date : CalendarDate) : Int :=
  let year := if date.month ≤ 2 then date.year - 1 else date.year
  let era := year / 400
  let yearOfEra := year - era * 400
  let monthFromMarch : Int := ((date.month : Int) + 9) % 12
  let dayOfYear := (153 * monthFromMarch + 2) / 5 + date.day - 1
  let dayOfEra := yearOfEra * 365 + yearOfEra / 4 - yearOfEra / 100 + dayOfYear
  era * 146097 + dayOfEra - 719468

def ofDay (day : Int) : CalendarDate :=
  let shifted := day + 719468
  let era := shifted / 146097
  let dayOfEra := shifted - era * 146097
  let yearOfEra :=
    (dayOfEra - dayOfEra / 1460 + dayOfEra / 36524 - dayOfEra / 146096) / 365
  let dayOfYear := dayOfEra - (365 * yearOfEra + yearOfEra / 4 - yearOfEra / 100)
  let monthFromMarch := (5 * dayOfYear + 2) / 153
  let month := if monthFromMarch < 10 then monthFromMarch + 3 else monthFromMarch - 9
  let year := yearOfEra + era * 400
  { year := if month ≤ 2 then year + 1 else year
    month := month.toNat
    day := (dayOfYear - (153 * monthFromMarch + 2) / 5 + 1).toNat }

end CalendarDate

/-- A point in time: seconds since the start of 1970 and nanoseconds past them. -/
structure Timestamp where
  seconds : Int
  nanos : Nat
  deriving DecidableEq

namespace Timestamp

def nanosPerSecond : Nat := 1000000000

def secondsPerDay : Nat := 86400

def ofCivil (date : CalendarDate) (secondOfDay : Int) (nanos : Nat) : Timestamp :=
  ⟨date.toDay * secondsPerDay + secondOfDay, nanos⟩

def start2024 : Timestamp :=
  ofCivil ⟨2024, 1, 1⟩ 0 0

def firstSecond : Int :=
  (CalendarDate.toDay ⟨-262143, 1, 1⟩) * secondsPerDay

def endSecond : Int :=
  (CalendarDate.toDay ⟨262143, 1, 1⟩) * secondsPerDay

def isRepresentable (t : Timestamp) : Bool :=
  firstSecond ≤ t.seconds && t.seconds < endSecond

/-- The point in time some seconds earlier. A leap second counts as the second after it. -/
def back (t : Timestamp) (seconds : Nat) : Timestamp :=
  if seconds = 0 then t
  else if nanosPerSecond ≤ t.nanos then ⟨t.seconds + 1 - seconds, t.nanos - nanosPerSecond⟩
  else ⟨t.seconds - seconds, t.nanos⟩

def back? (t : Timestamp) (seconds : Nat) : Option Timestamp :=
  let earlier := t.back seconds
  if earlier.isRepresentable then some earlier else none

def yearText (year : Int) : String :=
  if 0 ≤ year ∧ year ≤ 9999 then Text.padded 4 year.natAbs
  else (if year < 0 then "-" else "+") ++ Text.padded 4 year.natAbs

/-- The written form up to the second, and the nanoseconds that remain. -/
def civilText (t : Timestamp) : String × Nat :=
  let date := CalendarDate.ofDay (t.seconds / secondsPerDay)
  let secondOfDay := (t.seconds % secondsPerDay).toNat
  let leap := nanosPerSecond ≤ t.nanos
  let second := secondOfDay % 60 + if leap then 1 else 0
  (yearText date.year ++ "-" ++ Text.padded 2 date.month ++ "-" ++ Text.padded 2 date.day ++ "T"
      ++ Text.padded 2 (secondOfDay / 3600) ++ ":" ++ Text.padded 2 (secondOfDay / 60 % 60) ++ ":"
      ++ Text.padded 2 second,
    if leap then t.nanos - nanosPerSecond else t.nanos)

/-- The written form with milliseconds; what is below them is cut off. -/
def formatMillis (t : Timestamp) : String :=
  let (text, nanos) := t.civilText
  text ++ "." ++ Text.padded 3 (nanos / 1000000) ++ "Z"

/-- The written form with as many groups of three fractional digits as are needed. -/
def formatShort (t : Timestamp) : String :=
  let (text, nanos) := t.civilText
  let fraction :=
    if nanos = 0 then ""
    else if nanos % 1000000 = 0 then "." ++ Text.padded 3 (nanos / 1000000)
    else if nanos % 1000 = 0 then "." ++ Text.padded 6 (nanos / 1000)
    else "." ++ Text.padded 9 nanos
  text ++ fraction ++ "Z"

def fixedDigits? (width : Nat) (cs : List Char) : Option (Nat × List Char) :=
  if (cs.take width).length = width then
    (Text.digits? (cs.take width)).map fun n => (n, cs.drop width)
  else none

def expect? (c : Char) : List Char → Option (List Char)
  | [] => none
  | d :: rest => if c = d then some rest else none

def date? (cs : List Char) : Option (CalendarDate × List Char) := do
  let (year, rest) ← fixedDigits? 4 cs
  let rest ← expect? '-' rest
  let (month, rest) ← fixedDigits? 2 rest
  let rest ← expect? '-' rest
  let (day, rest) ← fixedDigits? 2 rest
  let date : CalendarDate := ⟨year, month, day⟩
  if date.isValid then some (date, rest) else none

/-- The fraction of a second in front of a text, in nanoseconds; digits past the ninth are dropped. -/
def fraction? : List Char → Option (Nat × List Char)
  | '.' :: rest =>
    let (digits, rest) := rest.span Char.isDigit
    let kept := digits.take 9
    if kept.isEmpty then none
    else some (Text.digitsValue 0 kept * tenTo (9 - kept.length), rest)
  | rest => some (0, rest)

/-- The time of day in front of a text: its second, the leap second counted as the one before it,
and its nanoseconds. -/
def time? (cs : List Char) : Option (Nat × Nat × List Char) := do
  let (hour, rest) ← fixedDigits? 2 cs
  let rest ← expect? ':' rest
  let (minute, rest) ← fixedDigits? 2 rest
  let rest ← expect? ':' rest
  let (second, rest) ← fixedDigits? 2 rest
  let (nanos, rest) ← fraction? rest
  if hour ≤ 23 ∧ minute ≤ 59 ∧ second ≤ 60 then
    if second = 60 then some (hour * 3600 + minute * 60 + 59, nanosPerSecond + nanos, rest)
    else some (hour * 3600 + minute * 60 + second, nanos, rest)
  else none

def offset? : List Char → Option Int
  | [] => none
  | c :: rest =>
    if c = 'Z' ∨ c = 'z' then
      if rest.isEmpty then some 0 else none
    else if c = '+' ∨ c = '-' ∨ c = '\u2212' then do
      let (hours, rest) ← fixedDigits? 2 rest
      let rest ← expect? ':' rest
      let (minutes, rest) ← fixedDigits? 2 rest
      let value : Int := hours * 3600 + minutes * 60
      if rest.isEmpty ∧ hours ≤ 23 ∧ minutes ≤ 59 then
        some (if c = '+' then value else -value)
      else none
    else none

/-- The point in time that a text states: a date, a time of day and an offset from UTC. -/
def ofChars? (cs : List Char) : Option Timestamp := do
  let (date, rest) ← date? cs
  match rest with
  | [] => none
  | c :: rest =>
    if c = 'T' ∨ c = 't' ∨ c = ' ' then do
      let (second, nanos, rest) ← time? rest
      let offset ← offset? rest
      some (ofCivil date (second - offset) nanos)
    else none

def ofText? (s : String) : Option Timestamp :=
  ofChars? s.toList

end Timestamp

end SchemaMocks
