import SchemaMocks.Timestamp

set_option autoImplicit false
set_option relaxedAutoImplicit false

/-!
Dates and times as settings files hold them: a date, a time of day, or both, the latter with an
offset from UTC where one is given. Written out, a fraction of a second loses its last zeros.
-/

namespace SchemaMocks.Toml

structure ClockTime where
  hour : Nat
  minute : Nat
  second : Nat
  nanos : Nat
  deriving DecidableEq

inductive UtcOffset where
  | utc
  | shifted (behind : Bool) (hours minutes : Nat)
  deriving DecidableEq

/-- A date, a time of day and an offset, each where it is given. -/
structure Datetime where
  date : Option CalendarDate
  time : Option ClockTime
  offset : Option UtcOffset
  deriving DecidableEq

namespace ClockTime

def text (t : ClockTime) : String :=
  let fraction := (Text.padded 9 t.nanos).toList.reverse.dropWhile (· = '0')
  Text.padded 2 t.hour ++ ":" ++ Text.padded 2 t.minute ++ ":" ++ Text.padded 2 t.second
    ++ (if fraction.isEmpty then "" else "." ++ String.ofList fraction.reverse)

/-- The time of day in front of a text, without regard to its limits. -/
def read? (cs : List Char) : Option (ClockTime × List Char) := do
  let (hour, rest) ← Timestamp.fixedDigits? 2 cs
  let rest ← Timestamp.expect? ':' rest
  let (minute, rest) ← Timestamp.fixedDigits? 2 rest
  let rest ← Timestamp.expect? ':' rest
  let (second, rest) ← Timestamp.fixedDigits? 2 rest
  let (nanos, rest) ← Timestamp.fraction? rest
  some (⟨hour, minute, second, nanos⟩, rest)

/-- Whether a time of day ends by `lastHour`; the last second of a minute may be a leap second. -/
def within (lastHour : Nat) (t : ClockTime) : Bool :=
  t.hour ≤ lastHour && t.minute ≤ 59 && t.second ≤ 60

end ClockTime

namespace UtcOffset

def text : UtcOffset → String
  | utc => "Z"
  | shifted behind hours minutes =>
    let total := hours * 60 + minutes
    (if behind && total != 0 then "-" else "+") ++ Text.padded 2 (total / 60) ++ ":"
      ++ Text.padded 2 (total % 60)

def read? : List Char → Option UtcOffset
  | ['Z'] | ['z'] => some utc
  | sign :: rest =>
    if sign = '+' ∨ sign = '-' then do
      let (hours, rest) ← Timestamp.fixedDigits? 2 rest
      let rest ← Timestamp.expect? ':' rest
      let (minutes, rest) ← Timestamp.fixedDigits? 2 rest
      if rest.isEmpty then some (shifted (sign = '-') hours minutes) else none
    else none
  | [] => none

end UtcOffset

namespace Datetime

def text (d : Datetime) : String :=
  let date := d.date.map fun date =>
    Text.padded 4 date.year.natAbs ++ "-" ++ Text.padded 2 date.month ++ "-" ++
      Text.padded 2 date.day
  let time := d.time.map ClockTime.text
  date.getD "" ++ (if date.isSome && time.isSome then "T" else "") ++ time.getD ""
    ++ (d.offset.map UtcOffset.text).getD ""

/-- What follows a date: nothing, a time of day, an offset, or both. -/
def afterDate? (date : CalendarDate) (cs : List Char) : Option Datetime := do
  let (time, rest) ← match cs with
    | mark :: rest =>
      if mark = 'T' ∨ mark = 't' ∨ mark = ' ' then
        (ClockTime.read? rest).map fun (time, rest) => (some time, rest)
      else some (none, cs)
    | [] => some (none, cs)
  if rest.isEmpty then some ⟨some date, time, none⟩
  else (UtcOffset.read? rest).map fun offset => ⟨some date, time, some offset⟩

/-- The parts that a text names, without regard to the limits of times and offsets. A time of day
that stands alone has no offset. -/
def parts? (cs : List Char) : Option Datetime :=
  match Timestamp.date? cs with
  | some (date, rest) => afterDate? date rest
  | none =>
    (ClockTime.read? cs).bind fun (time, rest) =>
      if rest.isEmpty then some ⟨none, some time, none⟩ else none

def isLiteral (d : Datetime) : Bool :=
  d.time.all (ClockTime.within 23) && (d.offset.isNone || d.time.isSome)
    && d.offset.all fun offset => match offset with
      | .utc => true
      | .shifted _ hours minutes => hours ≤ 23 && minutes ≤ 59

/-- Whether the parts make up a date given as a text, which may name the end of a day. -/
def isQuotable (d : Datetime) : Bool :=
  d.time.all (ClockTime.within 24)
    && d.offset.all fun offset => match offset with
      | .utc => true
      | .shifted _ hours minutes => hours * 60 + minutes ≤ 24 * 60

def ofLiteral? (cs : List Char) : Option Datetime :=
  (parts? cs).filter isLiteral

def ofText? (s : String) : Option Datetime :=
  (parts? s.toList).filter isQuotable

end Datetime

end SchemaMocks.Toml
