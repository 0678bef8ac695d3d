import SchemaMocks.Proofs.Calendar.Days
import SchemaMocks.Proofs.Config.Stated
import SchemaMocks.Proofs.Json.Numbers

set_option autoImplicit false
set_option relaxedAutoImplicit false

/-!
Points in time, written and read. A written form is made of numbers with a fixed count of digits,
and each of them is read back. What a text states may be a leap second, and then it is the last
second of a minute, for offsets are whole minutes. Such a point in time, cut off below the
millisecond, is read back from its written form if its year has four digits; years with a sign are
not read.
-/

namespace SchemaMocks

namespace Text

private theorem toList_padded (width n : Nat) :
    (padded width n).toList =
      List.replicate (width - (Nat.toDigits 10 n).length) '0' ++ Nat.toDigits 10 n := by
  have hlength : (toString n).length = (Nat.toDigits 10 n).length := by
    rw [← String.length_toList, Json.toList_toString]
  rw [padded, String.toList_append, String.toList_ofList, Json.toList_toString, hlength]

private theorem isDigits_toList_padded (width n : Nat) : Json.IsDigits (padded width n).toList := by
  rw [toList_padded]
  exact Json.isDigits_padded (Json.isDigits_toDigits n) _

private theorem length_toList_padded {width n : Nat} (hwidth : 0 < width) (hn : n < tenTo width) :
    (padded width n).toList.length = width := by
  have hlength : (Nat.toDigits 10 n).length ≤ width :=
    (Nat.length_toDigits_le_iff (by decide) hwidth).2 hn
  rw [toList_padded, List.length_append, List.length_replicate]
  omega

private theorem digitsValue_zeros (count : Nat) (cs : List Char) :
    digitsValue 0 (List.replicate count '0' ++ cs) = digitsValue 0 cs := by
  induction count with
  | zero => rfl
  | succ count ih =>
    rw [List.replicate_succ, List.cons_append, Json.digitsValue_cons]
    exact ih

private theorem digitsValue_padded (width n : Nat) : digitsValue 0 (padded width n).toList = n := by
  rw [toList_padded, digitsValue_zeros, Json.digitsValue_toDigits]

end Text

namespace Timestamp

section Numbers

variable {width n : Nat} (hwidth : 0 < width) (hn : n < tenTo width)

include hwidth hn

private theorem fixedDigits?_padded (rest : List Char) :
    fixedDigits? width ((Text.padded width n).toList ++ rest) = some (n, rest) := by
  have hlength := Text.length_toList_padded hwidth hn
  have hdigits := Text.isDigits_toList_padded width n
  have hread : Text.digits? (Text.padded width n).toList = some n :=
    Text.digits?_eq_some_iff.2 ⟨hdigits.1, hdigits.2, Text.digitsValue_padded width n⟩
  unfold fixedDigits?
  rw [List.take_left' hlength, List.drop_left' hlength, if_pos hlength, hread, Option.map_some]

private theorem fraction?_padded (hmost : width ≤ 9) {rest : List Char}
    (hrest : ∀ c ∈ rest.head?, c.isDigit = false) :
    fraction? ('.' :: ((Text.padded width n).toList ++ rest)) =
      some (n * tenTo (9 - width), rest) := by
  have hlength := Text.length_toList_padded hwidth hn
  have hdigits := Text.isDigits_toList_padded width n
  have hspan := Json.span_isDigit hdigits.2 hrest
  have hkept : (Text.padded width n).toList.take 9 = (Text.padded width n).toList :=
    List.take_of_length_le (by omega)
  simp only [fraction?, hspan, hkept, List.isEmpty_iff, if_neg hdigits.1, hlength,
    Text.digitsValue_padded]

end Numbers

section Parts

variable {rest : List Char}

private theorem expect?_cons (c : Char) : expect? c (c :: rest) = some rest :=
  if_pos rfl

private theorem date?_written {date : CalendarDate} (hvalid : date.isValid = true)
    (hfirst : 0 ≤ date.year) (hlast : date.year ≤ 9999) :
    date? ((yearText date.year).toList ++ '-' :: ((Text.padded 2 date.month).toList ++
      '-' :: ((Text.padded 2 date.day).toList ++ rest))) = some (date, rest) := by
  obtain ⟨hmonth, hday⟩ := CalendarDate.bounds_of_isValid hvalid
  obtain ⟨year, month, day⟩ := date
  obtain ⟨y, rfl⟩ := Int.eq_ofNat_of_zero_le hfirst
  have htext : yearText y = Text.padded 4 y := if_pos ⟨hfirst, hlast⟩
  have hfour : 0 < 4 := by decide
  have hy : y < tenTo 4 := Nat.lt_succ_of_le (Int.ofNat_le.1 hlast)
  have hm : month < tenTo 2 := Nat.lt_of_le_of_lt hmonth (by decide)
  have hd : day < tenTo 2 := Nat.lt_of_le_of_lt hday (by decide)
  simp only [date?, htext, fixedDigits?_padded hfour hy, fixedDigits?_padded Nat.two_pos hm,
    fixedDigits?_padded Nat.two_pos hd, expect?_cons, Option.bind_eq_bind, Option.bind_some,
    if_pos hvalid]

private theorem time?_padded {hour minute second millis : Nat} (hhour : hour ≤ 23)
    (hminute : minute ≤ 59)
    (hsecond : second ≤ 60) (hmillis : millis < tenTo 3)
    (hrest : ∀ c ∈ rest.head?, c.isDigit = false) :
    time? ((Text.padded 2 hour).toList ++ ':' :: ((Text.padded 2 minute).toList ++
        ':' :: ((Text.padded 2 second).toList ++ '.' :: ((Text.padded 3 millis).toList ++ rest)))) =
      if second = 60 then
        some (hour * 3600 + minute * 60 + 59, nanosPerSecond + millis * 1000000, rest)
      else some (hour * 3600 + minute * 60 + second, millis * 1000000, rest) := by
  have htwo : tenTo 2 = 100 := rfl
  have hcount : hour ≤ 23 ∧ minute ≤ 59 ∧ second ≤ 60 := ⟨hhour, hminute, hsecond⟩
  have hthree : 0 < 3 := by decide
  have hfraction := fraction?_padded hthree hmillis (by decide) hrest
  simp only [time?, fixedDigits?_padded Nat.two_pos (by omega : hour < tenTo 2),
    fixedDigits?_padded Nat.two_pos (by omega : minute < tenTo 2),
    fixedDigits?_padded Nat.two_pos (by omega : second < tenTo 2), expect?_cons, hfraction,
    Option.bind_eq_bind, Option.bind_some, if_pos hcount]
  rfl

private theorem date?_of_not_isDigit {c : Char} (hc : c.isDigit = false) :
    date? (c :: rest) = none := by
  have hdigits : Text.digits? (c :: rest.take 3) = none := by
    unfold Text.digits?
    simp [hc]
  have hyear : fixedDigits? 4 (c :: rest) = none := by
    unfold fixedDigits?
    rw [List.take_succ_cons, hdigits, Option.map_none, ite_self]
  unfold date?
  rw [hyear]
  rfl

private theorem fraction?_lt {cs : List Char} {n : Nat} (h : fraction? cs = some (n, rest)) :
    n < nanosPerSecond := by
  unfold fraction? at h
  split at h
  · rename_i cs
    rw [List.span_eq_takeWhile_dropWhile] at h
    obtain ⟨kept, hkept⟩ : ∃ kept, kept = (cs.takeWhile Char.isDigit).take 9 := ⟨_, rfl⟩
    simp only [← hkept, Option.ite_none_left_eq_some, Option.some.injEq, Prod.mk.injEq] at h
    obtain ⟨-, rfl, -⟩ := h
    have hdigits : ∀ c ∈ kept, c.isDigit = true := by
      intro c hc
      rw [hkept] at hc
      exact List.mem_takeWhile_imp (List.mem_of_mem_take hc)
    have hlength : kept.length ≤ 9 := hkept ▸ List.length_take_le _ _
    calc Text.digitsValue 0 kept * tenTo (9 - kept.length)
        < (0 + 1) * tenTo kept.length * tenTo (9 - kept.length) :=
          Nat.mul_lt_mul_of_pos_right (Json.digitsValue_lt hdigits 0) (tenTo_pos _)
      _ = tenTo (kept.length + (9 - kept.length)) := by
          rw [Nat.zero_add, Nat.one_mul, tenTo_eq_pow, tenTo_eq_pow, tenTo_eq_pow, pow_add]
      _ = nanosPerSecond := by rw [Nat.add_sub_cancel' hlength]; rfl
  · cases h
    decide

private theorem time?_regular {cs : List Char} {second nanos : Nat}
    (h : time? cs = some (second, nanos, rest)) :
    nanos < 2 * nanosPerSecond ∧ (nanosPerSecond ≤ nanos → second % 60 = 59) := by
  unfold time? at h
  simp only [Option.bind_eq_bind, Option.bind_eq_some_iff, Prod.exists] at h
  obtain ⟨hour, _, -, _, -, minute, _, -, _, -, s, _, -, n, _, hfraction, h⟩ := h
  have hn := fraction?_lt hfraction
  split_ifs at h with hcount hleap
  · cases h
    omega
  · cases h
    omega

private theorem offset?_minutes {cs : List Char} {offset : Int} (h : offset? cs = some offset) :
    offset % 60 = 0 := by
  unfold offset? at h
  split at h
  · cases h
  · rename_i sign rest
    split at h
    · split at h
      · cases h
        rfl
      · cases h
    · split at h
      · simp only [Option.bind_eq_bind, Option.bind_eq_some_iff, Prod.exists,
          Option.ite_none_right_eq_some, Option.some.injEq] at h
        obtain ⟨hours, _, -, _, -, minutes, _, -, -, rfl⟩ := h
        split <;> omega
      · cases h

end Parts

structure IsRegular (t : Timestamp) : Prop where
  nanos_lt : t.nanos < 2 * nanosPerSecond
  leap : nanosPerSecond ≤ t.nanos → t.seconds % 60 = 59

/-- The year of a point in time, in UTC. -/
def year (t : Timestamp) : Int :=
  (CalendarDate.ofDay (t.seconds / secondsPerDay)).year

/-- A point in time without what is below its millisecond. -/
def toMillis (t : Timestamp) : Timestamp :=
  ⟨t.seconds, t.nanos / 1000000 * 1000000⟩

private theorem isRegular_of_ofText? {s : String} {t : Timestamp} (h : ofText? s = some t) :
    t.IsRegular := by
  unfold ofText? ofChars? at h
  simp only [Option.bind_eq_bind, Option.bind_eq_some_iff, Prod.exists] at h
  obtain ⟨date, rest, -, h⟩ := h
  split at h
  · cases h
  · split at h
    · simp only [Option.bind_eq_some_iff, Prod.exists] at h
      obtain ⟨second, nanos, _, htime, offset, hoffset, h⟩ := h
      obtain ⟨hnanos, hleap⟩ := time?_regular htime
      have hminutes := offset?_minutes hoffset
      cases h
      refine ⟨hnanos, fun hnext => ?_⟩
      have hlast := hleap hnext
      -- days and offsets are whole minutes, and so the second of the minute is the one stated
      show (date.toDay * 86400 + (second - offset)) % 60 = 59
      omega
    · cases h

section Written

variable {t : Timestamp}

def secondOfDay (t : Timestamp) : Nat :=
  (t.seconds % secondsPerDay).toNat

def writtenSecond (t : Timestamp) : Nat :=
  t.secondOfDay % 60 + if nanosPerSecond ≤ t.nanos then 1 else 0

def writtenMillis (t : Timestamp) : Nat :=
  (if nanosPerSecond ≤ t.nanos then t.nanos - nanosPerSecond else t.nanos) / 1000000

private theorem secondOfDay_spec (t : Timestamp) :
    (t.secondOfDay : Int) = t.seconds % 86400 ∧ t.secondOfDay < 86400 := by
  have hday : t.secondOfDay = (t.seconds % 86400).toNat := rfl
  omega

private theorem writtenMillis_lt (h : t.IsRegular) : t.writtenMillis < tenTo 3 := by
  have hnanos : t.nanos < 2 * 1000000000 := h.nanos_lt
  have hthousand : tenTo 3 = 1000 := rfl
  have hbillion : nanosPerSecond = 1000000000 := rfl
  unfold writtenMillis
  split <;> omega

private theorem time?_written (h : t.IsRegular) {rest : List Char}
    (hrest : ∀ c ∈ rest.head?, c.isDigit = false) :
    time? ((Text.padded 2 (t.secondOfDay / 3600)).toList ++ ':' ::
      ((Text.padded 2 (t.secondOfDay / 60 % 60)).toList ++ ':' ::
        ((Text.padded 2 t.writtenSecond).toList ++ '.' ::
          ((Text.padded 3 t.writtenMillis).toList ++ rest)))) =
      some (t.secondOfDay, t.nanos / 1000000 * 1000000, rest) := by
  obtain ⟨hsecond, hday⟩ := t.secondOfDay_spec
  have hbillion : nanosPerSecond = 1000000000 := rfl
  have hwritten : t.writtenSecond =
      t.secondOfDay % 60 + if nanosPerSecond ≤ t.nanos then 1 else 0 := rfl
  have hmillis : t.writtenMillis =
      (if nanosPerSecond ≤ t.nanos then t.nanos - nanosPerSecond else t.nanos) / 1000000 := rfl
  by_cases hnext : nanosPerSecond ≤ t.nanos
  · -- the sixtieth second is written, and read as the last one of the minute and a second more
    have hlast := h.leap hnext
    rw [if_pos hnext] at hwritten hmillis
    rw [time?_padded (by omega) (by omega) (by omega) (writtenMillis_lt h) hrest,
      if_pos (by omega), Option.some.injEq, Prod.mk.injEq, Prod.mk.injEq]
    exact ⟨by omega, by omega, rfl⟩
  · rw [if_neg hnext] at hwritten hmillis
    rw [time?_padded (by omega) (by omega) (by omega) (writtenMillis_lt h) hrest,
      if_neg (by omega), Option.some.injEq, Prod.mk.injEq, Prod.mk.injEq]
    exact ⟨by omega, by omega, rfl⟩

private theorem toList_formatMillis {date : CalendarDate}
    (hdate : CalendarDate.ofDay (t.seconds / secondsPerDay) = date) :
    t.formatMillis.toList = (yearText date.year).toList ++ '-' ::
      ((Text.padded 2 date.month).toList ++ '-' :: ((Text.padded 2 date.day).toList ++ 'T' ::
        ((Text.padded 2 (t.secondOfDay / 3600)).toList ++ ':' ::
          ((Text.padded 2 (t.secondOfDay / 60 % 60)).toList ++ ':' ::
            ((Text.padded 2 t.writtenSecond).toList ++ '.' ::
              ((Text.padded 3 t.writtenMillis).toList ++ ['Z'])))))) := by
  have hdash : "-".toList = ['-'] := rfl
  have htime : "T".toList = ['T'] := rfl
  have hcolon : ":".toList = [':'] := rfl
  have hpoint : ".".toList = ['.'] := rfl
  have hzone : "Z".toList = ['Z'] := rfl
  unfold formatMillis civilText
  simp only [hdate, String.toList_append, List.append_assoc, hdash, htime, hcolon, hpoint, hzone,
    List.cons_append, List.nil_append, secondOfDay, writtenSecond, writtenMillis]

private theorem ofText?_formatMillis (h : t.IsRegular) (hfirst : 0 ≤ t.year)
    (hlast : t.year ≤ 9999) :
    ofText? t.formatMillis = some t.toMillis := by
  have hvalid := CalendarDate.isValid_ofDay (t.seconds / secondsPerDay)
  have hday := CalendarDate.toDay_ofDay (t.seconds / secondsPerDay)
  obtain ⟨hsecond, -⟩ := t.secondOfDay_spec
  have hzone : offset? ['Z'] = some 0 := rfl
  have hmark : ∀ c ∈ ['Z'].head?, c.isDigit = false := by
    intro c hc
    obtain rfl : 'Z' = c := Option.some.inj hc
    rfl
  have hseconds : t.seconds / secondsPerDay * secondsPerDay + ((t.secondOfDay : Int) - 0) =
      t.seconds := by
    show t.seconds / 86400 * 86400 + ((t.secondOfDay : Int) - 0) = t.seconds
    omega
  unfold ofText? ofChars?
  rw [toList_formatMillis rfl, date?_written hvalid hfirst hlast]
  simp only [Option.bind_eq_bind, Option.bind_some, true_or, if_true]
  rw [time?_written h hmark, Option.bind_some, hzone, Option.bind_some, ofCivil, hday,
    hseconds]
  rfl

private theorem formatMillis_toMillis (t : Timestamp) :
    t.toMillis.formatMillis = t.formatMillis := by
  have hbillion : nanosPerSecond = 1000000000 := rfl
  have hnext : nanosPerSecond ≤ t.nanos / 1000000 * 1000000 ↔ nanosPerSecond ≤ t.nanos := by omega
  have hsecond : t.toMillis.writtenSecond = t.writtenSecond := by
    simp only [writtenSecond, secondOfDay, toMillis, hnext]
  have hmillis : t.toMillis.writtenMillis = t.writtenMillis := by
    simp only [writtenMillis, toMillis, hnext]
    split <;> omega
  have hday : t.toMillis.secondOfDay = t.secondOfDay := rfl
  have hdate : CalendarDate.ofDay (t.toMillis.seconds / secondsPerDay) =
      CalendarDate.ofDay (t.seconds / secondsPerDay) := rfl
  rw [← String.toList_inj, toList_formatMillis hdate, toList_formatMillis rfl, hsecond, hmillis,
    hday]

private theorem ofText?_formatMillis_of_sign (hyear : ¬(0 ≤ t.year ∧ t.year ≤ 9999)) :
    ofText? t.formatMillis = none := by
  have hsign : ∃ sign, sign.isDigit = false ∧
      (yearText t.year).toList = sign :: (Text.padded 4 t.year.natAbs).toList := by
    unfold yearText
    rw [if_neg hyear, String.toList_append]
    split
    · exact ⟨'-', rfl, rfl⟩
    · exact ⟨'+', rfl, rfl⟩
  obtain ⟨sign, hdigit, htext⟩ := hsign
  unfold year at htext
  unfold ofText? ofChars?
  rw [toList_formatMillis rfl, htext, List.cons_append, date?_of_not_isDigit hdigit]
  rfl

end Written

/-- The text of a point in time once it is written again: up to the millisecond, in UTC. Other texts
stay as they are. -/
def rewritten (s : String) : String :=
  match ofText? s with
  | some t => t.formatMillis
  | none => s

section Rewriting

variable {s : String} {t : Timestamp}

private theorem rewritten_of_some (h : ofText? s = some t) : rewritten s = t.formatMillis := by
  rw [rewritten, h]

private theorem rewritten_of_none (h : ofText? s = none) : rewritten s = s := by
  rw [rewritten, h]

theorem ofText?_rewritten (h : ofText? s = some t) (hfirst : 0 ≤ t.year) (hlast : t.year ≤ 9999) :
    ofText? (rewritten s) = some t.toMillis := by
  rw [rewritten_of_some h]
  exact ofText?_formatMillis (isRegular_of_ofText? h) hfirst hlast

theorem rewritten_rewritten (s : String) : rewritten (rewritten s) = rewritten s := by
  cases h : ofText? s with
  | none => rw [rewritten_of_none h, rewritten_of_none h]
  | some t =>
    by_cases hyear : 0 ≤ t.year ∧ t.year ≤ 9999
    · have hread := ofText?_rewritten h hyear.1 hyear.2
      rw [rewritten_of_some hread, formatMillis_toMillis, rewritten_of_some h]
    · rw [rewritten_of_some h, rewritten_of_none (ofText?_formatMillis_of_sign hyear)]

end Rewriting

end Timestamp

end SchemaMocks
