/-
Module: Wts.App.Calendars
Purpose: The calendar routines of the log reader, of the ActivityWatch reader and of the dates.
-/
import Wts.App.AgentObservation
import Wts.App.TimeReviewSchedule

namespace Wts.Calendars

open Text
open AgentObservation (parseI64 civilDays)
open TimeReview (checked64)

structure TimeParts (α : Type) where
  (year month day hour minute second fraction : α)

/-- The texts that `rfc3339_to_unix_ms` reads as numbers. -/
def cutTime (value : String) : Option (TimeParts String) := do
  let value ← if endsWith "Z" value then some (String.ofList value.toList.dropLast) else none
  let (date, time) ← splitOnce 'T' value
  let (year, date) ← splitOnce '-' date
  let (month, day) ← splitOnce '-' date
  let (clock, fraction) := (splitOnce '.' time).getD (time, "0")
  let (hour, clock) ← splitOnce ':' clock
  let (minute, second) ← splitOnce ':' clock
  some ⟨year, month, day, hour, minute, second, fraction⟩

def milliDigits (fraction : String) : String :=
  String.ofList ((fraction.toList ++ List.replicate (3 - fraction.toList.length) '0').take 3)

/-- The numbers of the texts, when they pass the checks before the arithmetic. -/
def readTime (texts : TimeParts String) : Option (TimeParts ℤ) := do
  let year ← parseI64 texts.year
  let month ← parseI64 texts.month
  let day ← parseI64 texts.day
  let hour ← parseI64 texts.hour
  let minute ← parseI64 texts.minute
  let second ← parseI64 texts.second
  if 1 ≤ month ∧ month ≤ 12 ∧ 1 ≤ day ∧ day ≤ 31 ∧ hour ≤ 23 ∧ minute ≤ 59 ∧ second ≤ 60 then
    let millis ← parseI64 (milliDigits texts.fraction)
    some ⟨year, month, day, hour, minute, second, millis⟩
  else none

def unixMs (n : TimeParts ℤ) : ℤ :=
  (civilDays n.year n.month n.day * 86400 + n.hour * 3600 + n.minute * 60 + n.second) * 1000 + n.fraction

/-- The value of each operation of the arithmetic, in the source's order. -/
def arithmetic (n : TimeParts ℤ) : List ℤ :=
  let (y, m) := if n.month ≤ 2 then (n.year - 1, n.month + 9) else (n.year, n.month - 3)
  let era := y / 400
  let yearOfEra := y - era * 400
  let monthDays := (153 * m + 2) / 5
  let years := yearOfEra * 365 + yearOfEra / 4
  let dayOfYear := monthDays + n.day - 1
  let dayOfEra := years - yearOfEra / 100 + dayOfYear
  let days := era * 146097 + dayOfEra - 719468
  let seconds := days * 86400 + n.hour * 3600 + n.minute * 60 + n.second
  [y, m, era, era * 400, yearOfEra, 153 * m, 153 * m + 2, monthDays, monthDays + n.day, dayOfYear,
    yearOfEra * 365, yearOfEra / 4, years, yearOfEra / 100, years - yearOfEra / 100, dayOfEra,
    era * 146097, era * 146097 + dayOfEra, days, days * 86400, n.hour * 3600,
    days * 86400 + n.hour * 3600, n.minute * 60, days * 86400 + n.hour * 3600 + n.minute * 60,
    seconds, seconds * 1000, seconds * 1000 + n.fraction]

/-! ### The ActivityWatch reader -/

def parseDigits (digits : List Char) : Option ℕ :=
  if digits ≠ [] ∧ digits.all Char.isDigit ∧ Nat.ofDigitChars 10 digits 0 < 2 ^ 32 then
    some (Nat.ofDigitChars 10 digits 0)
  else none

def daysInMonth (year month : ℤ) : ℤ :=
  if month = 2 then
    if year % 4 = 0 ∧ (year % 100 ≠ 0 ∨ year % 400 = 0) then 29 else 28
  else if month ∈ [4, 6, 9, 11] then 30
  else 31

def daysFromCivil (year month day : ℤ) : ℤ :=
  let adjustedYear := year - if month ≤ 2 then 1 else 0
  let era := adjustedYear / 400
  let yearOfEra := adjustedYear - era * 400
  let adjustedMonth := month + if 2 < month then -3 else 9
  let dayOfYear := (153 * adjustedMonth + 2) / 5 + day - 1
  let dayOfEra := yearOfEra * 365 + yearOfEra / 4 - yearOfEra / 100 + dayOfYear
  era * 146097 + dayOfEra - 719468

/-- The milliseconds of a fraction and what follows it. -/
def readFraction : List Char → Option (ℤ × List Char)
  | '.' :: rest =>
    let fraction := rest.takeWhile Char.isDigit
    let digit := fun place => fraction[place]?.elim 0 fun c => ((c.toNat - 48 : ℕ) : ℤ)
    if fraction = [] then none
    else some (digit 0 * 100 + digit 1 * 10 + digit 2, rest.dropWhile Char.isDigit)
  | rest => some (0, rest)

def readOffset : List Char → Option ℤ
  | ['Z'] | ['z'] => some 0
  | [sign, hour, hour', ':', minute, minute'] =>
    if sign = '+' ∨ sign = '-' then do
      let offsetHour ← parseDigits [hour, hour']
      let offsetMinute ← parseDigits [minute, minute']
      if 23 < offsetHour ∨ 59 < offsetMinute then none
      else
        let offset := (offsetHour * 3600 + offsetMinute * 60 : ℤ)
        some (if sign = '+' then offset else -offset)
    else none
  | _ => none

/-- The positions are those of bytes: all that is accepted is ASCII. -/
def parseRfc3339Milliseconds (value : String) : Option ℤ := do
  let bytes := value.toList
  if bytes.length < 20 ∨ bytes[4]? ≠ some '-' ∨ bytes[7]? ≠ some '-' ∨
      bytes[10]? ∉ [some 'T', some 't', some ' '] ∨ bytes[13]? ≠ some ':' ∨ bytes[16]? ≠ some ':' then
    none
  else
    let year ← parseDigits (bytes.take 4)
    let month ← parseDigits ((bytes.drop 5).take 2)
    let day ← parseDigits ((bytes.drop 8).take 2)
    let hour ← parseDigits ((bytes.drop 11).take 2)
    let minute ← parseDigits ((bytes.drop 14).take 2)
    let second ← parseDigits ((bytes.drop 17).take 2)
    if 1 ≤ month ∧ month ≤ 12 ∧ 1 ≤ day ∧ day ≤ daysInMonth year month ∧ hour ≤ 23 ∧ minute ≤ 59 ∧
        second ≤ 59 then
      let (milliseconds, rest) ← readFraction (bytes.drop 19)
      let offset ← readOffset rest
      let days ← checked64 (daysFromCivil year month day * 86400)
      let clock ← checked64 (days + (hour * 3600 + minute * 60 + second))
      let seconds ← checked64 (clock - offset)
      let whole ← checked64 (seconds * 1000)
      checked64 (whole + milliseconds)
    else none

def civilOfEra (shifted era : ℤ) : ℤ × ℤ × ℤ :=
  let dayOfEra := shifted - era * 146097
  let yearOfEra := (dayOfEra - dayOfEra / 1460 + dayOfEra / 36524 - dayOfEra / 146096) / 365
  let year := yearOfEra + era * 400
  let dayOfYear := dayOfEra - (365 * yearOfEra + yearOfEra / 4 - yearOfEra / 100)
  let monthPrime := (5 * dayOfYear + 2) / 153
  let day := dayOfYear - (153 * monthPrime + 2) / 5 + 1
  let month := monthPrime + if monthPrime < 10 then 3 else -9
  (year + if month ≤ 2 then 1 else 0, month, day)

def civilFromDays (days : ℤ) : ℤ × ℤ × ℤ :=
  civilOfEra (days + 719468) ((days + 719468) / 146097)

/-- The format `{value:0width}` of a signed number. -/
def paddedInt (width : ℕ) (value : ℤ) : String :=
  if value < 0 then "-" ++ padded (width - 1) value.natAbs else padded width value.toNat

def dateText (date : ℤ × ℤ × ℤ) : String :=
  paddedInt 4 date.1 ++ "-" ++ paddedInt 2 date.2.1 ++ "-" ++ paddedInt 2 date.2.2

def unixMillisecondsToRfc3339 (value : ℤ) : Option String :=
  if value < 0 then none
  else
    let seconds := value / 1000
    let secondsInDay := seconds % 86400
    some (dateText (civilFromDays (seconds / 86400)) ++ "T" ++ paddedInt 2 (secondsInDay / 3600) ++ ":" ++
      paddedInt 2 (secondsInDay % 3600 / 60) ++ ":" ++ paddedInt 2 (secondsInDay % 60) ++ "." ++
      paddedInt 3 (value % 1000) ++ "Z")

def utcDateForUnixMs (unixMs : ℤ) : String :=
  let shifted := unixMs / 86400000 + 719468
  dateText (civilOfEra shifted ((if 0 ≤ shifted then shifted else shifted - 146096).tdiv 146097))

end Wts.Calendars
