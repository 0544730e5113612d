import ScanFlow.Number.Digits
import ScanFlow.Text.Blank

/-!
Instants on the universal time scale and their RFC 3339 text.

An instant is a count of seconds since 1970 and a part of a second. A part of a whole
second or more stands for a leap second, which counts as second 60 of its minute.
The reader is lenient: fields may be short, blanks may stand around them, and the
offset may be `Z`, `UTC` or a signed time. The writer always uses `Z`, and no, three,
six or nine places of a second.
-/

namespace ScanFlow

/-- An instant: seconds since 1970 in universal time, and nanoseconds. -/
structure Timestamp where
  seconds : Int
  nanos : Nat
  deriving DecidableEq, Repr

namespace Timestamp

/-- Days from 1970-01-01 to a date of the Gregorian calendar. Years are counted from
March, so that the leap day comes last. -/
def daysFromCivil (year : Int) (month day : Nat) : Int :=
  let y := if month ≤ 2 then year - 1 else year
  let era := y / 400
  let yearOfEra := y % 400
  let dayOfYear : Int := ((153 * ((month + 9) % 12) + 2) / 5 + day - 1 : Nat)
  era * 146097 + (yearOfEra * 365 + yearOfEra / 4 - yearOfEra / 100 + dayOfYear) - 719468

/-- The year, month and day of a number of days from 1970-01-01. -/
def civilFromDays (days : Int) : Int × Nat × Nat :=
  let z := days + 719468
  let era := z / 146097
  let dayOfEra := z % 146097
  let yearOfEra :=
    (dayOfEra - dayOfEra / 1460 + dayOfEra / 36524 - dayOfEra / 146096) / 365
  let dayOfYear := dayOfEra - (365 * yearOfEra + yearOfEra / 4 - yearOfEra / 100)
  let shifted := (5 * dayOfYear + 2) / 153
  let day := dayOfYear - (153 * shifted + 2) / 5 + 1
  let month := if shifted < 10 then shifted + 3 else shifted - 9
  let year := yearOfEra + era * 400
  (if month ≤ 2 then year + 1 else year, month.toNat, day.toNat)

def isLeapYear (year : Int) : Bool :=
  year % 4 == 0 && (year % 100 != 0 || year % 400 == 0)

def daysInMonth (year : Int) (month : Nat) : Nat :=
  if month = 2 then if isLeapYear year then 29 else 28
  else if month = 4 || month = 6 || month = 9 || month = 11 then 30
  else 31

/-- The years that the calendar covers. -/
def minYear : Int := -262143

def maxYear : Int := 262142

/-- A date as it is read, if the calendar has it. -/
def days? (year : Int) (month day : Nat) : Option Int :=
  if minYear ≤ year && year ≤ maxYear && 1 ≤ month && month ≤ 12 && 1 ≤ day &&
      day ≤ daysInMonth year month then
    some (daysFromCivil year month day)
  else none

/-! ### Reading -/

/-- Reads at most `most` digits, at least one. -/
def number? (most : Nat) (cs : List Char) : Option (Nat × List Char) :=
  let digits := (cs.take most).takeWhile Digits.isDigit
  if digits.isEmpty then none else some (Digits.value digits, cs.drop digits.length)

/-- Reads a field of at most two digits after blanks. -/
def field? (cs : List Char) : Option (Nat × List Char) := number? 2 (Text.trimFront cs)

/-- Reads one given character after blanks. -/
def mark? (mark : Char) (cs : List Char) : Option (List Char) :=
  match Text.trimFront cs with
  | c :: rest => if c = mark then some rest else none
  | [] => none

/-- Reads a year: four digits at most, or a sign and any number of digits. -/
def year? (cs : List Char) : Option (Int × List Char) :=
  match Text.trimFront cs with
  | '-' :: rest => (number? rest.length rest).map fun (n, more) => (-(n : Int), more)
  | '+' :: rest => (number? rest.length rest).map fun (n, more) => ((n : Int), more)
  | rest => (number? 4 rest).map fun (n, more) => ((n : Int), more)

/-- Reads a part of a second after its point; places beyond the ninth are dropped. -/
def nanos? (cs : List Char) : Option (Nat × List Char) :=
  match cs with
  | '.' :: rest => do
    let (n, more) ← number? 9 rest
    let places := rest.length - more.length
    return (n * 10 ^ (9 - places), more.dropWhile Digits.isDigit)
  | rest => some (0, rest)

/-- Reads a pair of digits without blanks before it. -/
def pair? : List Char → Option (Nat × List Char)
  | a :: b :: rest =>
    if Digits.isDigit a && Digits.isDigit b then some (Digits.value [a, b], rest) else none
  | _ => none

/-- Reads an offset in seconds: `Z`, `UTC` in any case, or a signed number of hours and
minutes, with colons or blanks between them. The sign may be a minus sign proper. -/
def offset? (cs : List Char) : Option (Int × List Char) :=
  if Text.lower (String.ofList (cs.take 3)) = "utc" then some (0, cs.drop 3)
  else
    match cs with
    | 'Z' :: rest => some (0, rest)
    | 'z' :: rest => some (0, rest)
    | sign :: rest =>
      if sign = '+' || sign = '-' || sign = '−' then do
        let (hours, rest) ← pair? rest
        let (minutes, rest) ← pair? (rest.dropWhile fun c => c = ':' || Text.isBlank c)
        let size : Int := hours * 3600 + minutes * 60
        if minutes < 60 && size < 86400 then
          return (if sign = '+' then size else -size, rest)
        else none
      else none
    | [] => none

/-- The instant of a local date and time at an offset. Second 60 is a leap second. -/
def ofFields? (year : Int) (month day hour minute second nanos : Nat) (offset : Int) :
    Option Timestamp := do
  let days ← days? year month day
  if hour < 24 && minute < 60 && second ≤ 60 then
    let leap := second = 60
    let clock : Int := hour * 3600 + minute * 60 + (if leap then 59 else second)
    let seconds := days * 86400 + clock - offset
    let result : Timestamp := ⟨seconds, if leap then nanos + 1000000000 else nanos⟩
    if daysFromCivil minYear 1 1 ≤ seconds / 86400 &&
        seconds / 86400 < daysFromCivil (maxYear + 1) 1 1 then
      return result
    else none
  else none

/-- Reads an instant; nothing but blanks may follow it. -/
def ofChars? (cs : List Char) : Option Timestamp := do
  let (year, cs) ← year? cs
  let cs ← mark? '-' cs
  let (month, cs) ← field? cs
  let cs ← mark? '-' cs
  let (day, cs) ← field? cs
  let cs ← match cs with
    | c :: rest => if c = 'T' || c = 't' || c = ' ' then some rest else none
    | [] => none
  let (hour, cs) ← field? cs
  let cs ← mark? ':' cs
  let (minute, cs) ← field? cs
  let cs ← mark? ':' cs
  let (second, cs) ← field? cs
  let (nanos, cs) ← nanos? cs
  let (offset, cs) ← offset? (Text.trimFront cs)
  if cs.all Text.isBlank then ofFields? year month day hour minute second nanos offset
  else none

def parse? (text : String) : Option Timestamp := ofChars? text.toList

/-! ### Writing -/

/-- The digits of `n`, padded with zeros in front to `width`. -/
def padded (width n : Nat) : String :=
  let digits := Digits.chars n
  String.ofList (List.replicate (width - digits.length) '0' ++ digits)

/-- A year of four digits; any other year has a sign. -/
def yearText (year : Int) : String :=
  if 0 ≤ year && year ≤ 9999 then padded 4 year.toNat
  else (if year < 0 then "-" else "+") ++ padded 4 year.natAbs

/-- The part of a second: no, three, six or nine places. -/
def nanosText (nanos : Nat) : String :=
  if nanos = 0 then ""
  else if nanos % 1000000 = 0 then "." ++ padded 3 (nanos / 1000000)
  else if nanos % 1000 = 0 then "." ++ padded 6 (nanos / 1000)
  else "." ++ padded 9 nanos

def toString (t : Timestamp) : String :=
  let (year, month, day) := civilFromDays (t.seconds / 86400)
  let clock := (t.seconds % 86400).toNat
  let leap := t.nanos / 1000000000
  yearText year ++ "-" ++ padded 2 month ++ "-" ++ padded 2 day ++ "T" ++
    padded 2 (clock / 3600) ++ ":" ++ padded 2 (clock / 60 % 60) ++ ":" ++
    padded 2 (clock % 60 + leap) ++ nanosText (t.nanos % 1000000000) ++ "Z"

instance : ToString Timestamp := ⟨toString⟩

/-- The whole time from `earlier` to `later` in nanoseconds; zero if it is negative. -/
def elapsed (earlier later : Timestamp) : Nat :=
  ((later.seconds - earlier.seconds) * 1000000000 + later.nanos - earlier.nanos).toNat

end Timestamp

end ScanFlow
