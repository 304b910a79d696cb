import StandardsGate.Text.Blank
import StandardsGate.Text.Decimal

/-!
Points in time.

A time is written as in `2024-01-02T03:04:05.120Z`. It is read in the same form with some freedom:
another offset than `Z`, a blank in the place of the `T`, fewer digits, blanks between the parts. A
second numbered 60 is a leap second.

Main definitions:

* `Timestamp` — seconds since the beginning of 1970, and nanoseconds;
* `Timestamp.text` — the written form;
* `Timestamp.parse?` — the time of a text.
-/

namespace StandardsGate

/-- A point in time. In a leap second the nanoseconds exceed one second. -/
structure Timestamp where
  seconds : Int
  nanos : Nat
deriving DecidableEq, Repr, Inhabited

namespace Timestamp

/-! ### Dates -/

/-- The number of days from 1970-01-01 to a date of the Gregorian calendar. Years are counted from
March on, in cycles of 400. -/
def daysOfDate (year : Int) (month day : Nat) : Int :=
  let y := if month ≤ 2 then year - 1 else year
  let era := y.fdiv 400
  let yearOfEra := y - era * 400
  let monthIndex : Int := (if 2 < month then month - 3 else month + 9 : Nat)
  let dayOfYear := (153 * monthIndex + 2) / 5 + day - 1
  let dayOfEra := yearOfEra * 365 + yearOfEra / 4 - yearOfEra / 100 + dayOfYear
  era * 146097 + dayOfEra - 719468

/-- The date of a number of days. -/
def dateOfDays (days : Int) : Int × Nat × Nat :=
  let z := days + 719468
  let era := z.fdiv 146097
  let dayOfEra := z - era * 146097
  let yearOfEra := (dayOfEra - dayOfEra / 1460 + dayOfEra / 36524 - dayOfEra / 146096) / 365
  let dayOfYear := dayOfEra - (365 * yearOfEra + yearOfEra / 4 - yearOfEra / 100)
  let monthIndex := (5 * dayOfYear + 2) / 153
  let day := dayOfYear - (153 * monthIndex + 2) / 5 + 1
  let month := if monthIndex < 10 then monthIndex + 3 else monthIndex - 9
  let year := yearOfEra + era * 400 + (if month ≤ 2 then 1 else 0)
  (year, month.toNat, day.toNat)

/-- Whether a year has a 29th of February. -/
def isLeapYear (year : Int) : Bool := year % 4 = 0 && (year % 100 ≠ 0 || year % 400 = 0)

/-- The number of days of a month. -/
def monthLength (year : Int) (month : Nat) : Nat :=
  if month = 2 then (if isLeapYear year then 29 else 28)
  else if [4, 6, 9, 11].contains month then 30
  else 31

/-- The years that dates can have. -/
def firstYear : Int := -262143

/-- The years that dates can have. -/
def lastYear : Int := 262142

/-! ### Writing -/

/-- A number with zeros in front up to a width. -/
def padded (width n : Nat) : List Char :=
  let ds := (toString n).toList
  List.replicate (width - ds.length) '0' ++ ds

/-- A year: four digits, or a sign and at least four digits. -/
def yearText (year : Int) : List Char :=
  if 0 ≤ year && year ≤ 9999 then padded 4 year.toNat
  else (if year < 0 then '-' else '+') :: padded 4 year.natAbs

/-- The fraction of a second, in groups of three digits. -/
def fractionText (nanos : Nat) : List Char :=
  if nanos = 0 then []
  else if nanos % 1000000 = 0 then '.' :: padded 3 (nanos / 1000000)
  else if nanos % 1000 = 0 then '.' :: padded 6 (nanos / 1000)
  else '.' :: padded 9 nanos

/-- The written form of a time. -/
def text (t : Timestamp) : String :=
  let days := t.seconds.fdiv 86400
  let rest := (t.seconds - days * 86400).toNat
  let (year, month, day) := dateOfDays days
  let leap := 1000000000 ≤ t.nanos
  let second := rest % 60 + (if leap then 1 else 0)
  let nanos := if leap then t.nanos - 1000000000 else t.nanos
  String.ofList (yearText year ++ '-' :: padded 2 month ++ '-' :: padded 2 day ++ 'T' ::
    padded 2 (rest / 3600) ++ ':' :: padded 2 (rest / 60 % 60) ++ ':' :: padded 2 second ++
    fractionText nanos ++ ['Z'])

/-! ### Reading -/

/-- Reads a number of one digit at least and `width` digits at most, after blanks. -/
def readNumber (width : Nat) (cs : List Char) : Option (Nat × List Char) :=
  let cs := Text.trimStart cs
  let ds := (cs.take width).takeWhile Char.isDigit
  if ds.isEmpty then none else some (Text.decimalValue ds, cs.drop ds.length)

/-- Reads a year. With a sign it may have more than four digits. -/
def readYear (cs : List Char) : Option (Int × List Char) :=
  match Text.trimStart cs with
  | '-' :: rest => readSigned rest fun n => -(n : Int)
  | '+' :: rest => readSigned rest fun n => (n : Int)
  | cs => (readNumber 4 cs).map fun r => ((r.1 : Int), r.2)
where
  /-- Reads the digits behind a sign, which must follow at once. -/
  readSigned (rest : List Char) (sign : Nat → Int) : Option (Int × List Char) :=
    let ds := rest.takeWhile Char.isDigit
    if ds.isEmpty then none else some (sign (Text.decimalValue ds), rest.drop ds.length)

/-- Reads a sign between two numbers, after blanks. -/
def readSign (sign : Char) (cs : List Char) : Option (List Char) :=
  match Text.trimStart cs with
  | c :: rest => if c = sign then some rest else none
  | [] => none

/-- Reads the fraction of a second in nanoseconds. Digits behind the ninth do not count. -/
def readFraction (cs : List Char) : Option (Nat × List Char) :=
  match cs with
  | '.' :: rest =>
    let ds := rest.takeWhile Char.isDigit
    if ds.isEmpty then none
    else
      let kept := ds.take 9
      some (Text.decimalValue (kept ++ List.replicate (9 - kept.length) '0'),
        rest.drop ds.length)
  | _ => some (0, cs)

/-- Reads two digits. -/
def readTwoDigits (cs : List Char) : Option (Nat × List Char) :=
  match cs with
  | a :: b :: rest => if a.isDigit && b.isDigit then some (Text.decimalValue [a, b], rest) else none
  | _ => none

/-- Reads an offset from universal time, in seconds. -/
def readOffset (cs : List Char) : Option (Int × List Char) :=
  match cs with
  | 'Z' :: rest | 'z' :: rest => some (0, rest)
  | '+' :: rest => (readHours rest).map fun r => ((r.1 : Int), r.2)
  | '-' :: rest | '\u2212' :: rest => (readHours rest).map fun r => (-(r.1 : Int), r.2)
  | a :: b :: c :: rest =>
    if [a, b, c].map Char.toUpper = ['U', 'T', 'C'] then some (0, rest) else none
  | _ => none
where
  /-- Reads hours and minutes, with colons and blanks between them. -/
  readHours (cs : List Char) : Option (Nat × List Char) := do
    let (hours, cs) ← readTwoDigits cs
    let (minutes, cs) ← readTwoDigits (cs.dropWhile fun c => c == ':' || Text.isBlank c)
    if minutes < 60 then return (hours * 3600 + minutes * 60, cs) else none

/-- The time of a text. -/
def parseChars (cs : List Char) : Option Timestamp := do
  let (year, cs) ← readYear cs
  let cs ← readSign '-' cs
  let (month, cs) ← readNumber 2 cs
  let cs ← readSign '-' cs
  let (day, cs) ← readNumber 2 cs
  let cs ← match cs with
    | 't' :: rest | 'T' :: rest | ' ' :: rest => some rest
    | _ => none
  let (hour, cs) ← readNumber 2 cs
  let cs ← readSign ':' cs
  let (minute, cs) ← readNumber 2 cs
  let cs ← readSign ':' cs
  let (second, cs) ← readNumber 2 cs
  let (nanos, cs) ← readFraction cs
  let (offset, cs) ← readOffset (Text.trimStart cs)
  if !(Text.trimStart cs).isEmpty then none
  if !(firstYear ≤ year && year ≤ lastYear && 1 ≤ month && month ≤ 12 && 1 ≤ day &&
      day ≤ monthLength year month && hour ≤ 23 && minute ≤ 59 && second ≤ 60 &&
      -86400 < offset && offset < 86400) then none
  let shown := if second = 60 then 59 else second
  let local_ := daysOfDate year month day * 86400 + (hour * 3600 + minute * 60 + shown : Nat)
  return ⟨local_ - offset, if second = 60 then nanos + 1000000000 else nanos⟩

/-- The time of a text. -/
def parse? (s : String) : Option Timestamp := parseChars s.toList

end Timestamp

end StandardsGate
