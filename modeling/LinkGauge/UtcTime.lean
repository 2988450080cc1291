import LinkGauge.Text.Decimal
import LinkGauge.Text.Split

/-!
# Civil time

Days of the calendar, moments in Coordinated Universal Time, and their texts.
-/

namespace LinkGauge

/-!
## The civil calendar

Days are counted from the first of January 1970. A year is counted from March here,
so that the leap day is its last day; four hundred years have 146097 days.
-/

/-- A date of the Gregorian calendar, extended to all years. -/
structure CivilDate where
  year : Int
  month : Nat
  day : Nat
  deriving DecidableEq, Repr

namespace CivilDate

/-- The date with the given number of days since 1970. -/
def ofDays (days : Int) : CivilDate :=
  let shifted := days + 719468
  let era := shifted.fdiv 146097
  let dayOfEra := (shifted.fmod 146097).toNat
  let yearOfEra :=
    (dayOfEra - dayOfEra / 1460 + dayOfEra / 36524 - dayOfEra / 146096) / 365
  let dayOfYear := dayOfEra - (365 * yearOfEra + yearOfEra / 4 - yearOfEra / 100)
  let monthFromMarch := (5 * dayOfYear + 2) / 153
  let day := dayOfYear - (153 * monthFromMarch + 2) / 5 + 1
  let month := if monthFromMarch < 10 then monthFromMarch + 3 else monthFromMarch - 9
  { year := yearOfEra + era * 400 + (if month ≤ 2 then 1 else 0), month, day }

/-- The number of days since 1970. -/
def days (d : CivilDate) : Int :=
  let year := if d.month ≤ 2 then d.year - 1 else d.year
  let era := year.fdiv 400
  let yearOfEra := (year.fmod 400).toNat
  let monthFromMarch := if 2 < d.month then d.month - 3 else d.month + 9
  let dayOfYear := (153 * monthFromMarch + 2) / 5 + d.day - 1
  let dayOfEra := yearOfEra * 365 + yearOfEra / 4 - yearOfEra / 100 + dayOfYear
  era * 146097 + dayOfEra - 719468

/-- Whether a year has a leap day. -/
def isLeap (year : Int) : Bool :=
  year.fmod 4 == 0 && (year.fmod 100 != 0 || year.fmod 400 == 0)

/-- The number of days of a month. -/
def daysInMonth (year : Int) (month : Nat) : Nat :=
  match month with
  | 2 => if isLeap year then 29 else 28
  | 4 | 6 | 9 | 11 => 30
  | _ => 31

/-- Whether a date exists. -/
def exists? (d : CivilDate) : Bool :=
  1 ≤ d.month && d.month ≤ 12 && 1 ≤ d.day && d.day ≤ daysInMonth d.year d.month

end CivilDate

/-!
## Moments in Coordinated Universal Time

A moment is a number of seconds since 1970 and a number of nanoseconds. During a
leap second the nanoseconds go on above one billion. A moment made from its parts or
read from a text has its leap second at the end of a minute, but one whose nanoseconds
were set afterwards may have it behind any second, and then shows the second after it.
Years from -262143 to 262142 can be held.

The texts of a moment differ in how they divide the parts; all of them write a year
between 0 and 9999 with four digits and any other year with its sign.
-/

namespace UtcTime

/-- The first second that can be held. -/
def firstSecond : Int := -8334601228800

/-- The last second that can be held. -/
def lastSecond : Int := 8210266876799

/-- Whether seconds and nanoseconds can be held; a leap second may follow any second. -/
def Holds (seconds : Int) (nanos : Nat) : Prop :=
  firstSecond ≤ seconds ∧ seconds ≤ lastSecond ∧ nanos < 2000000000

instance (seconds : Int) (nanos : Nat) : Decidable (Holds seconds nanos) := by
  unfold Holds
  infer_instance

end UtcTime

/-- A moment in Coordinated Universal Time. -/
@[ext]
structure UtcTime where
  /-- Seconds since 1970. -/
  seconds : Int
  /-- Nanoseconds, one billion or more in a leap second. -/
  nanos : Nat
  holds : UtcTime.Holds seconds nanos
  deriving DecidableEq

namespace UtcTime

/-- Whether a leap second is at the end of its minute. -/
def Regular (t : UtcTime) : Prop := 1000000000 ≤ t.nanos → t.seconds.fmod 60 = 59

instance (t : UtcTime) : Decidable t.Regular := by
  unfold Regular
  infer_instance

/-- The regular moment with the given parts. -/
def ofParts? (seconds : Int) (nanos : Nat) : Option UtcTime :=
  if holds : Holds seconds nanos then
    let t : UtcTime := { seconds, nanos, holds }
    if t.Regular then some t else none
  else none

/-- The beginning of 1970. -/
def epoch : UtcTime := { seconds := 0, nanos := 0, holds := by decide }

/-- The moment that comes a number of nanoseconds later, or the same one when that cannot
be held; a leap second counts as the second after it. -/
def later (t : UtcTime) (span : Nat) : UtcTime :=
  let nanos := t.nanos + span
  (ofParts? (t.seconds + (nanos / 1000000000 : Nat)) (nanos % 1000000000)).getD t

/-- The date of a moment. -/
def date (t : UtcTime) : CivilDate := .ofDays (t.seconds.fdiv 86400)

/-- The second of the day, without a leap second. -/
def secondOfDay (t : UtcTime) : Nat := (t.seconds.fmod 86400).toNat

/-- The hour of a moment. -/
def hour (t : UtcTime) : Nat := t.secondOfDay / 3600

/-- The minute of a moment. -/
def minute (t : UtcTime) : Nat := t.secondOfDay / 60 % 60

/-- The second that a moment shows; sixty in a leap second at the end of a minute. -/
def second (t : UtcTime) : Nat := t.secondOfDay % 60 + t.nanos / 1000000000

/-- The nanosecond within the second. -/
def fraction (t : UtcTime) : Nat := t.nanos % 1000000000

open Text

/-- A number with two digits. -/
def twoDigits (n : Nat) : List Char := padded 2 (decimal n)

/-- A year with four digits, or with its sign and at least four digits. -/
def yearDigits (year : Int) : List Char :=
  if 0 ≤ year then
    (if year ≤ 9999 then [] else ['+']) ++ padded 4 (decimal year.toNat)
  else '-' :: padded 4 (decimal (-year).toNat)

/-- The shortest of no, three, six and nine digits that gives a fraction exactly. -/
def fractionDigits (nanos : Nat) : List Char :=
  if nanos = 0 then []
  else if nanos % 1000000 = 0 then '.' :: padded 3 (decimal (nanos / 1000000))
  else if nanos % 1000 = 0 then '.' :: padded 6 (decimal (nanos / 1000))
  else '.' :: padded 9 (decimal nanos)

/-- Date and time in the extended form, with the shortest exact fraction and without a
zone. -/
def extended (t : UtcTime) : List Char :=
  yearDigits t.date.year ++ '-' :: twoDigits t.date.month ++ '-' :: twoDigits t.date.day ++
    'T' :: twoDigits t.hour ++ ':' :: twoDigits t.minute ++ ':' :: twoDigits t.second ++
    fractionDigits t.fraction

/-- The text with the zone letter. -/
def toText (t : UtcTime) : String := String.ofList (t.extended ++ ['Z'])

/-- The text with a zero offset. -/
def toOffsetText (t : UtcTime) : String :=
  String.ofList (t.extended ++ ['+', '0', '0', ':', '0', '0'])

end UtcTime

end LinkGauge

namespace LinkGauge.UtcTime

/-!
## Reading moments

A moment is read from a date, a time of day and an offset from Coordinated Universal
Time. Numbers may have fewer digits than usual, blanks may stand between the parts,
and the letter between date and time may be a blank; a signed year may have any number
of digits, and of a fraction the first nine digits count. A second of sixty is a leap
second.
-/

open Text Text.Reads

/-- Reads one or more digits, `most` at most. -/
def digits? (most : Nat) : Reads (List Char) := fun chars =>
  let front := (chars.take most).takeWhile Char.isDigit
  if front.isEmpty then none else some (front, chars.drop front.length)

/-- Reads a number of at most `most` digits behind blanks. -/
def number? (most : Nat) : Reads Nat := fun chars => do
  let (front, rest) ← digits? most (trimStart chars)
  return (← readDecimal? front, rest)

/-- Reads a number within bounds. -/
def bounded? (least greatest : Nat) : Reads Nat := fun chars => do
  let (n, rest) ← number? 2 chars
  if least ≤ n ∧ n ≤ greatest then some (n, rest) else none

/-- Reads a year: four digits at most, or a sign and any number of digits. -/
def year? : Reads Int := fun chars =>
  match trimStart chars with
  | '-' :: rest => do
    let (front, rest) ← digits? rest.length rest
    return (-((← readDecimal? front) : Int), rest)
  | '+' :: rest => do
    let (front, rest) ← digits? rest.length rest
    return (((← readDecimal? front) : Int), rest)
  | rest => do
    let (front, rest) ← digits? 4 rest
    return (((← readDecimal? front) : Int), rest)

/-- Reads the character that divides date and time. -/
def divider? : Reads Unit
  | 'T' :: rest => some ((), rest)
  | 't' :: rest => some ((), rest)
  | ' ' :: rest => some ((), rest)
  | _ => none

/-- Reads a fraction of a second in nanoseconds, if there is a point. -/
def fraction? : Reads Nat
  | '.' :: rest => do
    let (front, rest) ← digits? 9 rest
    let value ← readDecimal? front
    return (value * Nat.pow 10 (9 - front.length), rest.dropWhile Char.isDigit)
  | chars => some (0, chars)

/-- Reads two digits. -/
def pair? : Reads Nat
  | a :: b :: rest => do return ((← digitValue? a) * 10 + (← digitValue? b), rest)
  | _ => none

/-- Reads a sign; the minus sign may be the typographic one. -/
def sign? : Reads Int
  | '+' :: rest => some (1, rest)
  | '-' :: rest => some (-1, rest)
  | '−' :: rest => some (-1, rest)
  | _ => none

/-- Reads an offset in seconds: a zone name for zero, or a sign, hours and minutes. -/
def offset? : Reads Int := fun chars =>
  match trimStart chars with
  | 'Z' :: rest => some (0, rest)
  | 'z' :: rest => some (0, rest)
  | chars =>
    if (chars.take 3).map Char.toUpper == ['U', 'T', 'C'] then some (0, chars.drop 3)
    else do
      let (sign, rest) ← sign? chars
      let (hours, rest) ← pair? rest
      let (minutes, rest) ← pair? (rest.dropWhile fun c => c == ':' || isBlank c)
      if minutes < 60 then
        some (sign * ((hours : Int) * 3600 + minutes * 60), rest)
      else none

/-- Reads a moment; nothing but blanks may follow it. -/
def read? (chars : List Char) : Option UtcTime := do
  let (year, rest) ← year? chars
  let ((), rest) ← char? '-' (trimStart rest)
  let (month, rest) ← bounded? 1 12 rest
  let ((), rest) ← char? '-' (trimStart rest)
  let (day, rest) ← bounded? 1 31 rest
  let ((), rest) ← divider? rest
  let (hour, rest) ← bounded? 0 23 rest
  let ((), rest) ← char? ':' (trimStart rest)
  let (minute, rest) ← bounded? 0 59 rest
  let ((), rest) ← char? ':' (trimStart rest)
  let (second, rest) ← bounded? 0 60 rest
  let (fraction, rest) ← fraction? rest
  let (offset, rest) ← offset? rest
  let date : CivilDate := { year, month, day }
  if (trimStart rest).isEmpty ∧ date.exists? ∧ -86400 < offset ∧ offset < 86400 then
    let seconds := date.days * 86400 + hour * 3600 + minute * 60 + min second 59
    let nanos := if second = 60 then 1000000000 + fraction else fraction
    match ofParts? seconds nanos with
    | some _ => ofParts? (seconds - offset) nanos
    | none => none
  else none

/-- Reads a moment from a text. -/
def ofText? (text : String) : Option UtcTime := read? text.toList

end LinkGauge.UtcTime
