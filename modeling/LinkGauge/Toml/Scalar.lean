import LinkGauge.Text.Split
import LinkGauge.Toml.Document
import LinkGauge.UtcTime

/-!
# TOML values without parts

String literals, numbers, dates, times and words.
-/

namespace LinkGauge.Toml

/-!
## TOML string literals

A basic string stands between double quotes and has escapes; a literal string stands
between single quotes and has none. Either may be written with three quotes, and then
goes over several lines: a line end right after the opening is dropped, and one or two
quotes may stand before the closing ones. A backslash at the end of a line of a basic
string drops all white space up to the next character.
-/

section

open Text

/-- Whether a character may stand in a comment or, apart from quotes, in a string. -/
def isPlain (c : Char) : Bool := c = '\t' || (' ' ≤ c && c ≠ '\x7f')

/-- Whether a character is white space within a line. -/
def isSpace (c : Char) : Bool := c = ' ' || c = '\t'

namespace Literal

/-- The character with the code point that the digits give. -/
def codePoint? (digits : List Char) : Option Char := do
  let values ← digits.mapM hexValue?
  let code := values.foldl (fun n d => n * 16 + d) 0
  if valid : code.isValidChar then some (Char.ofNatAux code valid) else none

/-- The character with a code point of the given number of digits, and the length of the
escape, which includes its letter. -/
def coded? (count : Nat) (chars : List Char) : Option (List Char × Nat) := do
  if chars.length < count then none
  else return ([← codePoint? (chars.take count)], count + 1)

/-- What the characters behind a backslash stand for, and how many they are. -/
def escape? : List Char → Option (List Char × Nat)
  | 'b' :: _ => some (['\x08'], 1)
  | 't' :: _ => some (['\t'], 1)
  | 'n' :: _ => some (['\n'], 1)
  | 'f' :: _ => some (['\x0c'], 1)
  | 'r' :: _ => some (['\r'], 1)
  | 'e' :: _ => some (['\x1b'], 1)
  | '"' :: _ => some (['"'], 1)
  | '\\' :: _ => some (['\\'], 1)
  | 'x' :: rest => coded? 2 rest
  | 'u' :: rest => coded? 4 rest
  | 'U' :: rest => coded? 8 rest
  | _ => none

/-- The length of the white space at the front, line ends included. -/
def whiteLength : List Char → Nat
  | '\r' :: '\n' :: rest => whiteLength rest + 2
  | c :: rest => if isSpace c || c = '\n' then whiteLength rest + 1 else 0
  | [] => 0

/-- Like `escape?`, where the end of a line and the white space after it stand for
nothing. -/
def longEscape? (chars : List Char) : Option (List Char × Nat) :=
  match chars.dropWhile isSpace with
  | '\n' :: _ => some ([], whiteLength chars)
  | '\r' :: '\n' :: _ => some ([], whiteLength chars)
  | _ => escape? chars

/-- No escapes. -/
def noEscape? (_chars : List Char) : Option (List Char × Nat) := none

/-- Reads the rest of a string of one line; the first characters are skipped as many as
an escape already stands for. -/
def short? (quote : Char) (escape? : List Char → Option (List Char × Nat)) :
    Nat → Reads (List Char)
  | _, [] => none
  | skip + 1, _ :: rest => short? quote escape? skip rest
  | 0, c :: rest =>
    if c = quote then some ([], rest)
    else if c = '\\' && quote = '"' then do
      let (meaning, length) ← escape? rest
      let (more, rest) ← short? quote escape? length rest
      return (meaning ++ more, rest)
    else if isPlain c then do
      let (more, rest) ← short? quote escape? 0 rest
      return (c :: more, rest)
    else none

/-- How many quotes stand at the front. -/
def quotes (quote : Char) (chars : List Char) : Nat := (chars.takeWhile (· = quote)).length

/-- Reads the rest of a string of several lines. -/
def long? (quote : Char) (escape? : List Char → Option (List Char × Nat)) :
    Nat → Reads (List Char)
  | _, [] => none
  | skip + 1, _ :: rest => long? quote escape? skip rest
  | 0, c :: rest =>
    if 3 ≤ quotes quote (c :: rest) then
      let count := min (quotes quote (c :: rest)) 5
      some (List.replicate (count - 3) quote, (c :: rest).drop count)
    else if c = '\\' && quote = '"' then do
      let (meaning, length) ← escape? rest
      let (more, rest) ← long? quote escape? length rest
      return (meaning ++ more, rest)
    else if isPlain c || c = '\n' || (c = '\r' && rest.head? = some '\n') then do
      let (more, rest) ← long? quote escape? 0 rest
      return (c :: more, rest)
    else none

/-- Characters without a line end in front. -/
def afterLineEnd : List Char → List Char
  | '\n' :: rest => rest
  | '\r' :: '\n' :: rest => rest
  | chars => chars

/-- Reads a string of one line. -/
def line? : Reads (List Char)
  | '"' :: rest => short? '"' escape? 0 rest
  | '\'' :: rest => short? '\'' noEscape? 0 rest
  | _ => none

/-- Reads a string. -/
def read? : Reads (List Char)
  | '"' :: '"' :: '"' :: rest => long? '"' longEscape? 0 (afterLineEnd rest)
  | '\'' :: '\'' :: '\'' :: rest => long? '\'' noEscape? 0 (afterLineEnd rest)
  | chars => line? chars

end Literal

end

/-!
## TOML numbers, dates and words

A number may have single underscores between its digits. A decimal number has no
leading zero; a number in another base has a lower-case letter for the base and no sign.
-/

open Text Text.Reads

namespace Scalar

/-- The value of a digit in a base. -/
def digit? (base : Nat) (c : Char) : Option Nat := (hexValue? c).filter (· < base)

/-- The number that digits with single underscores between them stand for, after the
digits of `start`. -/
def grouped? (base start : Nat) : List Char → Option Nat
  | [] => none
  | [c] => do return start * base + (← digit? base c)
  | c :: '_' :: rest => do grouped? base (start * base + (← digit? base c)) rest
  | c :: rest => do grouped? base (start * base + (← digit? base c)) rest

/-- A sign as a factor, and what follows it. -/
def signed : List Char → Int × List Char
  | '+' :: rest => (1, rest)
  | '-' :: rest => (-1, rest)
  | chars => (1, chars)

/-- The number that decimal digits without a leading zero stand for. -/
def whole? (chars : List Char) : Option Nat :=
  if 1 < chars.length && chars.head? = some '0' then none else grouped? 10 0 chars

/-- The integer that is written. -/
def integer? : List Char → Option Int
  | '0' :: 'x' :: rest => (grouped? 16 0 rest).map Int.ofNat
  | '0' :: 'o' :: rest => (grouped? 8 0 rest).map Int.ofNat
  | '0' :: 'b' :: rest => (grouped? 2 0 rest).map Int.ofNat
  | chars =>
    let (sign, digits) := signed chars
    (whole? digits).map fun n => sign * n

/-- Whether an exponent is written: nothing, or a letter, an optional sign and digits. -/
def isExponent : List Char → Bool
  | [] => true
  | _ :: rest => (grouped? 10 0 (signed rest).2).isSome

/-- Whether a fraction is written: nothing, or a point and digits. -/
def isFraction : List Char → Bool
  | [] => true
  | _ :: rest => (grouped? 10 0 rest).isSome

/-- Whether a number with a fraction or an exponent is written, or one that is infinite
or no number. -/
def isReal (chars : List Char) : Bool :=
  let body := (signed chars).2
  let (mantissa, exponent) := span (fun c => c ≠ 'e' && c ≠ 'E') body
  let (digits, fraction) := span (· ≠ '.') mantissa
  body == ['i', 'n', 'f'] || body == ['n', 'a', 'n'] ||
    ((whole? digits).isSome && isFraction fraction && isExponent exponent)

/-- Reads a given number of decimal digits. -/
def fixed? (count : Nat) : Reads Nat := fun chars =>
  let front := chars.take count
  if front.length = count then (readDecimal? front).map (·, chars.drop count) else none

/-- Reads a date that exists. -/
def date? : Reads CivilDate := fun chars => do
  let (year, rest) ← fixed? 4 chars
  let ((), rest) ← char? '-' rest
  let (month, rest) ← fixed? 2 rest
  let ((), rest) ← char? '-' rest
  let (day, rest) ← fixed? 2 rest
  let date : CivilDate := { year, month, day }
  if date.exists? then some (date, rest) else none

/-- Reads a fraction of a second, if there is one. -/
def fraction? : Reads Unit
  | '.' :: rest =>
    let (digits, rest) := span Char.isDigit rest
    if digits.isEmpty then none else some ((), rest)
  | chars => some ((), chars)

/-- Reads a time of day; the seconds may be left out. -/
def time? : Reads Unit := fun chars => do
  let (hour, rest) ← fixed? 2 chars
  let ((), rest) ← char? ':' rest
  let (minute, rest) ← fixed? 2 rest
  if 23 < hour ∨ 59 < minute then none
  else
    match rest with
    | ':' :: rest => do
      let (second, rest) ← fixed? 2 rest
      if 60 < second then none else fraction? rest
    | rest => some ((), rest)

/-- Whether an offset from universal time is written, or nothing. -/
def isOffset : List Char → Bool
  | [] => true
  | ['Z'] => true
  | ['z'] => true
  | '+' :: rest => isHours rest
  | '-' :: rest => isHours rest
  | _ => false
where
  isHours (chars : List Char) : Bool :=
    match (do
      let (hours, rest) ← fixed? 2 chars
      let ((), rest) ← char? ':' rest
      let (minutes, rest) ← fixed? 2 rest
      return (hours, minutes, rest) : Option (Nat × Nat × List Char)) with
    | some (hours, minutes, []) => hours ≤ 23 && minutes ≤ 59
    | _ => false

/-- Whether a time of day with an optional offset is written. -/
def isZonedTime (chars : List Char) : Bool :=
  match time? chars with
  | some ((), rest) => isOffset rest
  | none => false

/-- Whether a date, a time of day, or both are written. -/
def isMoment (chars : List Char) : Bool :=
  match date? chars with
  | some (_, []) => true
  | some (_, 'T' :: rest) => isZonedTime rest
  | some (_, 't' :: rest) => isZonedTime rest
  | some (_, ' ' :: rest) => isZonedTime rest
  | some _ => false
  | none => time? chars matches some ((), [])

/-- Whether a character may stand in a number, a date or a word. -/
def isAtom (c : Char) : Bool :=
  c.isAlphanum || c = '_' || c = '+' || c = '-' || c = ':' || c = '.'

/-- The characters of a scalar at the front; a blank may divide a date from a time. -/
def front (chars : List Char) : List Char × List Char :=
  let (atom, rest) := span isAtom chars
  match date? atom, rest with
  | some (_, []), ' ' :: d :: more =>
    if d.isDigit then
      let (time, rest) := span isAtom (d :: more)
      (atom ++ ' ' :: time, rest)
    else (atom, rest)
  | _, _ => (atom, rest)

/-- The value of a scalar's characters. -/
def value? (chars : List Char) : Option Value :=
  if chars = ['t', 'r', 'u', 'e'] then some (.boolean true)
  else if chars = ['f', 'a', 'l', 's', 'e'] then some (.boolean false)
  else
    match integer? chars with
    | some n => some (.integer n)
    | none =>
      if isReal chars then some .real else if isMoment chars then some .moment else none

/-- Reads a number, a date or a word. -/
def read? : Reads Value := fun chars => do
  let (atom, rest) := front chars
  return (← value? atom, rest)

end Scalar

end LinkGauge.Toml
