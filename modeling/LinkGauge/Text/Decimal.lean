import LinkGauge.Time

/-!
# Decimal and hexadecimal numerals

A natural number is written with its fewest digits and no leading zero; an
integer has a minus sign in front when it is negative. `padded` fills a numeral
with zeros up to a width and never cuts it.
-/

namespace LinkGauge.Text

/-- The digit of a value below sixteen, lower case above nine. -/
def digitChar (value : Nat) : Char :=
  if value < 10 then Char.ofNat (48 + value) else Char.ofNat (87 + value)

/-- The value of an ASCII decimal digit. -/
def digitValue? (c : Char) : Option Nat :=
  if '0' ≤ c ∧ c ≤ '9' then some (c.toNat - 48) else none

/-- The value of an ASCII hexadecimal digit of either case. -/
def hexValue? (c : Char) : Option Nat :=
  if '0' ≤ c ∧ c ≤ '9' then some (c.toNat - 48)
  else if 'a' ≤ c ∧ c ≤ 'f' then some (c.toNat - 87)
  else if 'A' ≤ c ∧ c ≤ 'F' then some (c.toNat - 55)
  else none

/-- The digits of a number in a base, most significant first; zero is one digit. -/
def numeral (base n : Nat) : List Char :=
  if _h : n < base ∨ base < 2 then [digitChar n]
  else numeral base (n / base) ++ [digitChar (n % base)]
termination_by n
decreasing_by exact Nat.div_lt_self (by omega) (by omega)

/-- The decimal digits of a number. -/
def decimal (n : Nat) : List Char := numeral 10 n

/-- The decimal digits of an integer, with a minus sign when it is negative. -/
def signedDecimal : Int → List Char
  | .ofNat n => decimal n
  | .negSucc n => '-' :: decimal (n + 1)

/-- A numeral filled with zeros on the left up to a width. -/
def padded (width : Nat) (digits : List Char) : List Char :=
  List.replicate (width - digits.length) '0' ++ digits

/-- The number a list of decimal digits stands for, after the digits of `start`. -/
def ofDigits? (start : Nat) : List Char → Option Nat
  | [] => some start
  | c :: rest => do ofDigits? (start * 10 + (← digitValue? c)) rest

/-- The number written by one or more decimal digits, leading zeros allowed. -/
def readDecimal? : List Char → Option Nat
  | [] => none
  | digits => ofDigits? 0 digits

/-- An integer as a text. -/
def intText (n : Int) : String := String.ofList (signedDecimal n)

/-- A natural number as a text. -/
def natText (n : Nat) : String := String.ofList (decimal n)

/-- A number as upper-case hexadecimal digits, filled with zeros up to a width. -/
def upperHex (width n : Nat) : String :=
  String.ofList ((padded width (numeral 16 n)).map Char.toUpper)

/-!
## The text of a span of time

A span is written in the largest of seconds, milliseconds, microseconds and
nanoseconds of which it has at least one, with its exact decimal fraction and no
zeros at the end.
-/

/-- The digits of a fraction without the zeros at its end. -/
def trimZeros (digits : List Char) : List Char :=
  (digits.reverse.dropWhile (· == '0')).reverse

/-- A span counted in units of `10 ^ places` nanoseconds. -/
def scaled (span places : Nat) : String :=
  let unit := Nat.pow 10 places
  let fraction := trimZeros (padded places (decimal (span % unit)))
  natText (span / unit) ++ if fraction.isEmpty then "" else "." ++ String.ofList fraction

/-- The text of a span. -/
def duration (span : Nanos) : String :=
  if 1000000000 ≤ span then scaled span 9 ++ "s"
  else if 1000000 ≤ span then scaled span 6 ++ "ms"
  else if 1000 ≤ span then scaled span 3 ++ "µs"
  else natText span ++ "ns"

end LinkGauge.Text
