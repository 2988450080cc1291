import LinkGauge.Text.Decimal

/-!
# Sampling intervals

The waits between samples are drawn from an exponential distribution and kept
within bounds, so that sampling cannot fall into step with the peer or the network.
-/

namespace LinkGauge

/-- The bounds and the mean of the waits. -/
structure Sampling where
  least : Nanos := millis 100
  expected : Nanos := millis 250
  greatest : Nanos := millis 500
  deriving DecidableEq, Repr

/-- Why intervals cannot be used. -/
inductive SamplingError where
  | zeroExpected
  | unordered (sampling : Sampling)
  deriving DecidableEq, Repr

/-- The wording of an error. -/
def SamplingError.message : SamplingError → String
  | .zeroExpected => "expected interval must be positive"
  | .unordered s =>
    "intervals must satisfy min <= expected <= max (got " ++ Text.duration s.least ++ "/" ++
      Text.duration s.expected ++ "/" ++ Text.duration s.greatest ++ ")"

namespace Sampling

/-- Accepts intervals with a positive mean within the bounds. -/
def validate (s : Sampling) : Except SamplingError Unit :=
  if s.expected = 0 then .error .zeroExpected
  else if s.expected < s.least ∨ s.greatest < s.expected then .error (.unordered s)
  else .ok ()

/-- A drawn wait, kept within the bounds. -/
def bounded (s : Sampling) (drawn : Nanos) : Nanos := max s.least (min drawn s.greatest)

end Sampling

/-!
## Drawn waits

A number drawn evenly from [0, 1) becomes a wait with an exponential distribution. The
product with the mean is computed in floating-point seconds, rounded exactly to the
nearest nanosecond, and kept within the bounds.
-/

/-- The quotient rounded to the nearest number; halfway, to the even one. -/
def roundedQuotient (numerator denominator : Nat) : Nat :=
  let whole := numerator / denominator
  let twice := 2 * (numerator % denominator)
  if denominator < twice ∨ (twice = denominator ∧ whole % 2 = 1) then whole + 1 else whole

/-- A floating-point number of seconds as the nearest number of nanoseconds, where the
number is positive and finite. -/
def nanosOfSeconds (value : Float) : Nanos :=
  let bits := value.toBits.toNat % Nat.pow 2 63
  let exponent := bits / Nat.pow 2 52
  let fraction := bits % Nat.pow 2 52
  let mantissa := if exponent = 0 then fraction else Nat.pow 2 52 + fraction
  roundedQuotient (mantissa * Nat.pow 2 (max exponent 1) * 1000000000) (Nat.pow 2 1075)

/-- A span as a floating-point number of seconds. -/
def secondsOfNanos (span : Nanos) : Float :=
  (UInt64.ofNat (span / 1000000000)).toFloat +
    (UInt64.ofNat (span % 1000000000)).toFloat / 1000000000

namespace Sampling

/-- The wait for a number from [0, 1), given in units of 2^-53. -/
def drawn (s : Sampling) (even : Nat) : Nanos :=
  let u := (UInt64.ofNat even).toFloat / 9007199254740992
  nanosOfSeconds (-(1 - u).log * secondsOfNanos s.expected)

/-- The wait that follows, kept within the bounds. -/
def wait (s : Sampling) (even : Nat) : Nanos := s.bounded (s.drawn even)

end Sampling

end LinkGauge
