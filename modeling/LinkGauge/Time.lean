/-!
# Time

The clock counts nanoseconds from the start of a run. A moment that lies before
another has no negative distance to it: elapsed time starts at zero.
-/

namespace LinkGauge

/-- A moment or a span of time, in nanoseconds. -/
abbrev Nanos := Nat

/-- A span given in milliseconds. -/
def millis (n : Nat) : Nanos := n * 1000000

/-- A span given in seconds. -/
def seconds (n : Nat) : Nanos := n * 1000000000

/-- The span from `start` to `now`; `start` may lie before the clock's origin. -/
def elapsedSince (start : Int) (now : Nanos) : Nanos := ((now : Int) - start).toNat

/-- Whole microseconds of a span, in a signed 64-bit counter. -/
def micros (span : Nanos) : Int64 := Int64.ofInt (span / 1000 : Nat)

/-!
## Running in virtual time

A machine runs as long as it can take a step, and time passes only when it cannot:
the clock then goes on to the earliest moment for which something has been set. The
run ends when nothing can move and nothing is set, or when its number of steps is
used up.
-/

/-- Something that runs in virtual time. -/
structure Machine (σ : Type) where
  /-- The next step, if one is possible now. -/
  step? : σ → Option σ
  /-- The moments at which a step may become possible. -/
  alarms : σ → List Nanos
  now : σ → Nanos
  /-- The state at a later moment. -/
  advance : σ → Nanos → σ

namespace Machine

variable {σ : Type}

/-- The earliest moment after the given one. -/
def nextAlarm? (now : Nanos) (alarms : List Nanos) : Option Nanos :=
  (alarms.filter (now < ·)).min?

/-- Takes steps until time would have to pass. -/
def settle (m : Machine σ) : Nat → σ → σ
  | 0, s => s
  | steps + 1, s =>
    match m.step? s with
    | some s => m.settle steps s
    | none => s

/-- Takes steps and lets time pass, at most the given number of times. -/
def run (m : Machine σ) : Nat → σ → σ
  | 0, s => s
  | steps + 1, s =>
    match m.step? s with
    | some s => m.run steps s
    | none =>
      match nextAlarm? (m.now s) (m.alarms s) with
      | some time => m.run steps (m.advance s time)
      | none => s

/-- More steps than any run that ends has been seen to take. -/
def stepLimit : Nat := 20000000

end Machine

end LinkGauge
