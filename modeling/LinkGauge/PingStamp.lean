import LinkGauge.Json.Basic
import LinkGauge.Json.Reader
import LinkGauge.Json.Record

/-!
# Ping payloads

A ping carries the time at which it was sent, counted from the start of the
subtest, and its pong brings the same bytes back. The time stands in an object
under a name of its own, so that the payload of an unsolicited pong is not taken
for an echo.
-/

namespace LinkGauge

/-- The nanoseconds of a duration in a signed 64-bit number, saturating at its end. -/
def saturatedNanos (duration : Nat) : Nat := min duration 0x7fffffffffffffff

/-- The payload of a ping. -/
structure PingStamp where
  /-- Nanoseconds since the subtest started. -/
  sent : Int64
  deriving DecidableEq, Repr

/-- Why a pong is not an echo. -/
inductive EchoError where
  /-- The payload is not a ping's. -/
  | malformed
  /-- The time is negative or later than now; both in nanoseconds. -/
  | outOfRange (sent : Int) (elapsed : Nat)
  deriving DecidableEq, Repr

/-- What an echo tells: when it came, and how long ago its ping was sent. -/
structure Echo where
  /-- Nanoseconds since the subtest started. -/
  elapsed : Nat
  /-- Nanoseconds. -/
  roundTrip : Nat
  deriving DecidableEq, Repr

namespace PingStamp

/-- The stamp of a moment, in nanoseconds since the subtest started. -/
def ofElapsed (elapsed : Nat) : PingStamp := ⟨Int64.ofInt (saturatedNanos elapsed)⟩

/-- The member of a payload; it must be there. -/
def schema : Json.Schema [Int64] :=
  .cons
    { name := "Ndt7TS", read? := Json.counter?, write := fun a => some (Json.ofCounter a),
      absent := none, past := none }
    .nil

/-- The text of a payload. -/
def toText (stamp : PingStamp) : String := (schema.write (stamp.sent, ())).write

/-- Reads a payload. -/
def parse? (payload : List Text.Glyph) : Option PingStamp := do
  (schema.read? (← Json.parse? payload)).map fun (sent, ()) => { sent }

end PingStamp

/-- Reads the payload of a pong that came `elapsed` nanoseconds after the start. -/
def Echo.read (payload : List Text.Glyph) (elapsed : Nat) : Except EchoError Echo :=
  match PingStamp.parse? payload with
  | none => .error .malformed
  | some stamp =>
    let sent := stamp.sent.toInt
    let now := saturatedNanos elapsed
    if sent < 0 ∨ now < sent then .error (.outOfRange sent now)
    else .ok ⟨elapsed, now - sent.toNat⟩

/-- The wording of an error. -/
def EchoError.message : EchoError → String
  | .malformed => "malformed pong payload"
  | .outOfRange sent elapsed =>
    "pong timestamp " ++ Text.intText sent ++ "ns is outside [0, " ++ Text.natText elapsed ++ "ns]"

end LinkGauge
