import LinkGauge.Measurement.Basic
import LinkGauge.PingStamp
import LinkGauge.Time

/-!
# The wire

The wire carries frames in both directions. Outward, the n-th write follows the
n-th rule: it takes a while, and then the frame has been sent, or the write has
failed, or it never ends. Inward, arrivals wait in the order of their times until
they are read. The peer may answer pings and the close frame by itself.
-/

namespace LinkGauge

/-- A frame that the server sends. -/
inductive Frame where
  | text (measurement : Measurement)
  /-- Filler of the given size. -/
  | binary (size : Nat)
  | ping (stamp : PingStamp)
  /-- The frame that closes the connection normally. -/
  | close
  deriving DecidableEq, Repr

/-- The status code of the server's close frame. -/
def Frame.closeCode : Nat := 1000

/-- The reason in the server's close frame. -/
def Frame.closeReason : String := "Done sending"

/-- What the server reads. -/
inductive Arrival where
  | text (content : String)
  | binary (size : Nat)
  | ping
  | pong (payload : List Text.Glyph)
  | close
  /-- Reading fails. -/
  | failure (reason : String)
  /-- The stream is at its end. -/
  | finished

/-- How a write ends. -/
inductive WriteOutcome where
  | sent
  | failed (reason : String)
  | stalled
  deriving DecidableEq, Repr

/-- How long a write takes and how it ends. -/
structure WriteRule where
  delay : Nanos := 0
  outcome : WriteOutcome := .sent
  deriving DecidableEq, Repr

/-- How the peer answers a ping: after a while, with the ping's own payload or another. -/
structure PongRule where
  delay : Nanos := 0
  payload : Option (List Text.Glyph) := none

/-- The wire and the scripted behaviour of its other end. -/
structure Wire where
  /-- How each write goes, counted from zero. -/
  rules : Nat → WriteRule := fun _ => {}
  /-- How the peer answers each ping, if it does. -/
  pongs : Nat → Option PongRule := fun _ => none
  /-- After which time the peer answers the close frame, if it does. -/
  closeReply : Option Nanos := none
  /-- From which moment on every write fails. -/
  lostAt : Option Nanos := none
  /-- How many writes have begun. -/
  begun : Nat := 0
  /-- The frames sent, with the moments at which their writes ended, newest first. -/
  sent : List (Nanos × Frame) := []
  /-- What the peer sends, with the moments of arrival, earliest first. -/
  arrivals : List (Nanos × Arrival) := []

/-- A write that has begun. -/
structure Flight where
  frame : Frame
  /-- When the write ends, unless it is stalled. -/
  ends : Option Nanos
  /-- Why the write fails, if it does. -/
  failure : Option String

namespace Wire

/-- Puts an arrival behind those that come no later. -/
def arrive (time : Nanos) (arrival : Arrival) :
    List (Nanos × Arrival) → List (Nanos × Arrival)
  | [] => [(time, arrival)]
  | (earlier, other) :: rest =>
    if earlier ≤ time then (earlier, other) :: arrive time arrival rest
    else (time, arrival) :: (earlier, other) :: rest

/-- Begins a write. -/
def startWrite (w : Wire) (frame : Frame) (now : Nanos) : Flight × Wire :=
  let rule := w.rules w.begun
  let lost := w.lostAt.any (· ≤ now)
  let flight : Flight :=
    if lost then { frame, ends := some now, failure := some "connection lost" }
    else
      match rule.outcome with
      | .sent => { frame, ends := some (now + rule.delay), failure := none }
      | .failed reason => { frame, ends := some (now + rule.delay), failure := some reason }
      | .stalled => { frame, ends := none, failure := none }
  (flight, { w with begun := w.begun + 1 })

/-- How many pings have been sent. -/
def pings (w : Wire) : Nat := w.sent.countP fun (_, frame) => frame matches .ping _

/-- The peer's answer to a frame, if it has one. -/
def answer? (w : Wire) (now : Nanos) : Frame → Option (Nanos × Arrival)
  | .ping stamp => do
    let rule ← w.pongs w.pings
    let payload := rule.payload.getD (Text.glyphsOf stamp.toText)
    return (now + rule.delay, .pong payload)
  | .close => do return (now + (← w.closeReply), .close)
  | _ => none

/-- Ends a write that succeeded. -/
def deliver (w : Wire) (frame : Frame) (now : Nanos) : Wire :=
  let arrivals :=
    match w.answer? now frame with
    | some (time, arrival) => arrive time arrival w.arrivals
    | none => w.arrivals
  { w with sent := (now, frame) :: w.sent, arrivals }

/-- Reads the next arrival, once it is there. -/
def read? (w : Wire) (now : Nanos) : Option (Arrival × Wire) :=
  match w.arrivals with
  | (time, arrival) :: rest =>
    if time ≤ now then some (arrival, { w with arrivals := rest }) else none
  | [] => none

end Wire

end LinkGauge
