import LinkGauge.Channel
import LinkGauge.Context
import LinkGauge.Diagnostics
import LinkGauge.Socket.Basic
import LinkGauge.Wire

/-!
# The receiver

The receiver is the only reader of the connection. It decodes what the peer sends
into measurements: texts are the client's own, and in a ping run the echo of a ping
is a round trip measured by the server. Filler is expected in an upload only. The
receiver stops at the end of the stream, at anything that is not allowed, and when
its context or its connection ends; however it stops, its output ends and a stop is
requested of whoever depends on the peer.
-/

namespace LinkGauge

/-- A measurement with the side that made it. -/
structure Received where
  origin : Origin
  measurement : Measurement
  deriving DecidableEq, Repr

namespace Receiver

/-- What a receiver is told at its start. -/
structure Config where
  subtest : Subtest
  /-- When the subtest started. -/
  start : Int := 0

/-- What an arrival means to the receiver. -/
inductive Meaning where
  | emit (received : Received)
  | skip
  /-- It is the last thing read; the warning says why. -/
  | stop (warning : Option LogEvent)
  /-- The peer has started the close handshake. -/
  | peerClosed

/-- What a receiver is doing. -/
inductive Activity where
  | reading
  /-- It hands on a decoded measurement. -/
  | emitting (received : Received)
  | finished
  deriving DecidableEq, Repr

/-- What a receiver shares with others. -/
structure View where
  now : Nanos
  context : Context
  connection : Connection
  wire : Wire
  output : Channel Received
  /-- Whether a stop has been requested. -/
  stopRequested : Bool
  log : Log

end Receiver

/-- The state of a receiver. -/
structure Receiver where
  activity : Receiver.Activity := .reading
  /-- The shortest round trip so far. -/
  minRtt : Option Nanos := none

namespace Receiver

/-- The shorter of a round trip and the shortest one before it. -/
def shortest (minRtt : Option Nanos) (roundTrip : Nanos) : Nanos :=
  match minRtt with
  | some other => min other roundTrip
  | none => roundTrip

/-- The measurement of a round trip. -/
def rttSample (echo : Echo) (shortest : Nanos) : Measurement :=
  { rtt := some
      { elapsedTime := micros echo.elapsed
        lastRtt := micros echo.roundTrip
        minRtt := micros shortest } }

/-- What a pong means in a ping run; a payload that is no ping's is skipped. -/
def decodePong (minRtt : Option Nanos) (elapsed : Nanos) (payload : List Text.Glyph) :
    Meaning × Option Nanos :=
  match Echo.read payload elapsed with
  | .ok echo =>
    let least := shortest minRtt echo.roundTrip
    (.emit ⟨.server, rttSample echo least⟩, some least)
  | .error .malformed => (.skip, minRtt)
  | .error error => (.stop (some (.warning "receiver: bad pong" error.message)), minRtt)

/-- What an arrival means `elapsed` after the start, and the shortest round trip
after it. -/
def decode (subtest : Subtest) (minRtt : Option Nanos) (elapsed : Nanos) :
    Arrival → Meaning × Option Nanos
  | .text content =>
    match Measurement.ofText? content with
    | some measurement => (.emit ⟨.client, measurement⟩, minRtt)
    | none => (.stop (some ⟨.warn, "receiver: malformed measurement", []⟩), minRtt)
  | .binary _ =>
    if subtest = .upload then (.skip, minRtt)
    else (.stop (some ⟨.warn, "receiver: unexpected binary message", []⟩), minRtt)
  | .pong payload =>
    if subtest = .ping then decodePong minRtt elapsed payload else (.skip, minRtt)
  | .ping => (.skip, minRtt)
  | .close => (.peerClosed, minRtt)
  | .failure _ => (.stop (some ⟨.warn, "receiver: read failed", []⟩), minRtt)
  | .finished => (.stop none, minRtt)

/-- Stops reading. -/
def stop (r : Receiver) (v : View) : Receiver × View :=
  ({ r with activity := .finished }, { v with output := v.output.hangUp, stopRequested := true })

/-- Takes an arrival. -/
def take (config : Config) (r : Receiver) (v : View) (arrival : Arrival) : Receiver × View :=
  let (meaning, minRtt) := decode config.subtest r.minRtt (elapsedSince config.start v.now) arrival
  let r := { r with minRtt }
  match meaning with
  | .emit received => ({ r with activity := .emitting received }, v)
  | .skip => (r, v)
  | .stop warning => r.stop { v with log := warning.toList ++ v.log }
  | .peerClosed => r.stop { v with connection := v.connection.markPeerClosed }

/-- The steps a receiver can take. What has arrived is read even at the deadline. -/
def moves (config : Config) (r : Receiver) (v : View) : List (Receiver × View) :=
  match r.activity with
  | .reading =>
    let next :=
      match v.wire.read? v.now with
      | some (arrival, wire) => [r.take config { v with wire } arrival]
      | none => if v.context.deadline ≤ v.now then [r.stop v] else []
    next ++ if v.context.cancelled || v.connection.closed then [r.stop v] else []
  | .emitting received =>
    let next :=
      match v.output.send? received with
      | some (.accepted, output) => [({ r with activity := .reading }, { v with output })]
      | some (.gone, _) => [r.stop v]
      | none => []
    next ++ if v.context.isDone v.now then [r.stop v] else []
  | .finished => []

/-- The moments at which a waiting receiver may go on by itself. -/
def alarms (r : Receiver) (v : View) : List Nanos :=
  match r.activity with
  | .reading => v.context.deadline :: (v.wire.arrivals.head?.map (·.1)).toList
  | .emitting _ => [v.context.deadline]
  | .finished => []

end Receiver

end LinkGauge
