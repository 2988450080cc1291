import LinkGauge.Channel
import LinkGauge.Diagnostics
import LinkGauge.Filler
import LinkGauge.Socket.Basic
import LinkGauge.Text.Decimal
import LinkGauge.Wire

/-!
# The sender

The sender is the only writer on the connection. It writes the measurements of its
source as text frames and hands each one on once it is written. A download fills
every gap between them with filler; a ping run follows every measurement with a
ping. The end of the source makes it write a close frame and stop. After a failed
write it writes nothing more, but still takes everything from its source.

A peer that has started the close handshake ends the writing without an error.
-/

namespace LinkGauge

/-- Why a sender stopped. -/
inductive SendError where
  | writeFailed (reason : String)
  | timedOut (timeout : Nanos)
  | connectionClosed
  | peerClosed
  deriving DecidableEq, Repr

/-- The wording of an error. -/
def SendError.message : SendError → String
  | .writeFailed reason => "write failed: " ++ reason
  | .timedOut timeout => "write timed out after " ++ Text.duration timeout
  | .connectionClosed => "connection closed"
  | .peerClosed => "peer closed the connection"

namespace Sender

/-- What a sender is told at its start. -/
structure Config where
  subtest : Subtest
  /-- How long one write may take. -/
  ioTimeout : Nanos
  sizes : FillerSizes := {}
  /-- When the subtest started. -/
  start : Int := 0

/-- How long a failed write waits for the peer's close frame to be noticed. -/
def closeGrace : Nanos := millis 100

/-- What a sender is doing. -/
inductive Activity where
  /-- It chooses the next frame. -/
  | choosing
  /-- It is about to write a ping. -/
  | pinging
  /-- It waits for a write to end. -/
  | writing (flight : Flight) (begun : Nanos)
  /-- A write failed, and the peer's close frame may explain why. -/
  | grace (reason : String) (ends : Nanos)
  /-- It hands on a measurement that it has written. -/
  | echoing (measurement : Measurement)
  /-- It has stopped writing and empties its source. -/
  | draining (result : Except SendError Unit)
  | finished (result : Except SendError Unit)

/-- What a sender shares with others. -/
structure View where
  now : Nanos
  connection : Connection
  source : Channel Measurement
  echo : Channel Measurement
  wire : Wire
  log : Log

end Sender

/-- The state of a sender. -/
structure Sender where
  activity : Sender.Activity
  filler : Filler

namespace Sender

/-- The state at the start; a ping run begins with a ping. -/
def new (config : Config) : Sender where
  activity := if config.subtest = .ping then .pinging else .choosing
  filler := .new config.sizes

/-- Stops writing. A peer that closed first is no error, any other error is logged. -/
def stop (s : Sender) (v : View) (result : Except SendError Unit) : Sender × View :=
  let v := { v with echo := v.echo.hangUp }
  match result with
  | .error .peerClosed => ({ s with activity := .draining (.ok ()) }, v)
  | .error error =>
    ({ s with activity := .draining (.error error) },
      { v with log := .warning "sender: stopping early" error.message :: v.log })
  | .ok () => ({ s with activity := .draining (.ok ()) }, v)

/-- Begins to write a frame, unless the connection is closed on either side. -/
def beginWrite (s : Sender) (v : View) (frame : Frame) : Sender × View :=
  if v.connection.closed then s.stop v (.error .connectionClosed)
  else if v.connection.peerClosed then s.stop v (.error .peerClosed)
  else
    let (flight, wire) := v.wire.startWrite frame v.now
    ({ s with activity := .writing flight v.now }, { v with wire })

/-- The measurement as a download sends it: with the bytes of filler sent before it. -/
def counted (config : Config) (s : Sender) (now : Nanos) (m : Measurement) : Measurement :=
  { m with
    appInfo := some
      { numBytes := Int64.ofInt s.filler.total
        elapsedTime := micros (elapsedSince config.start now) } }

/-- Chooses the next frame: a measurement that is there, the close frame after the
last one, and in a download filler while there is none. -/
def choose (config : Config) (s : Sender) (v : View) : List (Sender × View) :=
  match v.source.take? with
  | some (m, source) =>
    let m := if config.subtest = .download then s.counted config v.now m else m
    [s.beginWrite { v with source } (.text m)]
  | none =>
    if v.source.ended then [s.beginWrite v .close]
    else if config.subtest = .download then [s.beginWrite v (.binary s.filler.size)]
    else []

/-- Goes on after a frame has been written. -/
def written (s : Sender) (v : View) : Frame → Sender × View
  | .text m => ({ s with activity := .echoing m }, v)
  | .binary _ => ({ activity := .choosing, filler := s.filler.sent }, v)
  | .ping _ => ({ s with activity := .choosing }, v)
  | .close => s.stop v (.ok ())

/-- The ways a write can go on: it ends, it takes too long, or the connection is
closed under it. A write that has ended has not taken too long. -/
def await (config : Config) (s : Sender) (v : View) (flight : Flight) (begun : Nanos) :
    List (Sender × View) :=
  let ended :=
    if flight.ends.any (· ≤ v.now) then
      match flight.failure with
      | none => [s.written { v with wire := v.wire.deliver flight.frame v.now } flight.frame]
      | some reason => [({ s with activity := .grace reason (v.now + closeGrace) }, v)]
    else if begun + config.ioTimeout ≤ v.now then
      [s.stop v (.error (.timedOut config.ioTimeout))]
    else []
  ended ++ if v.connection.closed then [s.stop v (.error .connectionClosed)] else []

/-- The steps a sender can take. -/
def moves (config : Config) (s : Sender) (v : View) : List (Sender × View) :=
  match s.activity with
  | .choosing => s.choose config v
  | .pinging => [s.beginWrite v (.ping (.ofElapsed (elapsedSince config.start v.now)))]
  | .writing flight begun => s.await config v flight begun
  | .grace reason ends =>
    if v.connection.peerClosed then [s.stop v (.error .peerClosed)]
    else if ends ≤ v.now then [s.stop v (.error (.writeFailed reason))]
    else []
  | .echoing m =>
    match v.echo.send? m with
    | some (_, echo) =>
      let activity := if config.subtest = .ping then .pinging else .choosing
      [({ s with activity }, { v with echo })]
    | none => []
  | .draining result =>
    match v.source.take? with
    | some (_, source) => [(s, { v with source })]
    | none => if v.source.ended then [({ s with activity := .finished result }, v)] else []
  | .finished _ => []

/-- The moments at which a waiting sender may go on by itself. -/
def alarms (config : Config) (s : Sender) : List Nanos :=
  match s.activity with
  | .writing flight begun => flight.ends.toList ++ [begun + config.ioTimeout]
  | .grace _ ends => [ends]
  | _ => []

/-- The result of a sender that has finished. -/
def result? (s : Sender) : Option (Except SendError Unit) :=
  match s.activity with
  | .finished result => some result
  | _ => none

end Sender

end LinkGauge
