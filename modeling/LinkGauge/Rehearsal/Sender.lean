import LinkGauge.Filler
import LinkGauge.Rehearsal.Parts
import LinkGauge.Stage.Sender
import LinkGauge.Wire

/-!
# Rehearsals of the sender
-/

namespace LinkGauge.Rehearsal

/-! ## Rehearsals of filler -/

/-- Sends filler frames: the filler behind them, and the sizes, each with the number of
frames sent before it. -/
def fillerChanges (sizes : FillerSizes) (frames : Nat) : Filler × List (Nat × Nat) :=
  let start : Filler := .new sizes
  let (last, changes) := (List.range frames).foldl
    (fun (filler, changes) n =>
      let next := filler.sent
      (next, if next.size = filler.size then changes else (n + 1, next.size) :: changes))
    (start, [(0, start.size)])
  (last, changes.reverse)

/-!
## Runs of frames

A download sends thousands of filler frames. An overview of what was sent gives a run of
them as one entry, and every other frame by itself.
-/

/-- An entry of an overview. -/
inductive FrameRun where
  | single (time : Nanos) (frame : Frame)
  /-- Filler frames of one size in a row, with the times of the first and the last one. -/
  | filler (first last : Nanos) (size count : Nat)
  deriving DecidableEq, Repr

namespace FrameRun

/-- Adds a frame behind the entries so far, which are given newest first. -/
def add (runs : List FrameRun) (time : Nanos) : Frame → List FrameRun
  | .binary size =>
    match runs with
    | .filler first last other count :: rest =>
      if size = other then .filler first time size (count + 1) :: rest
      else .filler time time size 1 :: .filler first last other count :: rest
    | runs => .filler time time size 1 :: runs
  | frame => .single time frame :: runs

/-- The overview of frames, which are given newest first. -/
def ofSent (sent : List (Nanos × Frame)) : List FrameRun :=
  (sent.reverse.foldl (fun runs (time, frame) => add runs time frame) []).reverse

end FrameRun

/-! ## Rehearsals of the sender -/

/-- The neighbours of a sender. -/
structure SenderScript where
  config : Sender.Config
  source : List (Nanos × Measurement)
  capacity : Nat
  sourceCloseAt : Nanos
  rules : Nat → WriteRule
  connection : List (Nanos × ConnectionEvent)
  /-- Whether nobody takes what the sender has written. -/
  dropEcho : Bool
  echoRests : List Nanos

/-- A sender among its neighbours. -/
structure SenderWorld where
  config : Sender.Config
  view : Sender.View
  sender : Sender
  feeder : Feeder Measurement
  consumer : Consumer Measurement
  events : Timeline ConnectionEvent
  /-- When the sender finished. -/
  ended : Option Nanos := none

namespace SenderWorld

/-- The world at the start. -/
def start (s : SenderScript) : SenderWorld where
  config := s.config
  view :=
    { now := 0
      connection := {}
      source := { capacity := s.capacity }
      echo := { reading := !s.dropEcho }
      wire := { rules := s.rules }
      log := [] }
  sender := .new s.config
  feeder := { entries := s.source, closeAt := s.sourceCloseAt }
  consumer := { rests := s.echoRests, ended := if s.dropEcho then some 0 else none }
  events := .ofList s.connection

/-- What happens to the connection. -/
def happen (v : Sender.View) : ConnectionEvent → Sender.View
  | .close => { v with connection := v.connection.close.2 }
  | .peerClose => { v with connection := v.connection.markPeerClosed }

/-- The next step: events, then the source, the sender and the consumer. -/
def step? (w : SenderWorld) : Option SenderWorld :=
  match w.events.next? w.view.now with
  | some (event, events) => some { w with events, view := happen w.view event }
  | none =>
    match w.feeder.step? w.view.now w.view.source with
    | some (feeder, source) => some { w with feeder, view := { w.view with source } }
    | none =>
      match (w.sender.moves w.config w.view).head? with
      | some (sender, view) =>
        some { w with
          sender, view
          ended := if sender.result?.isSome then some view.now else none }
      | none =>
        (w.consumer.step? w.view.now w.view.echo).map fun (consumer, echo) =>
          { w with consumer, view := { w.view with echo } }

/-- The world as a machine. -/
def machine : Machine SenderWorld where
  step? := step?
  alarms w :=
    w.events.alarms ++ w.feeder.alarms ++ w.sender.alarms w.config ++ w.consumer.alarms
  now w := w.view.now
  advance w now := { w with view := { w.view with now } }

end SenderWorld

/-- The end of a sender's rehearsal. -/
def SenderScript.run (s : SenderScript) : SenderWorld :=
  SenderWorld.machine.run Machine.stepLimit (.start s)

end LinkGauge.Rehearsal
