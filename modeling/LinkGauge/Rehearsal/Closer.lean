import LinkGauge.Rehearsal.Parts
import LinkGauge.Stage.Closer

/-!
# Rehearsals of the closer
-/

namespace LinkGauge.Rehearsal

/-- What a reporter does. -/
inductive ReporterEvent where
  | report (error : SubtestError)
  /-- The last reporter leaves. -/
  | close

/-- The neighbours of a closer. -/
structure CloserScript where
  ceiling : Nanos
  capacity : Nat
  events : List (Nanos × ReporterEvent)
  connection : Connection
  /-- How long to go on after the closer has returned. -/
  linger : Nanos

/-- A closer among its neighbours. -/
structure CloserWorld where
  ceiling : Nanos
  linger : Nanos
  view : Closer.View
  closer : Closer := .waiting
  events : Timeline ReporterEvent
  /-- Whether each report after the start was accepted, newest first. -/
  sent : List Bool := []
  ended : Option Nanos := none

namespace CloserWorld

/-- The world at the start. -/
def start (s : CloserScript) : CloserWorld where
  ceiling := s.ceiling
  linger := s.linger
  view :=
    { now := 0, connection := s.connection, outcome := { capacity := s.capacity }, log := [] }
  events := .ofList s.events

/-- Takes an event, unless a report has to wait. -/
def happen? (w : CloserWorld) : ReporterEvent → Option CloserWorld
  | .close => some { w with view := { w.view with outcome := w.view.outcome.hangUp } }
  | .report error =>
    (w.view.outcome.send? error).map fun (delivery, outcome) =>
      { w with
        view := { w.view with outcome }
        sent := if w.view.now = 0 then w.sent else (delivery == .accepted) :: w.sent }

/-- The next event that can be taken. -/
def eventStep? (w : CloserWorld) : Option CloserWorld := do
  let (event, events) ← w.events.next? w.view.now
  { w with events }.happen? event

/-- The next step: events, then the closer. -/
def step? (w : CloserWorld) : Option CloserWorld :=
  match w.eventStep? with
  | some w => some w
  | none =>
    (w.closer.moves w.ceiling w.view).head?.map fun (closer, view) =>
      { w with closer, view, ended := if closer.result?.isSome then some view.now else none }

/-- The world as a machine. -/
def machine : Machine CloserWorld where
  step? := step?
  alarms w :=
    (w.events.alarms ++ w.closer.alarms w.ceiling).filter fun time =>
      match w.ended with
      | some ended => time ≤ ended + w.linger
      | none => true
  now w := w.view.now
  advance w now := { w with view := { w.view with now } }

end CloserWorld

/-- The end of a closer's rehearsal. -/
def CloserScript.run (s : CloserScript) : CloserWorld :=
  CloserWorld.machine.run Machine.stepLimit (.start s)

end LinkGauge.Rehearsal
