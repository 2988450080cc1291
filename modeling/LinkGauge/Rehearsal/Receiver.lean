import LinkGauge.Rehearsal.Parts
import LinkGauge.Stage.Receiver

/-!
# Rehearsals of the receiver
-/

namespace LinkGauge.Rehearsal

/-- What happens to a receiver from outside. -/
inductive ReceiverEvent where
  /-- Its context is cancelled. -/
  | cancel
  /-- Its connection is closed. -/
  | close
  deriving DecidableEq, Repr

/-- The neighbours of a receiver. -/
structure ReceiverScript where
  config : Receiver.Config
  deadline : Nanos
  arrivals : List (Nanos × Arrival)
  events : List (Nanos × ReceiverEvent)
  rests : List Nanos
  leaveAfter : Option Nat

/-- A receiver among its neighbours. -/
structure ReceiverWorld where
  config : Receiver.Config
  view : Receiver.View
  receiver : Receiver := {}
  consumer : Consumer Received
  events : Timeline ReceiverEvent

namespace ReceiverWorld

/-- The world at the start. -/
def start (s : ReceiverScript) : ReceiverWorld where
  config := s.config
  view :=
    { now := 0
      context := ⟨s.deadline, false⟩
      connection := {}
      wire := { arrivals := s.arrivals.mergeSort fun a b => a.1 ≤ b.1 }
      output := {}
      stopRequested := false
      log := [] }
  consumer := { rests := s.rests, leaveAfter := s.leaveAfter }
  events := .ofList s.events

/-- What happens to the receiver. -/
def happen (v : Receiver.View) : ReceiverEvent → Receiver.View
  | .cancel => { v with context := v.context.cancel }
  | .close => { v with connection := v.connection.close.2 }

/-- The next step: events, then the receiver and the consumer. -/
def step? (w : ReceiverWorld) : Option ReceiverWorld :=
  match w.events.next? w.view.now with
  | some (event, events) => some { w with events, view := happen w.view event }
  | none =>
    match (w.receiver.moves w.config w.view).head? with
    | some (receiver, view) => some { w with receiver, view }
    | none =>
      (w.consumer.step? w.view.now w.view.output).map fun (consumer, output) =>
        { w with consumer, view := { w.view with output } }

/-- The world as a machine. -/
def machine : Machine ReceiverWorld where
  step? := step?
  alarms w := w.events.alarms ++ w.receiver.alarms w.view ++ w.consumer.alarms
  now w := w.view.now
  advance w now := { w with view := { w.view with now } }

end ReceiverWorld

/-- The end of a receiver's rehearsal. -/
def ReceiverScript.run (s : ReceiverScript) : ReceiverWorld :=
  ReceiverWorld.machine.run Machine.stepLimit (.start s)

end LinkGauge.Rehearsal
