import LinkGauge.Context
import LinkGauge.Rehearsal.Parts
import LinkGauge.Sampling
import LinkGauge.Stage.Measurer

/-!
# Rehearsals of the measurer
-/

namespace LinkGauge.Rehearsal

/-!
## Rehearsals of ticking

A ticker waits and ticks until its context is done; between two ticks its user may
pause. A tick that falls together with the end of the context is none.
-/

/-- What surrounds a ticker. -/
structure TickerScript where
  sampling : Sampling
  /-- The waits as drawn. -/
  draws : Nat → Nanos
  context : Context
  cancelAt : Option Nanos
  /-- The pauses after the ticks. -/
  pauses : List Nanos

/-- The ticks and the end of a ticker. -/
structure Ticks where
  times : List Nanos
  ended : Nanos
  /-- Whether another tick after the end is none at once. -/
  endedForGood : Bool

namespace TickerScript

/-- When the context is done, seen from the start. -/
def doneAt (s : TickerScript) : Nanos :=
  if s.context.cancelled then 0
  else
    match s.cancelAt with
    | some time => min time s.context.deadline
    | none => s.context.deadline

/-- The ticks from a moment on, oldest first, and the end. -/
def ticksFrom (s : TickerScript) : Nat → Nat → Nanos → List Nanos → List Nanos × Nanos
  | 0, _, now, _ => ([], now)
  | steps + 1, drawn, now, pauses =>
    if s.doneAt ≤ now then ([], now)
    else
      let time := now + s.sampling.bounded (s.draws drawn)
      if time < s.doneAt then
        let (later, ended) := s.ticksFrom steps (drawn + 1) (time + pauses.headD 0) pauses.tail
        (time :: later, ended)
      else ([], s.doneAt)

/-- Runs the ticker to its end. -/
def run (s : TickerScript) : Except SamplingError Ticks := do
  s.sampling.validate
  let (times, ended) := s.ticksFrom (s.doneAt + 1) 0 0 s.pauses
  return { times, ended, endedForGood := s.doneAt ≤ ended }

end TickerScript

/-! ## Rehearsals of the measurer -/

/-- The n-th element of a list that repeats as a whole. -/
def cycled {α : Type} (values : List α) (n : Nat) : Option α := values[n % values.length]?

/-- An instrument whose readings repeat; without any, every reading fails. -/
def cyclingInstrument (enableError : Option String)
    (readings : List (Option Congestion × Option TcpStats)) : Instrument where
  enableError
  congestion n := (cycled readings n).bind (·.1)
  tcpStats n := (cycled readings n).bind (·.2)

/-- The neighbours of a measurer. -/
structure MeasurerScript where
  config : Measurer.Config
  context : Context
  cancelAt : Option Nanos
  rests : List Nanos
  leaveAfter : Option Nat

/-- A measurer among its neighbours. -/
structure MeasurerWorld where
  config : Measurer.Config
  view : Measurer.View
  measurer : Measurer := {}
  consumer : Consumer Measurement
  cancels : Timeline Unit

namespace MeasurerWorld

/-- The world at the start. -/
def start (s : MeasurerScript) : MeasurerWorld where
  config := s.config
  view := { now := 0, context := s.context, output := {}, log := [] }
  consumer := { rests := s.rests, leaveAfter := s.leaveAfter }
  cancels := (s.cancelAt.map fun time => (time, ())).toList

/-- The next step: a cancellation, then the measurer and the consumer. -/
def step? (w : MeasurerWorld) : Option MeasurerWorld :=
  match w.cancels.next? w.view.now with
  | some ((), cancels) =>
    some { w with cancels, view := { w.view with context := w.view.context.cancel } }
  | none =>
    match (w.measurer.moves w.config w.view).head? with
    | some (measurer, view) => some { w with measurer, view }
    | none =>
      (w.consumer.step? w.view.now w.view.output).map fun (consumer, output) =>
        { w with consumer, view := { w.view with output } }

/-- The world as a machine. -/
def machine : Machine MeasurerWorld where
  step? := step?
  alarms w := w.cancels.alarms ++ w.measurer.alarms w.view ++ w.consumer.alarms
  now w := w.view.now
  advance w now := { w with view := { w.view with now } }

end MeasurerWorld

/-- The end of a measurer's rehearsal. -/
def MeasurerScript.run (s : MeasurerScript) : MeasurerWorld :=
  MeasurerWorld.machine.run Machine.stepLimit (.start s)

end LinkGauge.Rehearsal
