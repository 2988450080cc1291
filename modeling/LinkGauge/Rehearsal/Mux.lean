import LinkGauge.Stage.Mux
import LinkGauge.Time

/-!
# Rehearsals of the multiplexer

After every step of a rehearsal the multiplexer moves as long as it can. Its outputs
are either drained all the time or read one by one.
-/

namespace LinkGauge.Rehearsal

/-- An output of the multiplexer. -/
inductive MuxOutput where
  | client
  | sender
  | server
  deriving DecidableEq, Repr

/-- A step of a rehearsal. -/
inductive MuxStep where
  | sample (measurement : Measurement)
  | received (received : Received)
  | closeSamples
  | closeReceived
  /-- Reads an output without waiting. -/
  | read (output : MuxOutput)
  /-- Stops reading an output. -/
  | drop (output : MuxOutput)

/-- What a step answers. -/
inductive MuxAnswer where
  | ok
  | full
  | closed
  | empty
  /-- The output is no longer read. -/
  | gone
  | value (measurement : Measurement)

/-- A multiplexer among its neighbours. -/
structure MuxWorld where
  drain : Bool
  mux : Mux := {}
  view : Mux.View :=
    { samples := {}
      received := {}
      toSender := {}
      serverLog := {}
      clientLog := {}
      stopRequested := false }
  /-- What was drained, newest first; `none` is the end of an output. -/
  drained : List (MuxOutput × Option Measurement) := []
  /-- The outputs whose end has been seen. -/
  ended : List MuxOutput := []

namespace MuxWorld

/-- An output. -/
def output (w : MuxWorld) : MuxOutput → Channel Measurement
  | .client => w.view.clientLog
  | .sender => w.view.toSender
  | .server => w.view.serverLog

/-- Replaces an output. -/
def setOutput (w : MuxWorld) (c : Channel Measurement) : MuxOutput → MuxWorld
  | .client => { w with view := { w.view with clientLog := c } }
  | .sender => { w with view := { w.view with toSender := c } }
  | .server => { w with view := { w.view with serverLog := c } }

/-- Drains one value or the end of an output. -/
def drainOne? (w : MuxWorld) (o : MuxOutput) : Option MuxWorld :=
  match (w.output o).take? with
  | some (m, c) => some { w.setOutput c o with drained := (o, some m) :: w.drained }
  | none =>
    if (w.output o).ended && !w.ended.contains o then
      some { w with drained := (o, none) :: w.drained, ended := o :: w.ended }
    else none

/-- The next step: the multiplexer, then draining. -/
def step? (w : MuxWorld) : Option MuxWorld :=
  match (w.mux.moves w.view).head? with
  | some (mux, view) => some { w with mux, view }
  | none =>
    if w.drain then [MuxOutput.client, .sender, .server].findSome? w.drainOne? else none

/-- The world as a machine without a clock. -/
def machine : Machine MuxWorld where
  step? := step?
  alarms _ := []
  now _ := 0
  advance w _ := w

/-- Sends to an input without waiting. -/
def trySend {α : Type} (c : Channel α) (value : α) : MuxAnswer × Channel α :=
  if c.writers = 0 then (.closed, c)
  else
    match c.send? value with
    | some (.accepted, c) => (.ok, c)
    | some (.gone, c) => (.closed, c)
    | none => (.full, c)

/-- Does one step of a rehearsal. -/
def act (w : MuxWorld) : MuxStep → MuxAnswer × MuxWorld
  | .sample m =>
    let (answer, samples) := trySend w.view.samples m
    (answer, { w with view := { w.view with samples } })
  | .received r =>
    let (answer, received) := trySend w.view.received r
    (answer, { w with view := { w.view with received } })
  | .closeSamples =>
    (.ok, { w with view := { w.view with samples := w.view.samples.hangUp } })
  | .closeReceived =>
    (.ok, { w with view := { w.view with received := w.view.received.hangUp } })
  | .read o =>
    let c := w.output o
    if !c.reading then (.gone, w)
    else
      match c.take? with
      | some (m, c) => (.value m, w.setOutput c o)
      | none => (if c.ended then .closed else .empty, w)
  | .drop o => (.ok, w.setOutput (w.output o).stopReading o)

/-- Does one step and lets the multiplexer move; also tells what came out. -/
def perform (w : MuxWorld) (step : MuxStep) :
    MuxAnswer × List (MuxOutput × Option Measurement) × MuxWorld :=
  let (answer, w) := { w with drained := [] }.act step
  let w := machine.settle Machine.stepLimit w
  let out := w.drained.reverse
  (answer, [MuxOutput.client, .sender, .server].flatMap fun o => out.filter (·.1 = o), w)

end MuxWorld

end LinkGauge.Rehearsal
