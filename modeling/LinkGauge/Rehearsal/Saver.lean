import LinkGauge.Stage.Saver
import LinkGauge.Time

/-!
# Rehearsals of the saver
-/

namespace LinkGauge.Rehearsal

/-- A saver with its two forwarders and their inputs. -/
structure SaverWorld where
  server : Channel Measurement := {}
  client : Channel Measurement := {}
  serverForwarder : Forwarder := .waiting
  clientForwarder : Forwarder := .waiting
  mergeEnded : Bool := false
  saver : Saver := {}
  view : Saver.View

/-- A step of a rehearsal. -/
inductive SaverStep where
  | send (record : Record)
  | close (origin : Origin)

namespace SaverWorld

/-- The world at the start. -/
def start (sink : RecordSink) (archive : Archive) : SaverWorld where
  view := { merged := { writers := 3 }, sink, archive, log := [] }

/-- The steps of a forwarder. -/
def forwarderMoves (w : SaverWorld) : Origin → List SaverWorld
  | .server =>
    (w.serverForwarder.moves (⟨.server, ·⟩) { source := w.server, merged := w.view.merged }).map
      fun (serverForwarder, v) =>
        { w with serverForwarder, server := v.source, view := { w.view with merged := v.merged } }
  | .client =>
    (w.clientForwarder.moves (⟨.client, ·⟩) { source := w.client, merged := w.view.merged }).map
      fun (clientForwarder, v) =>
        { w with clientForwarder, client := v.source, view := { w.view with merged := v.merged } }

/-- The step that ends the merged channel once both forwarders have finished. -/
def mergeEndMoves (w : SaverWorld) : List SaverWorld :=
  if !w.mergeEnded && w.serverForwarder = .finished && w.clientForwarder = .finished then
    [{ w with mergeEnded := true, view := { w.view with merged := w.view.merged.hangUp } }]
  else []

/-- All steps that are possible. -/
def moves (w : SaverWorld) : List SaverWorld :=
  w.forwarderMoves .server ++ w.forwarderMoves .client ++ w.mergeEndMoves ++
    (w.saver.moves w.view).map fun (saver, view) => { w with saver, view }

/-- The world as a machine without a clock. -/
def machine : Machine SaverWorld where
  step? w := w.moves.head?
  alarms _ := []
  now _ := 0
  advance w _ := w

/-- Sends to an input that is open. -/
def send (c : Channel Measurement) (m : Measurement) : Channel Measurement :=
  if c.writers = 0 then c
  else
    match c.send? m with
    | some (_, c) => c
    | none => c

/-- Does one step of a rehearsal. -/
def act (w : SaverWorld) : SaverStep → SaverWorld
  | .send ⟨.server, m⟩ => { w with server := send w.server m }
  | .send ⟨.client, m⟩ => { w with client := send w.client m }
  | .close .server => { w with server := w.server.hangUp }
  | .close .client => { w with client := w.client.hangUp }

/-- Does one step and lets everything move. -/
def perform (w : SaverWorld) (step : SaverStep) : SaverWorld :=
  machine.settle Machine.stepLimit (w.act step)

/-- Closes both inputs and lets everything move. -/
def finish (w : SaverWorld) : SaverWorld :=
  (w.perform (.close .server)).perform (.close .client)

end SaverWorld

end LinkGauge.Rehearsal
