import LinkGauge.Stage.Closer
import LinkGauge.Stage.Measurer
import LinkGauge.Stage.Mux
import LinkGauge.Time

/-!
# The pipeline of a subtest

A subtest runs its stages side by side over one connection:

* download and upload: the measurer feeds the sender, and the saver merges what the
  sender has written with what the receiver decodes;
* ping: the multiplexer joins measurer and receiver, feeds the sender, and logs both
  origins for the saver.

Sampling stops at the default runtime, or as soon as the peer is no longer read. The
closer bounds the whole run by the maximum runtime.

`Pipeline.moves` lists all steps a task can take; which task moves next is open, so
that a statement over all choices speaks of every interleaving.
-/

namespace LinkGauge

namespace Pipeline

/-- What a pipeline is told at its start, the origin of its clock. -/
structure Config where
  subtest : Subtest
  identity : Identity := {}
  sampling : Sampling := {}
  instrument : Instrument
  /-- The n-th wait between samples as drawn. -/
  draws : Nat → Nanos
  /-- When sampling stops. -/
  defaultRuntime : Nanos := seconds 10
  /-- When the connection is closed at the latest. -/
  maxRuntime : Nanos := seconds 15
  ioTimeout : Nanos := seconds 7
  sizes : FillerSizes := {}
  /-- The wall clock at the start. -/
  startedAt : UtcTime := .epoch

namespace Config

/-- What the measurer is told. -/
def measurer (c : Config) : Measurer.Config where
  subtest := c.subtest
  identity := c.identity
  sampling := c.sampling
  instrument := c.instrument
  draws := c.draws

/-- What the receiver is told. -/
def receiver (c : Config) : Receiver.Config where
  subtest := c.subtest

/-- What the sender is told. -/
def sender (c : Config) : Sender.Config where
  subtest := c.subtest
  ioTimeout := c.ioTimeout
  sizes := c.sizes

end Config

/-- The tasks of a pipeline. -/
inductive Task where
  | measurer
  | receiver
  | mux
  | sender
  /-- Takes and drops what the sender of a ping run has written. -/
  | echoDrain
  | serverForwarder
  | clientForwarder
  /-- Ends the merged channel after both forwarders. -/
  | mergeEnd
  | saver
  | supervisor
  | closer
  deriving DecidableEq, Repr

/-- All tasks, in the order in which they are tried; the closer comes first, so that the
maximum runtime wins over what else happens at that moment. -/
def Task.all : List Task :=
  [.closer, .measurer, .receiver, .mux, .sender, .echoDrain, .serverForwarder,
    .clientForwarder, .mergeEnd, .saver, .supervisor]

end Pipeline

/-- The state of a pipeline. -/
structure Pipeline where
  config : Pipeline.Config
  now : Nanos := 0
  connection : Connection := {}
  wire : Wire := {}
  /-- Bounds the receiver. -/
  context : Context
  /-- Bounds the measurer. -/
  samplingContext : Context
  /-- What the measurer has sampled. -/
  samples : Channel Measurement := {}
  /-- What the receiver has decoded. -/
  received : Channel Received := {}
  /-- What a ping run has released to its sender. -/
  released : Channel Measurement := {}
  /-- What the sender has written. -/
  echo : Channel Measurement := {}
  /-- The server's measurements of a ping run. -/
  serverLog : Channel Measurement := {}
  /-- The client's measurements of a ping run. -/
  clientLog : Channel Measurement := {}
  merged : Channel Record := { writers := 3 }
  errors : Channel SubtestError := {}
  measurer : Measurer := {}
  receiver : Receiver := {}
  mux : Mux := {}
  sender : Sender
  serverForwarder : Forwarder := .waiting
  clientForwarder : Forwarder := .waiting
  mergeEnded : Bool := false
  saver : Saver := {}
  supervisor : Supervisor := .awaitingSaver
  closer : Closer := .waiting
  sink : RecordSink := {}
  archive : Archive
  log : Log := []

namespace Pipeline

/-- The pipeline at its start. -/
def start (config : Config) (connection : Connection) (wire : Wire) (sink : RecordSink)
    (archive : Archive) : Pipeline where
  config
  connection
  wire
  sink
  context := ⟨config.maxRuntime, false⟩
  samplingContext := ⟨min config.maxRuntime config.defaultRuntime, false⟩
  sender := .new config.sender
  archive := { archive with startTime := some config.startedAt }

/-- Whether this is a ping run. -/
def isPing (p : Pipeline) : Bool := p.config.subtest = .ping

/-- The steps of the measurer. -/
def measurerMoves (p : Pipeline) : List Pipeline :=
  (p.measurer.moves p.config.measurer
      { now := p.now, context := p.samplingContext, output := p.samples, log := p.log }).map
    fun (measurer, v) => { p with measurer, samples := v.output, log := v.log }

/-- What the receiver sees. -/
def receiverView (p : Pipeline) : Receiver.View where
  now := p.now
  context := p.context
  connection := p.connection
  wire := p.wire
  output := p.received
  stopRequested := p.samplingContext.cancelled
  log := p.log

/-- The steps of the receiver; in a ping run nobody is told that it stops. -/
def receiverMoves (p : Pipeline) : List Pipeline :=
  (p.receiver.moves p.config.receiver p.receiverView).map fun (receiver, v) =>
    { p with
      receiver
      connection := v.connection
      wire := v.wire
      received := v.output
      samplingContext :=
        if p.isPing then p.samplingContext
        else { p.samplingContext with cancelled := v.stopRequested }
      log := v.log }

/-- The steps of the multiplexer, which only a ping run has. -/
def muxMoves (p : Pipeline) : List Pipeline :=
  if p.isPing then
    let view : Mux.View :=
      { samples := p.samples
        received := p.received
        toSender := p.released
        serverLog := p.serverLog
        clientLog := p.clientLog
        stopRequested := p.samplingContext.cancelled }
    (p.mux.moves view).map fun (mux, v) =>
      { p with
        mux
        samples := v.samples
        received := v.received
        released := v.toSender
        serverLog := v.serverLog
        clientLog := v.clientLog
        samplingContext := { p.samplingContext with cancelled := v.stopRequested } }
  else []

/-- The steps of the sender. -/
def senderMoves (p : Pipeline) : List Pipeline :=
  let view : Sender.View :=
    { now := p.now
      connection := p.connection
      source := if p.isPing then p.released else p.samples
      echo := p.echo
      wire := p.wire
      log := p.log }
  (p.sender.moves p.config.sender view).map fun (sender, v) =>
    let p := { p with sender, echo := v.echo, wire := v.wire, log := v.log }
    if p.isPing then { p with released := v.source } else { p with samples := v.source }

/-- The steps of the task that drops what the sender of a ping run has written. -/
def echoDrainMoves (p : Pipeline) : List Pipeline :=
  if p.isPing then
    match p.echo.take? with
    | some (_, echo) => [{ p with echo }]
    | none => []
  else []

/-- The steps of the forwarder of the server's measurements. -/
def serverForwarderMoves (p : Pipeline) : List Pipeline :=
  let view : Forwarder.View Measurement :=
    { source := if p.isPing then p.serverLog else p.echo, merged := p.merged }
  (p.serverForwarder.moves (⟨.server, ·⟩) view).map fun (serverForwarder, v) =>
    let p := { p with serverForwarder, merged := v.merged }
    if p.isPing then { p with serverLog := v.source } else { p with echo := v.source }

/-- The steps of the forwarder of the client's measurements. -/
def clientForwarderMoves (p : Pipeline) : List Pipeline :=
  if p.isPing then
    (p.clientForwarder.moves (⟨.client, ·⟩) { source := p.clientLog, merged := p.merged }).map
      fun (clientForwarder, v) =>
        { p with clientForwarder, clientLog := v.source, merged := v.merged }
  else
    (p.clientForwarder.moves (fun (r : Received) => ⟨.client, r.measurement⟩)
        { source := p.received, merged := p.merged }).map
      fun (clientForwarder, v) =>
        { p with clientForwarder, received := v.source, merged := v.merged }

/-- The step that ends the merged channel once both forwarders have finished. -/
def mergeEndMoves (p : Pipeline) : List Pipeline :=
  if !p.mergeEnded && p.serverForwarder = .finished && p.clientForwarder = .finished then
    [{ p with mergeEnded := true, merged := p.merged.hangUp }]
  else []

/-- The steps of the saver. -/
def saverMoves (p : Pipeline) : List Pipeline :=
  let view : Saver.View :=
    { merged := p.merged, sink := p.sink, archive := p.archive, log := p.log }
  (p.saver.moves view).map fun (saver, v) =>
    { p with saver, merged := v.merged, sink := v.sink, archive := v.archive, log := v.log }

/-- The steps of the supervisor. -/
def supervisorMoves (p : Pipeline) : List Pipeline :=
  let view : Supervisor.View :=
    { now := p.now
      sent := p.sender.result?.map (·.mapError .send)
      saved := p.saver.result?
      closed := p.closer.result?
      errors := p.errors
      archive := p.archive }
  (p.supervisor.moves p.config.startedAt.later view).map fun (supervisor, v) =>
    { p with supervisor, errors := v.errors, archive := v.archive }

/-- The steps of the closer. -/
def closerMoves (p : Pipeline) : List Pipeline :=
  let view : Closer.View :=
    { now := p.now, connection := p.connection, outcome := p.errors, log := p.log }
  (p.closer.moves p.config.maxRuntime view).map fun (closer, v) =>
    { p with closer, connection := v.connection, errors := v.outcome, log := v.log }

/-- The steps a task can take. -/
def moves (p : Pipeline) : Task → List Pipeline
  | .measurer => p.measurerMoves
  | .receiver => p.receiverMoves
  | .mux => p.muxMoves
  | .sender => p.senderMoves
  | .echoDrain => p.echoDrainMoves
  | .serverForwarder => p.serverForwarderMoves
  | .clientForwarder => p.clientForwarderMoves
  | .mergeEnd => p.mergeEndMoves
  | .saver => p.saverMoves
  | .supervisor => p.supervisorMoves
  | .closer => p.closerMoves

/-- The moments at which a waiting task may go on by itself. -/
def alarms (p : Pipeline) : List Nanos :=
  p.measurer.alarms
      { now := p.now, context := p.samplingContext, output := p.samples, log := p.log } ++
    p.receiver.alarms p.receiverView ++ p.sender.alarms p.config.sender ++
    p.closer.alarms p.config.maxRuntime

/-- The result of a run that has returned. -/
def result? (p : Pipeline) : Option (Except SubtestError Unit) := p.supervisor.result?

/-- The step of the first task that can take one, until the run has returned. -/
def step? (p : Pipeline) : Option Pipeline :=
  if p.result?.isSome then none
  else Task.all.findSome? fun task => (p.moves task).head?

/-- The pipeline as a machine. -/
def machine : Machine Pipeline where
  step? := step?
  alarms p := if p.result?.isSome then [] else p.alarms
  now := now
  advance p now := { p with now }

end Pipeline

end LinkGauge
