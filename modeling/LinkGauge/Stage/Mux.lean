import LinkGauge.Stage.Receiver

/-!
# The multiplexer of a ping run

The multiplexer joins the measurer's samples with what the receiver decodes. It
collects the parts of everything that arrives into one pending measurement. An echo
means that no ping is under way: the pending measurement is handed to the sender,
which follows it with the next ping, and collecting starts again from nothing.

The end of the measurer's samples ends the sender's source; the end of the
receiver's requests the measurer to stop; the two logs end after both.
-/

namespace LinkGauge

namespace Mux

/-- What a multiplexer is doing. -/
inductive Activity where
  | selecting
  /-- It logs a sample of the server; an echo is also handed on. -/
  | loggingServer (measurement : Measurement) (echo : Bool)
  /-- It hands a collected measurement to the sender. -/
  | releasing (measurement : Measurement)
  /-- It logs a measurement of the client. -/
  | loggingClient (measurement : Measurement)
  | finished
  deriving DecidableEq, Repr

/-- What a multiplexer shares with others. -/
structure View where
  samples : Channel Measurement
  received : Channel Received
  toSender : Channel Measurement
  serverLog : Channel Measurement
  clientLog : Channel Measurement
  /-- Whether the measurer has been requested to stop. -/
  stopRequested : Bool

end Mux

/-- The state of a multiplexer. -/
structure Mux where
  activity : Mux.Activity := .selecting
  /-- What has been collected since the last echo. -/
  pending : Measurement := {}
  samplesOpen : Bool := true
  receivedOpen : Bool := true

namespace Mux

/-- Takes a sample, or notices that there are no more. -/
def takeSample (m : Mux) (v : View) : List (Mux × View) :=
  if m.samplesOpen then
    match v.samples.take? with
    | some (sample, samples) =>
      [({ m with activity := .loggingServer sample false }, { v with samples })]
    | none =>
      if v.samples.ended then
        [({ m with samplesOpen := false }, { v with toSender := v.toSender.hangUp })]
      else []
  else []

/-- Takes what the receiver decoded, or notices that there is no more. -/
def takeReceived (m : Mux) (v : View) : List (Mux × View) :=
  if m.receivedOpen then
    match v.received.take? with
    | some (⟨.server, sample⟩, received) =>
      [({ m with activity := .loggingServer sample true }, { v with received })]
    | some (⟨.client, message⟩, received) =>
      [({ m with activity := .loggingClient message, pending := m.pending.merge message },
        { v with received })]
    | none =>
      if v.received.ended then
        [({ m with receivedOpen := false }, { v with stopRequested := true })]
      else []
  else []

/-- Collects a logged sample, and releases what was collected after an echo. -/
def collect (m : Mux) (sample : Measurement) (echo : Bool) : Mux :=
  let pending := m.pending.merge sample
  if echo then
    { m with
      pending := {}
      activity := if m.samplesOpen then .releasing pending else .selecting }
  else { m with pending, activity := .selecting }

/-- The steps a multiplexer can take. -/
def moves (m : Mux) (v : View) : List (Mux × View) :=
  match m.activity with
  | .selecting =>
    if m.samplesOpen || m.receivedOpen then m.takeSample v ++ m.takeReceived v
    else
      [({ m with activity := .finished },
        { v with serverLog := v.serverLog.hangUp, clientLog := v.clientLog.hangUp })]
  | .loggingServer sample echo =>
    match v.serverLog.send? sample with
    | some (_, serverLog) => [(m.collect sample echo, { v with serverLog })]
    | none => []
  | .releasing measurement =>
    match v.toSender.send? measurement with
    | some (_, toSender) => [({ m with activity := .selecting }, { v with toSender })]
    | none => []
  | .loggingClient message =>
    match v.clientLog.send? message with
    | some (_, clientLog) => [({ m with activity := .selecting }, { v with clientLog })]
    | none => []
  | .finished => []

end Mux

end LinkGauge
