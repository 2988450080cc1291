import LinkGauge.Proofs.Mux.ServerSide
import LinkGauge.Proofs.Pipeline.Archiving
import LinkGauge.Proofs.Pipeline.Wiring
import LinkGauge.Proofs.Receiver.Acting

/-!
# What a ping run leaves behind

In a ping run the multiplexer takes what the measurer has sampled and what the receiver hands on,
and its two logs are merged into the archive. `Pipeline.Logging.Logs` relates all of these to what
has happened. When the run returns, everything has arrived and is archived
(`Pipeline.Logging.left_of_run`).
-/

namespace LinkGauge.Pipeline

open Record

/-- The merging of the two logs of a ping run. -/
def logging (p : Pipeline) : Merging :=
  p.mergingFrom fun
    | .server => p.serverLog
    | .client => p.clientLog

namespace Logging

/-- What happens in a ping run. -/
inductive Event where
  /-- The measurer hands on a sample. -/
  | sampled (sample : Measurement)
  /-- Something happens at the receiver. -/
  | receiver (event : Receiver.Event)
  /-- Something arrives at the multiplexer. -/
  | arrived (arrival : Mux.Arrival)
  /-- The multiplexer hands a measurement to the sender. -/
  | released (measurement : Measurement)

section Projections

def Event.sampled? : Event → Option Measurement
  | .sampled sample => some sample
  | _ => none

def Event.receiver? : Event → Option Receiver.Event
  | .receiver event => some event
  | _ => none

def Event.arrived? : Event → Option Mux.Arrival
  | .arrived arrival => some arrival
  | _ => none

def Event.released? : Event → Option Measurement
  | .released m => some m
  | _ => none

def sampledOf (events : List Event) : List Measurement := events.filterMap Event.sampled?

def atReceiver (events : List Event) : List Receiver.Event := events.filterMap Event.receiver?

def arrivalsOf (events : List Event) : List Mux.Arrival := events.filterMap Event.arrived?

def releasedOf (events : List Event) : List Measurement := events.filterMap Event.released?

/-- What the receiver has read, and when. -/
def readsOf (events : List Event) : List (Nanos × Arrival) := Receiver.readsOf (atReceiver events)

/-- What the receiver has handed on. -/
def handedOf (events : List Event) : List Received := Receiver.handedOf (atReceiver events)

end Projections

/-- What the tasks of a ping run show. -/
def shown : Task → Pipeline → Pipeline → List Event
  | .measurer, p, q => (p.measurer.handed q.measurer).map .sampled
  | .receiver, p, q =>
    (Receiver.shown p.receiver p.receiverView (q.receiver, q.receiverView)).map .receiver
  | .mux, p, q =>
    (p.mux.arrivedBetween q.mux).map .arrived ++ p.mux.atHand.toSender.map .released
  | _, _, _ => []

/-- What has been seen of a ping run. -/
structure Seen where
  sampled : List Measurement := []
  reads : List (Nanos × Arrival) := []
  handed : List Received := []
  arrivals : List Mux.Arrival := []
  released : List Measurement := []

def seenOf (events : List Event) : Seen :=
  ⟨sampledOf events, readsOf events, handedOf events, arrivalsOf events, releasedOf events⟩

def Seen.append (first second : Seen) : Seen where
  sampled := first.sampled ++ second.sampled
  reads := first.reads ++ second.reads
  handed := first.handed ++ second.handed
  arrivals := first.arrivals ++ second.arrivals
  released := first.released ++ second.released

private theorem Seen.append_nothing (seen : Seen) : seen.append {} = seen := by
  simp only [append, List.append_nil]

private theorem seenOf_append (events more : List Event) :
    seenOf (events ++ more) = (seenOf events).append (seenOf more) := by
  simp only [seenOf, sampledOf, readsOf, Receiver.readsOf, handedOf, Receiver.handedOf, atReceiver,
    arrivalsOf, releasedOf, List.filterMap_append, Seen.append]

private theorem seenOf_sampled (samples : List Measurement) :
    seenOf (samples.map .sampled) = { sampled := samples } := by
  induction samples with
  | nil => rfl
  | cons m rest ih =>
      exact congrArg (fun seen : Seen => { seen with sampled := m :: seen.sampled }) ih

private theorem seenOf_receiver (events : List Receiver.Event) :
    seenOf (events.map .receiver) =
      { reads := Receiver.readsOf events, handed := Receiver.handedOf events } := by
  induction events with
  | nil => rfl
  | cons event rest ih =>
      cases event with
      | read moment arrival =>
          exact congrArg
            (fun seen : Seen => { seen with reads := (moment, arrival) :: seen.reads }) ih
      | handed received =>
          exact congrArg (fun seen : Seen => { seen with handed := received :: seen.handed }) ih
      | taken | rescheduled => exact ih

private theorem seenOf_arrived (arrivals : List Mux.Arrival) :
    seenOf (arrivals.map .arrived) = { arrivals } := by
  induction arrivals with
  | nil => rfl
  | cons arrival rest ih =>
      exact congrArg (fun seen : Seen => { seen with arrivals := arrival :: seen.arrivals }) ih

private theorem seenOf_released (released : List Measurement) :
    seenOf (released.map .released) = { released } := by
  induction released with
  | nil => rfl
  | cons m rest ih =>
      exact congrArg (fun seen : Seen => { seen with released := m :: seen.released }) ih

/-- What has been seen of a ping run, against its state: what was sent to be merged and what was
merged, and what is on its way to the multiplexer. -/
structure Logs (sink : RecordSink) (before : Origin → List Measurement) (sent merged : List Record)
    (seen : Seen) (p : Pipeline) : Prop where
  ping : p.isPing = true
  accounts : p.logging.Accounts sink before sent merged
  given : Mux.Given seen.arrivals
    ⟨measurementsOf .server sent, measurementsOf .client sent, seen.released⟩ p.mux
  samplesClosed : p.mux.samplesOpen = false ↔ .samplesEnd ∈ seen.arrivals
  sampled : seen.sampled = Mux.samplesOf seen.arrivals ++ p.samples.queue
  handed : seen.handed = Mux.receivedOf seen.arrivals ++ p.received.queue
  samplesRead : p.samples.reading = true
  receivedRead : p.received.reading = true
  reads : Receiver.Reads p.config.receiver seen.reads seen.handed p.receiver
  context : p.context = ⟨p.config.maxRuntime, false⟩
  whole : p.receiver.activity = .finished →
    seen.handed = Receiver.decoded p.config.receiver [] seen.reads ∨ p.config.maxRuntime ≤ p.now
  saved : p.supervisor ≠ .awaitingSaver → p.saver.finished = true

variable {sink : RecordSink} {before : Origin → List Measurement} {sent merged : List Record}
  {config : Config} {seen : Seen} {p q : Pipeline}

/-! ### The logs -/

private theorem logging_server (p : Pipeline) (f : Forwarder) (c : Channel Measurement)
    (merged : Channel Record) :
    logging { p with serverForwarder := f, serverLog := c, merged } =
      { p.logging with
        input := Function.update p.logging.input .server c
        forwarder := Function.update p.logging.forwarder .server f
        merged } := by
  unfold logging mergingFrom
  congr <;> funext origin <;> cases origin <;> rfl

private theorem logging_client (p : Pipeline) (f : Forwarder) (c : Channel Measurement)
    (merged : Channel Record) :
    logging { p with clientForwarder := f, clientLog := c, merged } =
      { p.logging with
        input := Function.update p.logging.input .client c
        forwarder := Function.update p.logging.forwarder .client f
        merged } := by
  unfold logging mergingFrom
  congr <;> funext origin <;> cases origin <;> rfl

private theorem logging_serverLog (p : Pipeline) (c : Channel Measurement) :
    logging { p with serverLog := c } =
      { p.logging with input := Function.update p.logging.input .server c } := by
  have given := logging_server p (p.logging.forwarder .server) c p.merged
  rw [Function.update_eq_self] at given
  exact given

private theorem logging_clientLog (p : Pipeline) (c : Channel Measurement) :
    logging { p with clientLog := c } =
      { p.logging with input := Function.update p.logging.input .client c } := by
  have given := logging_client p (p.logging.forwarder .client) c p.merged
  rw [Function.update_eq_self] at given
  exact given

/-- The records that a multiplexer logs by its next move. -/
def logged (m : Mux) : List Record :=
  m.owedServerLog.map (⟨.server, ·⟩) ++ m.owedClientLog.map (⟨.client, ·⟩)

private theorem measurementsOf_logged (m : Mux) :
    measurementsOf .server (logged m) = m.owedServerLog ∧
      measurementsOf .client (logged m) = m.owedClientLog := by
  unfold logged Mux.owedServerLog Mux.owedClientLog
  cases m.activity <;> exact ⟨rfl, rfl⟩

private theorem accounts_mux (wired : Wired config p) (ping : p.isPing = true)
    (accounts : p.logging.Accounts sink before sent merged) {arrivals : List Mux.Arrival}
    {mux : Mux} {v : Mux.View} (moved : Mux.Moved p.mux p.muxView arrivals mux v) :
    Merging.Accounts sink before (sent ++ logged p.mux) merged
      (logging { p with mux, serverLog := v.serverLog, clientLog := v.clientLog }) := by
  cases moved with
  | takeSample activity | endSamples activity | takeEcho activity | takeMessage activity
  | endReceived activity | release activity =>
      simp only [logged, Mux.owedServerLog, Mux.owedClientLog, activity, List.map_nil,
        List.append_nil]
      exact accounts
  | finish activity =>
      simp only [logged, Mux.owedServerLog, Mux.owedClientLog, activity, List.map_nil,
        List.append_nil]
      have server := accounts.close .server
      rw [← logging_serverLog] at server
      have client := server.close .client
      rw [← logging_clientLog] at client
      exact client
  | @logServer sample _ _ _ activity given =>
      obtain ⟨-, -, rfl⟩ := Channel.send?_eq_some (accounts.inputsRead .server) given
      have opened := (wired.serverLog ping).writers
      rw [activity] at opened
      have kept := accounts.send ⟨.server, sample⟩ (opened ▸ Nat.one_ne_zero)
      rw [← logging_serverLog] at kept
      simp only [logged, Mux.owedServerLog, Mux.owedClientLog, activity]
      exact kept
  | @logClient message _ _ activity given =>
      obtain ⟨-, -, rfl⟩ := Channel.send?_eq_some (accounts.inputsRead .client) given
      have opened := (wired.clientLog ping).writers
      rw [activity] at opened
      have kept := accounts.send ⟨.client, message⟩ (opened ▸ Nat.one_ne_zero)
      rw [← logging_clientLog] at kept
      simp only [logged, Mux.owedServerLog, Mux.owedClientLog, activity]
      exact kept

/-! ### One step -/

namespace Logs

private theorem measurer (logs : Logs sink before sent merged seen p)
    (moved : q ∈ p.measurerMoves) :
    Logs sink before sent merged
      { seen with sampled := seen.sampled ++ p.measurer.handed q.measurer } q := by
  obtain ⟨⟨measurer, v⟩, member, rfl⟩ := List.mem_map.mp moved
  obtain ⟨queue, samplesRead⟩ := (Measurer.mem_moves_iff.mp member).output logs.samplesRead
  refine { logs with samplesRead, sampled := ?_ }
  dsimp only at queue ⊢
  rw [queue, logs.sampled, List.append_assoc]

private theorem receiver (logs : Logs sink before sent merged seen p)
    (moved : q ∈ p.receiverMoves) :
    let events := Receiver.shown p.receiver p.receiverView (q.receiver, q.receiverView)
    Logs sink before sent merged
      { seen with
        reads := seen.reads ++ Receiver.readsOf events
        handed := seen.handed ++ Receiver.handedOf events } q := by
  obtain ⟨⟨receiver, v⟩, member, rfl⟩ := List.mem_map.mp moved
  have acted := (Receiver.mem_moves_iff.mp member).acted
  obtain ⟨queue, receivedRead⟩ := acted.output logs.receivedRead
  have handed := logs.handed
  refine { logs with
    receivedRead, handed := ?_, reads := logs.reads.act acted, whole := fun finished => ?_ }
  · dsimp only at queue handed ⊢
    rw [queue, handed, List.append_assoc]
    rfl
  · refine (acted.whole logs.reads finished).imp id fun cut => ?_
    rcases cut with done | left
    · -- Nothing but the deadline ends the context of a pipeline.
      have same : p.receiverView.context = ⟨p.config.maxRuntime, false⟩ := logs.context
      rw [same, Context.isDone, Bool.false_or] at done
      exact of_decide_eq_true done
    · cases logs.receivedRead.symm.trans left

private theorem mux (wired : Wired config p) (logs : Logs sink before sent merged seen p)
    (moved : q ∈ p.muxMoves) :
    Logs sink before (sent ++ logged p.mux) merged
      { seen with
        arrivals := seen.arrivals ++ p.mux.arrivedBetween q.mux
        released := seen.released ++ p.mux.atHand.toSender } q := by
  obtain ⟨-, mux, v, member, rfl⟩ := of_mem_muxMoves moved
  obtain ⟨arrivals, move⟩ := Mux.mem_moves_iff.mp member
  obtain ⟨samples, received⟩ := move.inputs
  obtain ⟨samplesRead, receivedRead⟩ := move.inputs_reading
  obtain ⟨server, client⟩ := measurementsOf_logged p.mux
  dsimp only at samples received ⊢
  rw [move.arrivedBetween]
  refine { logs with
    accounts := accounts_mux wired logs.ping logs.accounts move
    given := ?_
    samplesClosed := move.samplesClosed logs.samplesClosed
    sampled := ?_
    handed := ?_
    samplesRead := samplesRead.trans logs.samplesRead
    receivedRead := receivedRead.trans logs.receivedRead }
  · rw [measurementsOf_append, measurementsOf_append, server, client]
    exact logs.given.move logs.samplesClosed move
  · rw [Mux.samplesOf_append, List.append_assoc, ← samples]
    exact logs.sampled
  · rw [Mux.receivedOf_append, List.append_assoc, ← received]
    exact logs.handed

private theorem serverForwarder (logs : Logs sink before sent merged seen p)
    (moved : q ∈ p.serverForwarderMoves) : Logs sink before sent merged seen q := by
  obtain ⟨⟨f, ⟨source, channel⟩⟩, member, rfl⟩ := List.mem_map.mp moved
  rw [if_pos logs.ping] at member
  dsimp only
  rw [if_pos (by exact logs.ping)]
  have input : p.logging.input .server = p.serverLog.map id := (Channel.map_id _).symm
  have step := Merging.Step.ofForwarder p.logging .server id input rfl rfl member
  rw [Channel.map_id, ← logging_server] at step
  exact { logs with accounts := logs.accounts.quiet step }

private theorem clientForwarder (logs : Logs sink before sent merged seen p)
    (moved : q ∈ p.clientForwarderMoves) : Logs sink before sent merged seen q := by
  rw [clientForwarderMoves, if_pos logs.ping] at moved
  obtain ⟨⟨f, ⟨source, channel⟩⟩, member, rfl⟩ := List.mem_map.mp moved
  have input : p.logging.input .client = p.clientLog.map id := (Channel.map_id _).symm
  have step := Merging.Step.ofForwarder p.logging .client id input rfl rfl member
  rw [Channel.map_id, ← logging_client] at step
  exact { logs with accounts := logs.accounts.quiet step }

private theorem mergeEnd (logs : Logs sink before sent merged seen p)
    (moved : q ∈ p.mergeEndMoves) : Logs sink before sent merged seen q := by
  obtain ⟨rfl, accounts⟩ := accounts_mergeEnd logs.accounts moved
  exact { logs with accounts }

private theorem saver (logs : Logs sink before sent merged seen p) (moved : q ∈ p.saverMoves) :
    ∃ merged, Logs sink before sent merged seen q := by
  obtain ⟨unfinished, merged, accounts⟩ := accounts_saver logs.accounts moved
  obtain ⟨_, _, rfl⟩ := List.mem_map.mp moved
  refine ⟨merged, { logs with accounts, saved := fun past => ?_ }⟩
  exact absurd (logs.saved past) (Bool.eq_false_iff.mp unfinished)

private theorem supervisor (logs : Logs sink before sent merged seen p)
    (moved : q ∈ p.supervisorMoves) : Logs sink before sent merged seen q := by
  obtain ⟨finished, accounts⟩ := accounts_supervisor logs.accounts logs.saved moved
  obtain ⟨_, _, rfl⟩ := List.mem_map.mp moved
  exact { logs with accounts, saved := fun _ => finished }

private theorem sender (logs : Logs sink before sent merged seen p) (moved : q ∈ p.senderMoves) :
    Logs sink before sent merged seen q := by
  obtain ⟨_, _, rfl⟩ := List.mem_map.mp moved
  dsimp only
  rw [if_pos (by exact logs.ping)]
  exact { logs with }

private theorem echoDrain (logs : Logs sink before sent merged seen p)
    (moved : q ∈ p.echoDrainMoves) : Logs sink before sent merged seen q := by
  obtain ⟨-, _, _, -, rfl⟩ := of_mem_echoDrainMoves moved
  exact { logs with }

private theorem closer (logs : Logs sink before sent merged seen p) (moved : q ∈ p.closerMoves) :
    Logs sink before sent merged seen q := by
  obtain ⟨_, _, rfl⟩ := List.mem_map.mp moved
  exact { logs with }

private theorem nothing (logs : Logs sink before sent merged seen p) :
    Logs sink before sent merged (seen.append (seenOf [])) p :=
  seen.append_nothing.symm ▸ logs

private theorem move (wired : Wired config p) (logs : Logs sink before sent merged seen p)
    {task : Task} (moved : q ∈ p.moves task) :
    ∃ sent merged, Logs sink before sent merged (seen.append (seenOf (shown task p q))) q := by
  cases task with
  | measurer =>
      rw [shown, seenOf_sampled]
      simp only [Seen.append, List.append_nil]
      exact ⟨sent, merged, logs.measurer moved⟩
  | receiver =>
      rw [shown, seenOf_receiver]
      simp only [Seen.append, List.append_nil]
      exact ⟨sent, merged, logs.receiver moved⟩
  | mux =>
      rw [shown, seenOf_append, seenOf_arrived, seenOf_released]
      simp only [Seen.append, List.append_nil, List.nil_append]
      exact ⟨_, merged, logs.mux wired moved⟩
  | sender => exact ⟨sent, merged, (logs.sender moved).nothing⟩
  | echoDrain => exact ⟨sent, merged, (logs.echoDrain moved).nothing⟩
  | serverForwarder => exact ⟨sent, merged, (logs.serverForwarder moved).nothing⟩
  | clientForwarder => exact ⟨sent, merged, (logs.clientForwarder moved).nothing⟩
  | mergeEnd => exact ⟨sent, merged, (logs.mergeEnd moved).nothing⟩
  | saver =>
      obtain ⟨merged, kept⟩ := logs.saver moved
      exact ⟨sent, merged, kept.nothing⟩
  | supervisor => exact ⟨sent, merged, (logs.supervisor moved).nothing⟩
  | closer => exact ⟨sent, merged, (logs.closer moved).nothing⟩

private theorem step {more : List Event} (wired : Wired config p)
    (logs : Logs sink before sent merged seen p) (step : Showing shown p more q) :
    Wired config q ∧ ∃ sent merged, Logs sink before sent merged (seen.append (seenOf more)) q := by
  cases step with
  | move moved => exact ⟨wired.move moved, logs.move wired moved⟩
  | wait later =>
      have whole (finished : p.receiver.activity = .finished) :=
        (logs.whole finished).imp_right fun late => Nat.le_trans late later
      exact ⟨wired.step (.wait later), sent, merged, nothing { logs with whole }⟩
  | outside => exact ⟨wired.step .outside, sent, merged, nothing { logs with }⟩

end Logs

private theorem logs_start (config : Config) (connection : Connection) (wire : Wire)
    (sink : RecordSink) (archive : Archive) (ping : config.subtest = .ping) :
    Logs sink archive.measurements [] [] {} (start config connection wire sink archive) where
  ping := decide_eq_true ping
  accounts := accounts_start config connection wire sink archive fun origin => by
    cases origin <;> rfl
  given := ⟨rfl, rfl, .nil, Mux.collected_nil⟩
  samplesClosed := ⟨nofun, nofun⟩
  sampled := rfl
  handed := rfl
  samplesRead := rfl
  receivedRead := rfl
  reads := .start config.receiver
  context := rfl
  whole := nofun
  saved := fun past => absurd rfl past

/-- What a ping run leaves behind: what has arrived at its multiplexer, in the archive. -/
structure Left (config : Config) (archive : Archive) (events : List Event) (p : Pipeline) :
    Prop where
  server : p.archive.server = archive.server ++
    (Mux.serverArrivals (arrivalsOf events)).map Measurement.withoutIdentity
  client : p.archive.client = archive.client ++ Mux.clientArrivals (arrivalsOf events)
  released : List.Forall₂ Mux.Collected (Mux.windows [] (arrivalsOf events)) (releasedOf events)
  /-- The measurer's samples have arrived, in their order. -/
  sampled : Mux.samplesOf (arrivalsOf events) = sampledOf events
  /-- So has what the receiver has read, except perhaps the last measurement when the time of the
  run is over. -/
  received : ∃ lost : List Received, lost.length ≤ 1 ∧ (p.now < config.maxRuntime → lost = []) ∧
    Mux.receivedOf (arrivalsOf events) ++ lost =
      Receiver.decoded config.receiver [] (readsOf events)

/-- When the saver of a ping run has finished, the multiplexer has finished before it, and the
receiver before the multiplexer. -/
theorem Logs.drained (wired : Wired config p) (logs : Logs sink before sent merged seen p)
    (saved : p.saver.finished = true) :
    p.mux.activity = .finished ∧ p.samples.queue = [] ∧ p.received.queue = [] ∧
      p.receiver.activity = .finished := by
  have logged := (Channel.ended_iff.mp (logs.accounts.settled saved .server).1).2
  have halted := (wired.serverLog logs.ping).writers.symm.trans logged
  have mux := Mux.Activity.eq_finished (Bool.toNat_eq_zero.mp halted)
  have sound := wired.mux
  rw [Mux.Sound, mux] at sound
  obtain ⟨samplesClosed, receivedClosed⟩ := sound
  have samples := wired.samples
  have received := wired.received
  rw [if_pos logs.ping, samplesClosed] at samples
  rw [if_pos logs.ping, receivedClosed] at received
  have samplesEnded : p.samples.ended = true :=
    (samples.gone rfl).resolve_right fun left => nomatch logs.samplesRead.symm.trans left
  have receivedEnded : p.received.ended = true :=
    (received.gone rfl).resolve_right fun left => nomatch logs.receivedRead.symm.trans left
  obtain ⟨noReceived, closed⟩ := Channel.ended_iff.mp receivedEnded
  have silent := received.writers.symm.trans closed
  exact ⟨mux, (Channel.ended_iff.mp samplesEnded).1, noReceived,
    Receiver.Activity.eq_finished (Bool.toNat_eq_zero.mp silent)⟩

/-- What has been seen of a ping run is in its archive when it returns. -/
theorem Logs.left {archive : Archive} {events : List Event} (wired : Wired config p)
    (logs : Logs sink archive.measurements sent merged (seenOf events) p)
    (saved : p.saver.finished = true) : Left config archive events p := by
  obtain ⟨mux, noSamples, noReceived, finished⟩ := logs.drained wired saved
  have merges (origin : Origin) : measurementsOf origin sent = measurementsOf origin merged := by
    obtain ⟨-, nothing⟩ := logs.accounts.settled saved origin
    rw [logs.accounts.conserved origin, nothing, List.append_nil]
  obtain ⟨server, client, released⟩ := logs.given.of_finished mux
  dsimp only at server client
  have atServer := logs.accounts.recorded .server
  have atClient := logs.accounts.recorded .client
  rw [Saver.measurementsOf_server_stored, ← merges .server, server] at atServer
  rw [Saver.measurementsOf_client_stored, ← merges .client, client] at atClient
  have sampled := logs.sampled
  have handed := logs.handed
  rw [noSamples, List.append_nil] at sampled
  rw [noReceived, List.append_nil] at handed
  refine ⟨atServer, atClient, released, sampled.symm, ?_⟩
  obtain ⟨lost, one, all⟩ := logs.reads.reached.all_but_one
  rw [wired.same, handed] at all
  refine ⟨lost, one, fun early => ?_, all⟩
  have whole := (logs.whole finished).resolve_right (Nat.not_le.mpr (wired.same ▸ early))
  rw [wired.same, handed, ← all] at whole
  exact List.append_right_eq_self.mp whole.symm

/-- What the logs of a ping run have when it has returned. -/
theorem left_of_run {connection : Connection} {wire : Wire} {archive : Archive}
    {events : List Event} (ping : config.subtest = .ping)
    (run : Run (Showing shown) (start config connection wire sink archive) events p)
    (returned : p.result?.isSome = true) : Left config archive events p := by
  have kept : Wired config p ∧
      ∃ sent merged, Logs sink archive.measurements sent merged (seenOf events) p := by
    refine run.keeps (fun events p => Wired config p ∧
      ∃ sent merged, Logs sink archive.measurements sent merged (seenOf events) p) ?_ ?_
    · exact ⟨wired_start config connection wire sink archive, [], [],
        logs_start config connection wire sink archive ping⟩
    · rintro events more p q ⟨wired, sent, merged, logs⟩ step
      rw [seenOf_append]
      exact logs.step wired step
  obtain ⟨wired, sent, merged, logs⟩ := kept
  exact logs.left wired (saved_of_result logs.saved returned)

end Logging

end LinkGauge.Pipeline
