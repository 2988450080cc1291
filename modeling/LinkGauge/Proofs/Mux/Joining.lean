import LinkGauge.Proofs.Channel
import LinkGauge.Proofs.Mux.Collecting
import Mathlib.Data.List.Forall2

/-!
# Joining by itself

`Mux.Moved` says what a multiplexer can do, together with what arrives at it in that move.
`Mux.Given` relates the measurements that have arrived to what the outputs were given and what the
multiplexer still owes them, `Mux.Joined` to what was read from the outputs and what is in them,
and `Mux.Ends` the ends that have arrived to the open inputs and outputs. Every move keeps them
(`Mux.Given.move`, `Mux.Joined.move`, `Mux.Ends.move`) and leaves less to do (`Mux.work_lt`). A
multiplexer at rest whose outputs have room has taken all that is there and has seen every end
(`Mux.Ends.resting`).
-/

namespace LinkGauge

namespace Mux

/-- What a multiplexer can do, and what arrives at it then. -/
inductive Moved (m : Mux) (v : View) : List Arrival → Mux → View → Prop where
  | takeSample {sample : Measurement} {samples : Channel Measurement}
      (selecting : m.activity = .selecting) (opened : m.samplesOpen = true)
      (taken : v.samples.take? = some (sample, samples)) :
      Moved m v [.sample sample] { m with activity := .loggingServer sample false }
        { v with samples }
  | endSamples (selecting : m.activity = .selecting) (opened : m.samplesOpen = true)
      (ended : v.samples.ended = true) :
      Moved m v [.samplesEnd] { m with samplesOpen := false }
        { v with toSender := v.toSender.hangUp }
  | takeEcho {echo : Measurement} {received : Channel Received}
      (selecting : m.activity = .selecting) (opened : m.receivedOpen = true)
      (taken : v.received.take? = some (⟨.server, echo⟩, received)) :
      Moved m v [.echo echo] { m with activity := .loggingServer echo true } { v with received }
  | takeMessage {message : Measurement} {received : Channel Received}
      (selecting : m.activity = .selecting) (opened : m.receivedOpen = true)
      (taken : v.received.take? = some (⟨.client, message⟩, received)) :
      Moved m v [.message message]
        { m with activity := .loggingClient message, pending := m.pending.merge message }
        { v with received }
  | endReceived (selecting : m.activity = .selecting) (opened : m.receivedOpen = true)
      (ended : v.received.ended = true) :
      Moved m v [.receivedEnd] { m with receivedOpen := false } { v with stopRequested := true }
  | finish (selecting : m.activity = .selecting) (noSamples : m.samplesOpen = false)
      (noReceived : m.receivedOpen = false) :
      Moved m v [] { m with activity := .finished }
        { v with serverLog := v.serverLog.hangUp, clientLog := v.clientLog.hangUp }
  | logServer {sample : Measurement} {echo : Bool} {delivery : Delivery}
      {serverLog : Channel Measurement} (logging : m.activity = .loggingServer sample echo)
      (sent : v.serverLog.send? sample = some (delivery, serverLog)) :
      Moved m v [] (m.collect sample echo) { v with serverLog }
  | release {ready : Measurement} {delivery : Delivery} {toSender : Channel Measurement}
      (releasing : m.activity = .releasing ready)
      (sent : v.toSender.send? ready = some (delivery, toSender)) :
      Moved m v [] { m with activity := .selecting } { v with toSender }
  | logClient {message : Measurement} {delivery : Delivery} {clientLog : Channel Measurement}
      (logging : m.activity = .loggingClient message)
      (sent : v.clientLog.send? message = some (delivery, clientLog)) :
      Moved m v [] { m with activity := .selecting } { v with clientLog }

private theorem moved_of_mem_takeSample {m next : Mux} {v after : View}
    (selecting : m.activity = .selecting) (member : (next, after) ∈ m.takeSample v) :
    ∃ arrivals, Moved m v arrivals next after := by
  unfold takeSample at member
  split at member
  · next opened =>
      split at member
      · next sample samples taken =>
          cases List.mem_singleton.mp member
          exact ⟨_, .takeSample selecting opened taken⟩
      · split at member
        · next ended =>
            cases List.mem_singleton.mp member
            exact ⟨_, .endSamples selecting opened ended⟩
        · cases member
  · cases member

private theorem moved_of_mem_takeReceived {m next : Mux} {v after : View}
    (selecting : m.activity = .selecting) (member : (next, after) ∈ m.takeReceived v) :
    ∃ arrivals, Moved m v arrivals next after := by
  unfold takeReceived at member
  split at member
  · next opened =>
      split at member
      · next echo received taken =>
          cases List.mem_singleton.mp member
          exact ⟨_, .takeEcho selecting opened taken⟩
      · next message received taken =>
          cases List.mem_singleton.mp member
          exact ⟨_, .takeMessage selecting opened taken⟩
      · split at member
        · next ended =>
            cases List.mem_singleton.mp member
            exact ⟨_, .endReceived selecting opened ended⟩
        · cases member
  · cases member

private theorem moved_of_mem_moves {m next : Mux} {v after : View}
    (member : (next, after) ∈ m.moves v) : ∃ arrivals, Moved m v arrivals next after := by
  unfold moves at member
  split at member
  · next selecting =>
      split at member
      · rcases List.mem_append.mp member with sampling | receiving
        · exact moved_of_mem_takeSample selecting sampling
        · exact moved_of_mem_takeReceived selecting receiving
      · next closed =>
          simp only [Bool.or_eq_true, not_or, Bool.not_eq_true] at closed
          cases List.mem_singleton.mp member
          exact ⟨_, .finish selecting closed.1 closed.2⟩
  · next sample echo logging =>
      split at member
      · next sent =>
          cases List.mem_singleton.mp member
          exact ⟨_, .logServer logging sent⟩
      · cases member
  · next ready releasing =>
      split at member
      · next sent =>
          cases List.mem_singleton.mp member
          exact ⟨_, .release releasing sent⟩
      · cases member
  · next message logging =>
      split at member
      · next sent =>
          cases List.mem_singleton.mp member
          exact ⟨_, .logClient logging sent⟩
      · cases member
  · cases member

/-- What `Moved` describes is a move of the multiplexer. -/
theorem mem_moves_of_moved {m next : Mux} {v after : View} {arrivals : List Arrival}
    (moved : Moved m v arrivals next after) : (next, after) ∈ m.moves v := by
  cases moved with
  | takeSample selecting opened taken =>
      simp only [moves, selecting, takeSample, opened, taken, Bool.true_or, ↓reduceIte,
        List.mem_append, List.mem_singleton, true_or]
  | endSamples selecting opened ended =>
      simp only [moves, selecting, takeSample, opened, Channel.take?_of_ended ended, ended,
        Bool.true_or, ↓reduceIte, List.mem_append, List.mem_singleton, true_or]
  | takeEcho selecting opened taken =>
      simp only [moves, selecting, takeReceived, opened, taken, Bool.or_true, ↓reduceIte,
        List.mem_append, List.mem_singleton, or_true]
  | takeMessage selecting opened taken =>
      simp only [moves, selecting, takeReceived, opened, taken, Bool.or_true, ↓reduceIte,
        List.mem_append, List.mem_singleton, or_true]
  | endReceived selecting opened ended =>
      simp only [moves, selecting, takeReceived, opened, Channel.take?_of_ended ended, ended,
        Bool.or_true, ↓reduceIte, List.mem_append, List.mem_singleton, or_true]
  | finish selecting noSamples noReceived =>
      simp only [moves, selecting, noSamples, noReceived, Bool.or_self, Bool.false_eq_true,
        ↓reduceIte, List.mem_singleton]
  | logServer logging sent => simp only [moves, logging, sent, List.mem_singleton]
  | release releasing sent => simp only [moves, releasing, sent, List.mem_singleton]
  | logClient logging sent => simp only [moves, logging, sent, List.mem_singleton]

/-- The moves of a multiplexer are those. -/
theorem mem_moves_iff {m next : Mux} {v after : View} :
    (next, after) ∈ m.moves v ↔ ∃ arrivals, Moved m v arrivals next after :=
  ⟨moved_of_mem_moves, fun ⟨_, moved⟩ => mem_moves_of_moved moved⟩

/-- Only a multiplexer whose samples go on releases anything. -/
theorem samplesOpen_of_collect {m : Mux} {sample ready : Measurement} {echo : Bool}
    (releasing : (m.collect sample echo).activity = .releasing ready) :
    (m.collect sample echo).samplesOpen = true := by
  unfold collect at releasing ⊢
  cases echo with
  | false => cases releasing
  | true =>
      rw [if_pos rfl] at releasing ⊢
      dsimp only at releasing
      split at releasing
      · next opened => exact opened
      · cases releasing

/-- What was read from the outputs of a multiplexer. -/
structure Outputs where
  serverLog : List Measurement := []
  clientLog : List Measurement := []
  toSender : List Measurement := []

/-- The multiplexer once it has logged the sample in its hands. -/
def settled (m : Mux) : Mux :=
  match m.activity with
  | .loggingServer sample echo => m.collect sample echo
  | _ => m

/-- What a multiplexer is going to log for the server. -/
def owedServerLog (m : Mux) : List Measurement :=
  match m.activity with
  | .loggingServer sample _ => [sample]
  | _ => []

/-- What a multiplexer is going to log for the client. -/
def owedClientLog (m : Mux) : List Measurement :=
  match m.activity with
  | .loggingClient message => [message]
  | _ => []

/-- What a multiplexer is going to release. -/
def owedSender (m : Mux) : List Measurement :=
  match m.settled.activity with
  | .releasing ready => [ready]
  | _ => []

/-- The ends that have arrived at a multiplexer, against the state. -/
structure Ends (arrivals : List Arrival) (m : Mux) (v : View) : Prop where
  samplesClosed : m.samplesOpen = false ↔ .samplesEnd ∈ arrivals
  receivedClosed : m.receivedOpen = false ↔ .receivedEnd ∈ arrivals
  samplesEnded : m.samplesOpen = false → v.samples.ended = true
  receivedEnded : m.receivedOpen = false → v.received.ended = true
  stopRequested : v.stopRequested = !m.receivedOpen
  senderWriters : v.toSender.writers = m.samplesOpen.toNat
  serverLogWriters : v.serverLog.writers = if m.activity = .finished then 0 else 1
  clientLogWriters : v.clientLog.writers = if m.activity = .finished then 0 else 1
  finished : m.activity = .finished → m.samplesOpen = false ∧ m.receivedOpen = false

/-- The measurements that have arrived at a multiplexer, against what it has given to its outputs
and the state. -/
structure Given (arrivals : List Arrival) (given : Outputs) (m : Mux) : Prop where
  serverLogged : given.serverLog ++ m.owedServerLog = serverArrivals arrivals
  clientLogged : given.clientLog ++ m.owedClientLog = clientArrivals arrivals
  released : List.Forall₂ Collected (windows [] arrivals) (given.toSender ++ m.owedSender)
  pending : Collected (sinceEcho [] arrivals) m.settled.pending

/-- The measurements that have arrived at a multiplexer, against what was read from its outputs
and the state. -/
structure Joined (arrivals : List Arrival) (read : Outputs) (m : Mux) (v : View) : Prop where
  serverLogged : read.serverLog ++ v.serverLog.queue ++ m.owedServerLog = serverArrivals arrivals
  clientLogged : read.clientLog ++ v.clientLog.queue ++ m.owedClientLog = clientArrivals arrivals
  released : List.Forall₂ Collected (windows [] arrivals)
    (read.toSender ++ v.toSender.queue ++ m.owedSender)
  pending : Collected (sinceEcho [] arrivals) m.settled.pending

/-- Whether all outputs of a multiplexer are read. -/
structure View.Read (v : View) : Prop where
  serverLog : v.serverLog.reading = true
  clientLog : v.clientLog.reading = true
  toSender : v.toSender.reading = true

variable {arrivals more : List Arrival} {read : Outputs} {m next : Mux} {v after : View}

/-- No move makes a reader leave. -/
theorem Moved.reads (moved : Moved m v more next after) (reads : v.Read) : after.Read := by
  cases moved with
  | takeSample | takeEcho | takeMessage | endReceived | endSamples | finish =>
      exact ⟨reads.serverLog, reads.clientLog, reads.toSender⟩
  | logServer _ sent =>
      obtain ⟨-, -, rfl⟩ := Channel.send?_eq_some reads.serverLog sent
      exact ⟨reads.serverLog, reads.clientLog, reads.toSender⟩
  | release _ sent =>
      obtain ⟨-, -, rfl⟩ := Channel.send?_eq_some reads.toSender sent
      exact ⟨reads.serverLog, reads.clientLog, reads.toSender⟩
  | logClient _ sent =>
      obtain ⟨-, -, rfl⟩ := Channel.send?_eq_some reads.clientLog sent
      exact ⟨reads.serverLog, reads.clientLog, reads.toSender⟩

/-- The samples are closed once their end has been read. -/
theorem Moved.samplesClosed (moved : Moved m v more next after)
    (closed : m.samplesOpen = false ↔ .samplesEnd ∈ arrivals) :
    next.samplesOpen = false ↔ .samplesEnd ∈ arrivals ++ more := by
  cases moved with
  | endSamples => simp
  | takeSample | takeEcho | takeMessage | endReceived | finish | release | logClient =>
      simpa using closed
  | @logServer sample echo =>
      cases echo <;> simpa [collect] using closed

private theorem Moved.receivedClosed (moved : Moved m v more next after)
    (closed : m.receivedOpen = false ↔ .receivedEnd ∈ arrivals) :
    next.receivedOpen = false ↔ .receivedEnd ∈ arrivals ++ more := by
  cases moved with
  | endReceived => simp
  | takeSample | takeEcho | takeMessage | endSamples | finish | release | logClient =>
      simpa using closed
  | @logServer sample echo =>
      cases echo <;> simpa [collect] using closed

/-- The ends stay accounted for. -/
theorem Ends.move (ends : Ends arrivals m v) (reads : v.Read) (moved : Moved m v more next after) :
    Ends (arrivals ++ more) next after := by
  have samplesClosed := moved.samplesClosed ends.samplesClosed
  have receivedClosed := moved.receivedClosed ends.receivedClosed
  have serverLogWriters := ends.serverLogWriters
  have clientLogWriters := ends.clientLogWriters
  obtain ⟨activity, pending, samplesOpen, receivedOpen⟩ := m
  cases moved with
  | takeSample selecting opened taken =>
      subst selecting opened
      exact { ends with
        samplesClosed, receivedClosed, samplesEnded := Bool.noConfusion
        finished := Activity.noConfusion }
  | takeEcho selecting opened taken =>
      subst selecting opened
      exact { ends with
        samplesClosed, receivedClosed, receivedEnded := Bool.noConfusion
        finished := Activity.noConfusion }
  | takeMessage selecting opened taken =>
      subst selecting opened
      exact { ends with
        samplesClosed, receivedClosed, receivedEnded := Bool.noConfusion
        finished := Activity.noConfusion }
  | endSamples selecting opened ended =>
      subst selecting opened
      refine { ends with
        samplesClosed, receivedClosed, samplesEnded := fun _ => ended, senderWriters := ?_
        finished := Activity.noConfusion }
      rw [Channel.hangUp, ends.senderWriters]
      rfl
  | endReceived selecting opened ended =>
      subst selecting opened
      exact { ends with
        samplesClosed, receivedClosed, receivedEnded := fun _ => ended, stopRequested := rfl
        finished := Activity.noConfusion }
  | finish selecting noSamples noReceived =>
      subst selecting noSamples noReceived
      rw [List.append_nil]
      exact { ends with
        serverLogWriters := by simp [Channel.hangUp, serverLogWriters]
        clientLogWriters := by simp [Channel.hangUp, clientLogWriters]
        finished := fun _ => ⟨rfl, rfl⟩ }
  | @logServer sample echo _ _ logging sent =>
      obtain ⟨-, -, rfl⟩ := Channel.send?_eq_some reads.serverLog sent
      subst logging
      rw [List.append_nil]
      cases echo <;> cases samplesOpen <;> exact { ends with finished := Activity.noConfusion }
  | release releasing sent =>
      obtain ⟨-, -, rfl⟩ := Channel.send?_eq_some reads.toSender sent
      subst releasing
      rw [List.append_nil]
      exact { ends with finished := Activity.noConfusion }
  | logClient logging sent =>
      obtain ⟨-, -, rfl⟩ := Channel.send?_eq_some reads.clientLog sent
      subst logging
      rw [List.append_nil]
      exact { ends with finished := Activity.noConfusion }

/-- What a multiplexer gives to its outputs by its next move. -/
def atHand (m : Mux) : Outputs where
  serverLog := m.owedServerLog
  clientLog := m.owedClientLog
  toSender := match m.activity with
    | .releasing ready => [ready]
    | _ => []

/-- What was given first, and then. -/
def Outputs.append (first second : Outputs) : Outputs where
  serverLog := first.serverLog ++ second.serverLog
  clientLog := first.clientLog ++ second.clientLog
  toSender := first.toSender ++ second.toSender

private theorem Outputs.append_nothing (given : Outputs) : given.append {} = given := by
  simp only [append, List.append_nil]

private theorem Moved.outputs (moved : Moved m v more next after) (reads : v.Read) :
    after.serverLog.queue = v.serverLog.queue ++ m.atHand.serverLog ∧
      after.clientLog.queue = v.clientLog.queue ++ m.atHand.clientLog ∧
      after.toSender.queue = v.toSender.queue ++ m.atHand.toSender := by
  cases moved with
  | takeSample selecting | takeEcho selecting | takeMessage selecting | endSamples selecting
  | endReceived selecting | finish selecting =>
      simp only [atHand, owedServerLog, owedClientLog, selecting, Channel.hangUp, List.append_nil,
        and_self]
  | logServer logging sent =>
      obtain ⟨-, -, rfl⟩ := Channel.send?_eq_some reads.serverLog sent
      simp only [atHand, owedServerLog, owedClientLog, logging, List.append_nil, and_self]
  | release releasing sent =>
      obtain ⟨-, -, rfl⟩ := Channel.send?_eq_some reads.toSender sent
      simp only [atHand, owedServerLog, owedClientLog, releasing, List.append_nil, and_self]
  | logClient logging sent =>
      obtain ⟨-, -, rfl⟩ := Channel.send?_eq_some reads.clientLog sent
      simp only [atHand, owedServerLog, owedClientLog, logging, List.append_nil, and_self]

private theorem Given.takeSample {given : Outputs} {pending : Measurement}
    {samplesOpen receivedOpen : Bool}
    (books : Given arrivals given ⟨.selecting, pending, samplesOpen, receivedOpen⟩)
    (sample : Measurement) :
    Given (arrivals ++ [.sample sample]) given
      ⟨.loggingServer sample false, pending, samplesOpen, receivedOpen⟩ := by
  constructor
  · rw [serverArrivals, List.filterMap_append, ← serverArrivals, ← books.serverLogged,
      List.append_assoc _ (owedServerLog _)]
    rfl
  · rw [clientArrivals, List.filterMap_append, ← clientArrivals, ← books.clientLogged,
      List.append_assoc _ (owedClientLog _)]
    rfl
  · rw [windows_concat, List.append_nil]
    exact books.released
  · rw [sinceEcho_concat]
    exact books.pending.merge sample

/-- An echo closes a window, and what was collected in it is owed to the sender while the
samples go on. -/
private theorem Given.takeEcho {given : Outputs} {pending : Measurement}
    {samplesOpen receivedOpen : Bool}
    (books : Given arrivals given ⟨.selecting, pending, samplesOpen, receivedOpen⟩)
    (closed : samplesOpen = false ↔ .samplesEnd ∈ arrivals) (echo : Measurement) :
    Given (arrivals ++ [.echo echo]) given
      ⟨.loggingServer echo true, pending, samplesOpen, receivedOpen⟩ := by
  constructor
  · rw [serverArrivals, List.filterMap_append, ← serverArrivals, ← books.serverLogged,
      List.append_assoc _ (owedServerLog _)]
    rfl
  · rw [clientArrivals, List.filterMap_append, ← clientArrivals, ← books.clientLogged,
      List.append_assoc _ (owedClientLog _)]
    rfl
  · rw [windows_concat]
    have before := books.released
    rw [owedSender, settled, List.append_nil] at before
    cases samplesOpen with
    | false =>
        have past : .samplesEnd ∈ arrivals := closed.mp rfl
        simp only [past, ↓reduceIte, List.append_nil]
        rw [← List.append_nil given.toSender] at before
        exact before
    | true =>
        have running : .samplesEnd ∉ arrivals := fun past => Bool.noConfusion (closed.mpr past)
        simp only [running, ↓reduceIte]
        exact List.rel_append before (.cons (books.pending.merge echo) .nil)
  · rw [sinceEcho_concat]
    exact collected_nil

private theorem Given.takeMessage {given : Outputs} {pending : Measurement}
    {samplesOpen receivedOpen : Bool}
    (books : Given arrivals given ⟨.selecting, pending, samplesOpen, receivedOpen⟩)
    (message : Measurement) :
    Given (arrivals ++ [.message message]) given
      ⟨.loggingClient message, pending.merge message, samplesOpen, receivedOpen⟩ := by
  constructor
  · rw [serverArrivals, List.filterMap_append, ← serverArrivals, ← books.serverLogged,
      List.append_assoc _ (owedServerLog _)]
    rfl
  · rw [clientArrivals, List.filterMap_append, ← clientArrivals, ← books.clientLogged,
      List.append_assoc _ (owedClientLog _)]
    rfl
  · rw [windows_concat, List.append_nil]
    exact books.released
  · rw [sinceEcho_concat]
    exact books.pending.merge message

private theorem Given.takeEnd {given : Outputs} (books : Given arrivals given m) {last : Arrival}
    (ending : last.measurement? = none) : Given (arrivals ++ [last]) given m := by
  cases last with
  | samplesEnd | receivedEnd =>
      constructor
      · rw [serverArrivals, List.filterMap_append]
        exact books.serverLogged.trans (List.append_nil _).symm
      · rw [clientArrivals, List.filterMap_append]
        exact books.clientLogged.trans (List.append_nil _).symm
      · rw [windows_concat, List.append_nil]
        exact books.released
      · rw [sinceEcho_concat]
        exact (List.append_nil (sinceEcho [] arrivals)).symm ▸ books.pending
  | sample | echo | message => cases ending

/-- Every move keeps everything that has arrived. -/
theorem Given.move {given : Outputs} (books : Given arrivals given m)
    (closed : m.samplesOpen = false ↔ .samplesEnd ∈ arrivals)
    (moved : Moved m v more next after) :
    Given (arrivals ++ more) (given.append m.atHand) next := by
  obtain ⟨activity, pending, samplesOpen, receivedOpen⟩ := m
  cases moved with
  | takeSample selecting opened taken =>
      subst selecting
      exact given.append_nothing.symm ▸ books.takeSample _
  | takeEcho selecting opened taken =>
      subst selecting
      exact given.append_nothing.symm ▸ books.takeEcho closed _
  | takeMessage selecting opened taken =>
      subst selecting
      exact given.append_nothing.symm ▸ books.takeMessage _
  | endSamples selecting opened ended =>
      subst selecting
      exact given.append_nothing.symm ▸ { books.takeEnd rfl with }
  | endReceived selecting opened ended =>
      subst selecting
      exact given.append_nothing.symm ▸ { books.takeEnd rfl with }
  | finish selecting noSamples noReceived =>
      subst selecting
      rw [List.append_nil]
      exact given.append_nothing.symm ▸ { books with }
  | @logServer sample echo _ _ logging sent =>
      subst logging
      have logged := books.serverLogged
      simp only [List.append_nil, Outputs.append, atHand, owedServerLog, owedClientLog]
      cases echo with
      | false => exact { books with serverLogged := (List.append_nil _).trans logged }
      | true =>
          cases samplesOpen <;>
            exact { books with serverLogged := (List.append_nil _).trans logged }
  | release releasing sent =>
      subst releasing
      have released := books.released
      rw [owedSender, settled, ← List.append_nil (given.toSender ++ _)] at released
      simp only [List.append_nil, Outputs.append, atHand, owedServerLog, owedClientLog]
      exact { books with released }
  | logClient logging sent =>
      subst logging
      have logged := books.clientLogged
      simp only [List.append_nil, Outputs.append, atHand, owedServerLog, owedClientLog]
      exact { books with clientLogged := (List.append_nil _).trans logged }

/-- A multiplexer that has finished has given everything away. -/
theorem Given.of_finished {given : Outputs} (books : Given arrivals given m)
    (finished : m.activity = .finished) :
    given.serverLog = serverArrivals arrivals ∧ given.clientLog = clientArrivals arrivals ∧
      List.Forall₂ Collected (windows [] arrivals) given.toSender := by
  obtain ⟨server, client, released, -⟩ := books
  rw [owedServerLog, finished] at server
  rw [owedClientLog, finished] at client
  rw [owedSender, settled, finished] at released
  simp only [finished, List.append_nil] at server client released
  exact ⟨server, client, released⟩

private theorem joined_iff : Joined arrivals read m v ↔
    Given arrivals (read.append ⟨v.serverLog.queue, v.clientLog.queue, v.toSender.queue⟩) m :=
  ⟨fun joined => ⟨joined.serverLogged, joined.clientLogged, joined.released, joined.pending⟩,
    fun given => ⟨given.serverLogged, given.clientLogged, given.released, given.pending⟩⟩

/-- Every move keeps what has been joined. -/
theorem Joined.move (joined : Joined arrivals read m v) (ends : Ends arrivals m v)
    (reads : v.Read) (moved : Moved m v more next after) :
    Joined (arrivals ++ more) read next after := by
  obtain ⟨server, client, sender⟩ := moved.outputs reads
  have given := (joined_iff.mp joined).move ends.samplesClosed moved
  rw [joined_iff, server, client, sender]
  simpa only [Outputs.append, List.append_assoc] using given

/-- What the neighbours do to the inputs does not matter, as long as an end stays an end. -/
theorem Ends.inputs (ends : Ends arrivals m v) {samples : Channel Measurement}
    {received : Channel Received}
    (samplesStay : v.samples.ended = true → samples.ended = true)
    (receivedStay : v.received.ended = true → received.ended = true) :
    Ends arrivals m { v with samples, received } :=
  { ends with
    samplesEnded := fun closed => samplesStay (ends.samplesEnded closed)
    receivedEnded := fun closed => receivedStay (ends.receivedEnded closed) }

/-- A bound on the moves that are possible while nothing is sent. -/
def work (m : Mux) (v : View) : Nat :=
  3 * (v.samples.queue.length + v.received.queue.length) + m.samplesOpen.toNat +
    m.receivedOpen.toNat +
    match m.activity with
    | .selecting => 1
    | .loggingServer _ echo => 2 + echo.toNat
    | .releasing _ => 2
    | .loggingClient _ => 2
    | .finished => 0

/-- Every move leaves less to do. -/
theorem work_lt (moved : Moved m v more next after) : next.work after < m.work v := by
  obtain ⟨activity, pending, samplesOpen, receivedOpen⟩ := m
  cases moved with
  | takeSample selecting opened taken =>
      subst selecting
      simp only [work, Channel.length_of_take? taken, Bool.toNat_false]
      omega
  | takeEcho selecting opened taken =>
      subst selecting
      simp only [work, Channel.length_of_take? taken, Bool.toNat_true]
      omega
  | takeMessage selecting opened taken =>
      subst selecting
      simp only [work, Channel.length_of_take? taken]
      omega
  | endSamples selecting opened ended =>
      subst selecting opened
      simp only [work, Bool.toNat_true, Bool.toNat_false]
      omega
  | endReceived selecting opened ended =>
      subst selecting opened
      simp only [work, Bool.toNat_true, Bool.toNat_false]
      omega
  | finish selecting noSamples noReceived =>
      subst selecting
      simp only [work]
      omega
  | @logServer sample echo _ _ logging sent =>
      subst logging
      cases echo <;> cases samplesOpen <;> simp [work, collect]
  | release releasing sent =>
      subst releasing
      simp only [work]
      omega
  | logClient logging sent =>
      subst logging
      simp only [work]
      omega

/-- Whether all outputs of a multiplexer have room. -/
structure View.Room (v : View) : Prop where
  serverLog : v.serverLog.queue.length < v.serverLog.capacity
  clientLog : v.clientLog.queue.length < v.clientLog.capacity
  toSender : v.toSender.queue.length < v.toSender.capacity

/-- A multiplexer that is stuck although its outputs have room is not about to hand on anything. -/
theorem idle_of_stuck (reads : v.Read) (room : v.Room)
    (stuck : ∀ arrivals next after, ¬ Moved m v arrivals next after) :
    m.activity = .selecting ∨ m.activity = .finished := by
  cases activity : m.activity with
  | selecting => exact .inl rfl
  | finished => exact .inr rfl
  | loggingServer sample echo =>
      have accepted := (Channel.send?_of_reading reads.serverLog sample).trans
        (if_pos room.serverLog)
      exact absurd (.logServer activity accepted) (stuck _ _ _)
  | releasing ready =>
      have accepted := (Channel.send?_of_reading reads.toSender ready).trans
        (if_pos room.toSender)
      exact absurd (.release activity accepted) (stuck _ _ _)
  | loggingClient message =>
      have accepted := (Channel.send?_of_reading reads.clientLog message).trans
        (if_pos room.clientLog)
      exact absurd (.logClient activity accepted) (stuck _ _ _)

/-- A multiplexer that cannot move waits for samples that may still come. -/
theorem samples_of_stuck (stuck : ∀ arrivals next after, ¬ Moved m v arrivals next after)
    (selecting : m.activity = .selecting) (opened : m.samplesOpen = true) :
    v.samples.queue = [] ∧ v.samples.ended = false := by
  constructor
  · rw [← Channel.take?_eq_none_iff, Option.eq_none_iff_forall_ne_some]
    exact fun _ taken => stuck _ _ _ (.takeSample selecting opened taken)
  · rw [← Bool.not_eq_true]
    exact fun ended => stuck _ _ _ (.endSamples selecting opened ended)

/-- A multiplexer that cannot move waits for messages that may still come. -/
theorem received_of_stuck (stuck : ∀ arrivals next after, ¬ Moved m v arrivals next after)
    (selecting : m.activity = .selecting) (opened : m.receivedOpen = true) :
    v.received.queue = [] ∧ v.received.ended = false := by
  constructor
  · rw [← Channel.take?_eq_none_iff, Option.eq_none_iff_forall_ne_some]
    rintro ⟨⟨_ | _, value⟩, received⟩ taken
    · exact stuck _ _ _ (.takeEcho selecting opened taken)
    · exact stuck _ _ _ (.takeMessage selecting opened taken)
  · rw [← Bool.not_eq_true]
    exact fun ended => stuck _ _ _ (.endReceived selecting opened ended)

/-- What holds when a multiplexer waits for its inputs or has finished. -/
structure Resting (m : Mux) (v : View) : Prop where
  serverLog : m.owedServerLog = []
  clientLog : m.owedClientLog = []
  toSender : m.owedSender = []
  samples : v.samples.queue = []
  received : v.received.queue = []
  samplesClosed : v.samples.ended = true → m.samplesOpen = false
  receivedClosed : v.received.ended = true → m.receivedOpen = false
  finished : m.samplesOpen = false → m.receivedOpen = false → m.activity = .finished

/-- A multiplexer that cannot move although its outputs have room has taken all that is there and
has seen every end. -/
theorem Ends.resting (ends : Ends arrivals m v) (reads : v.Read) (room : v.Room)
    (nothing : m.moves v = []) : m.Resting v := by
  have stuck : ∀ arrivals next after, ¬ Moved m v arrivals next after := by
    intro arrivals next after moved
    have member := mem_moves_of_moved moved
    rw [nothing] at member
    cases member
  have noSamples : m.samplesOpen = false → v.samples.queue = [] := fun closed =>
    (Channel.ended_iff.mp (ends.samplesEnded closed)).1
  have noReceived : m.receivedOpen = false → v.received.queue = [] := fun closed =>
    (Channel.ended_iff.mp (ends.receivedEnded closed)).1
  rcases idle_of_stuck reads room stuck with selecting | finished
  · refine
      { serverLog := by rw [owedServerLog, selecting]
        clientLog := by rw [owedClientLog, selecting]
        toSender := by rw [owedSender, settled, selecting]; simp only [selecting]
        samples := ?_, received := ?_, samplesClosed := ?_, receivedClosed := ?_, finished := ?_ }
    · cases opened : m.samplesOpen with
      | false => exact noSamples opened
      | true => exact (samples_of_stuck stuck selecting opened).1
    · cases opened : m.receivedOpen with
      | false => exact noReceived opened
      | true => exact (received_of_stuck stuck selecting opened).1
    · intro ended
      cases opened : m.samplesOpen with
      | false => rfl
      | true => exact ended.symm.trans (samples_of_stuck stuck selecting opened).2
    · intro ended
      cases opened : m.receivedOpen with
      | false => rfl
      | true => exact ended.symm.trans (received_of_stuck stuck selecting opened).2
    · exact fun noSamples noReceived =>
        absurd (.finish selecting noSamples noReceived) (stuck _ _ _)
  · obtain ⟨samplesClosed, receivedClosed⟩ := ends.finished finished
    exact
      { serverLog := by rw [owedServerLog, finished]
        clientLog := by rw [owedClientLog, finished]
        toSender := by rw [owedSender, settled, finished]; simp only [finished]
        samples := noSamples samplesClosed
        received := noReceived receivedClosed
        samplesClosed := fun _ => samplesClosed
        receivedClosed := fun _ => receivedClosed
        finished := fun _ _ => finished }

end Mux

end LinkGauge
