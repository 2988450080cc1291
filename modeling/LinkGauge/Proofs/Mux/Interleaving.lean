import LinkGauge.Proofs.Mux.Joining
import LinkGauge.Proofs.Run
import LinkGauge.Rehearsal.Mux

/-!
# Joining samples, echoes and messages

A multiplexer runs among neighbours that send to its inputs, hang up and read its outputs, in
any order (`MuxWorld.Step`). Whatever the order, its outputs are given exactly what the
arrivals determine, and each of them is closed when it should be (`MuxWorld.joins_arrivals`).
-/

namespace LinkGauge

open Mux

namespace Rehearsal.MuxWorld

/-- What can be seen of a multiplexer. -/
inductive Event where
  | arrived (arrival : Mux.Arrival)
  /-- A measurement was read from an output. -/
  | read (output : MuxOutput) (measurement : Measurement)

/-- What has arrived. -/
def arrivalsOf (events : List Event) : List Mux.Arrival :=
  events.filterMap fun | .arrived arrival => some arrival | .read _ _ => none

/-- What was read from an output. -/
def readOf (output : MuxOutput) (events : List Event) : List Measurement :=
  events.filterMap fun
    | .read other m => if other = output then some m else none
    | .arrived _ => none

/-- What a step of a neighbour shows. -/
def answered : MuxStep → MuxAnswer → List Event
  | .read output, .value m => [.read output m]
  | _, _ => []

/-- A multiplexer at its start, whose inputs have room for the given numbers of measurements. -/
def opening (samplesRoom receivedRoom : Nat) : MuxWorld where
  drain := false
  view :=
    { samples := { capacity := samplesRoom }
      received := { capacity := receivedRoom }
      toSender := {}
      serverLog := {}
      clientLog := {}
      stopRequested := false }

/-- What can happen while the outputs are read: the multiplexer moves, or a neighbour sends,
hangs up or reads. -/
inductive Step (w : MuxWorld) : List Event → MuxWorld → Prop where
  | move {arrivals : List Mux.Arrival} {mux : Mux} {view : Mux.View}
      (moved : Mux.Moved w.mux w.view arrivals mux view) :
      Step w (arrivals.map .arrived) { w with mux, view }
  | neighbour {step : MuxStep} (stays : ∀ output, step ≠ .drop output) :
      Step w (answered step (w.act step).1) (w.act step).2

/-- What an output was given: what was read from it, what is in it and what it is still owed. -/
def given (w : MuxWorld) (events : List Event) (output : MuxOutput) : List Measurement :=
  readOf output events ++ (w.output output).queue ++ match output with
    | .server => w.mux.owedServerLog
    | .client => w.mux.owedClientLog
    | .sender => w.mux.owedSender

/-- The books of a multiplexer. -/
structure Books (events : List Event) (w : MuxWorld) : Prop where
  joined : Joined (arrivalsOf events)
    ⟨readOf .server events, readOf .client events, readOf .sender events⟩ w.mux w.view
  ends : Ends (arrivalsOf events) w.mux w.view
  reads : w.view.Read

private theorem readOf_append (output : MuxOutput) (first second : List Event) :
    readOf output (first ++ second) = readOf output first ++ readOf output second :=
  List.filterMap_append

private theorem readOf_arrived (output : MuxOutput) (arrivals : List Mux.Arrival) :
    readOf output (arrivals.map .arrived) = [] := by
  rw [readOf, List.filterMap_map]
  exact List.filterMap_eq_nil_iff.mpr fun _ _ => rfl

private theorem readOf_read (output other : MuxOutput) (events : List Event) (m : Measurement) :
    readOf output (events ++ [.read other m]) =
      readOf output events ++ if other = output then [m] else [] := by
  rw [readOf_append]
  by_cases same : other = output <;> simp only [readOf, same, List.filterMap_cons,
    List.filterMap_nil, ↓reduceIte]

private theorem arrivalsOf_read (output : MuxOutput) (events : List Event) (m : Measurement) :
    arrivalsOf (events ++ [.read output m]) = arrivalsOf events := by
  rw [arrivalsOf, List.filterMap_append]
  exact List.append_nil _

private theorem arrivalsOf_arrived (arrivals : List Mux.Arrival) :
    arrivalsOf (arrivals.map .arrived) = arrivals := by
  rw [arrivalsOf, List.filterMap_map]
  exact List.filterMap_some

private theorem trySend_ended {α : Type} {c : Channel α} (ended : c.ended = true) (value : α) :
    (trySend c value).2 = c := by
  rw [trySend, if_pos (Channel.ended_iff.mp ended).2]

private theorem act_read_eq {w : MuxWorld} {output : MuxOutput}
    (reading : (w.output output).reading = true) :
    w.act (.read output) = match (w.output output).take? with
      | some (m, c) => (.value m, w.setOutput c output)
      | none => (if (w.output output).ended then .closed else .empty, w) := by
  have present : ¬ (!(w.output output).reading) = true := by
    rw [reading]
    exact nofun
  rw [act]
  exact if_neg present

variable {events more : List Event} {w next : MuxWorld}

private theorem Books.inputs (books : Books events w) {samples : Channel Measurement}
    {received : Channel Received}
    (samplesStay : w.view.samples.ended = true → samples.ended = true)
    (receivedStay : w.view.received.ended = true → received.ended = true) :
    Books events { w with view := { w.view with samples, received } } where
  joined := { books.joined with }
  ends := books.ends.inputs samplesStay receivedStay
  reads := ⟨books.reads.serverLog, books.reads.clientLog, books.reads.toSender⟩

private theorem Books.output_reading (books : Books events w) (output : MuxOutput) :
    (w.output output).reading = true := by
  cases output
  · exact books.reads.clientLog
  · exact books.reads.toSender
  · exact books.reads.serverLog

private theorem Books.taken (books : Books events w) {output : MuxOutput} {m : Measurement}
    {rest : Channel Measurement} (taken : (w.output output).take? = some (m, rest)) :
    Books (events ++ [.read output m]) (w.setOutput rest output) := by
  obtain ⟨queued, frame⟩ := Channel.take?_eq_some taken
  obtain ⟨⟨serverLogged, clientLogged, released, pending⟩, ends, reads⟩ := books
  rw [frame]
  cases output with
  | server =>
      refine ⟨?_, ?_, ⟨reads.serverLog, reads.clientLog, reads.toSender⟩⟩
      · simp only [arrivalsOf_read, readOf_read, reduceCtorEq, ↓reduceIte, List.append_nil]
        refine ⟨?_, clientLogged, released, pending⟩
        rw [← serverLogged, List.append_assoc (readOf _ _)]
        exact congrArg (readOf .server events ++ · ++ _) queued.symm
      · rw [arrivalsOf_read]
        exact { ends with }
  | client =>
      refine ⟨?_, ?_, ⟨reads.serverLog, reads.clientLog, reads.toSender⟩⟩
      · simp only [arrivalsOf_read, readOf_read, reduceCtorEq, ↓reduceIte, List.append_nil]
        refine ⟨serverLogged, ?_, released, pending⟩
        rw [← clientLogged, List.append_assoc (readOf _ _)]
        exact congrArg (readOf .client events ++ · ++ _) queued.symm
      · rw [arrivalsOf_read]
        exact { ends with }
  | sender =>
      refine ⟨?_, ?_, ⟨reads.serverLog, reads.clientLog, reads.toSender⟩⟩
      · simp only [arrivalsOf_read, readOf_read, reduceCtorEq, ↓reduceIte, List.append_nil]
        refine ⟨serverLogged, clientLogged, ?_, pending⟩
        rw [List.append_assoc (readOf _ _)]
        have same : w.view.toSender.queue = [m] ++ rest.queue := queued
        rw [same] at released
        exact released
      · rw [arrivalsOf_read]
        exact { ends with }

private theorem Books.act (books : Books events w) {step : MuxStep}
    (stays : ∀ output, step ≠ .drop output) :
    Books (events ++ answered step (w.act step).1) (w.act step).2 := by
  have quiet : events ++ [] = events := List.append_nil events
  cases step with
  | sample m =>
      refine quiet.symm ▸ books.inputs (fun ended => ?_) id
      exact (trySend_ended ended m).symm ▸ ended
  | received r =>
      refine quiet.symm ▸ books.inputs id fun ended => ?_
      exact (trySend_ended ended r).symm ▸ ended
  | closeSamples => exact quiet.symm ▸ books.inputs Channel.ended_hangUp id
  | closeReceived => exact quiet.symm ▸ books.inputs id Channel.ended_hangUp
  | read output =>
      rw [act_read_eq (books.output_reading output)]
      cases taken : (w.output output).take? with
      | some value => exact books.taken taken
      | none =>
          dsimp only
          split <;> exact quiet.symm ▸ books
  | drop output => exact absurd rfl (stays output)

private theorem Books.step (books : Books events w) (moved : w.Step more next) :
    Books (events ++ more) next := by
  cases moved with
  | neighbour stays => exact books.act stays
  | @move arrivals _ _ moved =>
      have shown :
          arrivalsOf (events ++ arrivals.map .arrived) = arrivalsOf events ++ arrivals := by
        rw [arrivalsOf, List.filterMap_append]
        exact congrArg (arrivalsOf events ++ ·) (arrivalsOf_arrived arrivals)
      have unread : ∀ output,
          readOf output (events ++ arrivals.map .arrived) = readOf output events := by
        intro output
        rw [readOf_append, readOf_arrived, List.append_nil]
      refine ⟨?_, ?_, moved.reads books.reads⟩
      · rw [shown, unread, unread, unread]
        exact books.joined.move books.ends books.reads moved
      · rw [shown]
        exact books.ends.move books.reads moved

/-- The books of a multiplexer balance along every run from its start. -/
theorem books_of_run {samplesRoom receivedRoom : Nat}
    (run : Run Step (opening samplesRoom receivedRoom) events w) : Books events w := by
  refine run.keeps Books ⟨⟨rfl, rfl, .nil, collected_nil⟩, ?_, ⟨rfl, rfl, rfl⟩⟩ Books.step
  constructor
  case samplesClosed | receivedClosed => exact ⟨nofun, nofun⟩
  case samplesEnded | receivedEnded | finished => exact nofun
  all_goals rfl

private theorem undrained_of_run {samplesRoom receivedRoom : Nat}
    (run : Run Step (opening samplesRoom receivedRoom) events w) :
    w.drain = false ∧ w.drained = [] := by
  refine run.keeps (fun _ w => w.drain = false ∧ w.drained = []) ⟨rfl, rfl⟩ ?_
  rintro _ _ before _ undrained (_ | @⟨step, stays⟩)
  · exact undrained
  · cases step with
    | sample | received | closeSamples | closeReceived => exact undrained
    | drop output => exact absurd rfl (stays output)
    | read output =>
        simp only [act]
        split
        · exact undrained
        · split
          · cases output <;> exact undrained
          · exact undrained

private theorem perform_run {samplesRoom receivedRoom : Nat}
    (run : Run Step (opening samplesRoom receivedRoom) events w) {step : MuxStep}
    (stays : ∀ output, step ≠ .drop output) :
    ∃ all, Run Step (opening samplesRoom receivedRoom) all (w.perform step).2.2 := by
  have same : { w with drained := [] } = w := by rw [← (undrained_of_run run).2]
  rw [perform, same]
  refine (run.next (.neighbour stays)).settle machine ?_ _
  intro _ s t reached move
  change s.step? = some t at move
  unfold step? at move
  split at move
  · next moved =>
      cases move
      obtain ⟨arrivals, moved⟩ := Mux.mem_moves_iff.mp (List.mem_of_mem_head? moved)
      exact ⟨_, .move moved⟩
  · rw [(undrained_of_run reached).1] at move
    cases move

/-- Does one step after the other. -/
def rehearse (w : MuxWorld) (steps : List MuxStep) : MuxWorld :=
  steps.foldl (fun w step => (w.perform step).2.2) w

private theorem rehearse_run {samplesRoom receivedRoom : Nat} {steps : List MuxStep}
    (run : Run Step (opening samplesRoom receivedRoom) events w)
    (stays : ∀ step ∈ steps, ∀ output, step ≠ .drop output) :
    ∃ all, Run Step (opening samplesRoom receivedRoom) all (w.rehearse steps) := by
  induction steps generalizing events w with
  | nil => exact ⟨events, run⟩
  | cons step rest ih =>
      obtain ⟨stays, later⟩ := List.forall_mem_cons.mp stays
      obtain ⟨_, performed⟩ := perform_run run stays
      exact ih performed later

/-- **Joining.** At every moment of every run, the log of the server was given the samples and
echoes in the order of their arrival, the log of the client its messages, and the sender one
measurement for each echo that came before the end of the samples, with the last parts that are
present since the echo before it. The measurer is told to stop when the receiver's end arrives,
the sender's source is closed when the samples' end does, and the logs after both. The
multiplexer only stops moving when all that was sent has arrived. -/
theorem joins_arrivals (samplesRoom receivedRoom : Nat)
    (run : Run Step (opening samplesRoom receivedRoom) events w) :
    w.given events .server = serverArrivals (arrivalsOf events) ∧
      w.given events .client = clientArrivals (arrivalsOf events) ∧
      List.Forall₂
        (fun window ready => Collected window ready ∧
          ∀ echo, window.getLast? = some echo → echo.rtt.isSome → ready.rtt = echo.rtt)
        (windows [] (arrivalsOf events)) (w.given events .sender) ∧
      (w.view.stopRequested = true ↔ .receivedEnd ∈ arrivalsOf events) ∧
      (w.view.toSender.writers = 0 ↔ .samplesEnd ∈ arrivalsOf events) ∧
      (w.view.serverLog.writers = 0 ↔ w.view.clientLog.writers = 0) ∧
      (w.view.serverLog.writers = 0 →
        .samplesEnd ∈ arrivalsOf events ∧ .receivedEnd ∈ arrivalsOf events) ∧
      (.samplesEnd ∈ arrivalsOf events → w.view.samples.ended = true) ∧
      (.receivedEnd ∈ arrivalsOf events → w.view.received.ended = true) ∧
      (∀ next ∈ w.mux.moves w.view, next.1.work next.2 < w.mux.work w.view) ∧
      (w.mux.moves w.view = [] → w.view.Room →
        (∀ output, w.given events output = readOf output events ++ (w.output output).queue) ∧
        w.view.samples.queue = [] ∧ w.view.received.queue = [] ∧
        (w.view.samples.ended = true → .samplesEnd ∈ arrivalsOf events) ∧
        (w.view.received.ended = true → .receivedEnd ∈ arrivalsOf events) ∧
        (.samplesEnd ∈ arrivalsOf events ∧ .receivedEnd ∈ arrivalsOf events →
          w.view.serverLog.writers = 0)) := by
  obtain ⟨joined, ends, reads⟩ := books_of_run run
  have logsTogether : w.view.serverLog.writers = w.view.clientLog.writers :=
    ends.serverLogWriters.trans ends.clientLogWriters.symm
  have logsClosed : w.view.serverLog.writers = 0 ↔ w.mux.activity = .finished := by
    rw [ends.serverLogWriters]
    split <;> simp [*]
  refine ⟨joined.serverLogged, joined.clientLogged, joined.released.imp ?_, ?_, ?_, ?_, ?_, ?_, ?_,
    ?_, ?_⟩
  · exact fun window ready collected =>
      ⟨collected, fun echo own timed => collected.rtt_of_last own timed⟩
  · rw [← ends.receivedClosed, ends.stopRequested, Bool.not_eq_true']
  · rw [← ends.samplesClosed, ends.senderWriters, Bool.toNat_eq_zero]
  · rw [logsTogether]
  · intro closed
    obtain ⟨noSamples, noReceived⟩ := ends.finished (logsClosed.mp closed)
    exact ⟨ends.samplesClosed.mp noSamples, ends.receivedClosed.mp noReceived⟩
  · exact fun arrived => ends.samplesEnded (ends.samplesClosed.mpr arrived)
  · exact fun arrived => ends.receivedEnded (ends.receivedClosed.mpr arrived)
  · rintro ⟨mux, view⟩ member
    obtain ⟨_, moved⟩ := Mux.mem_moves_iff.mp member
    exact Mux.work_lt moved
  · intro stuck room
    have resting := ends.resting reads room stuck
    refine ⟨?_, resting.samples, resting.received, ?_, ?_, ?_⟩
    · intro output
      cases output with
      | server => rw [given, resting.serverLog, List.append_nil]
      | client => rw [given, resting.clientLog, List.append_nil]
      | sender => rw [given, resting.toSender, List.append_nil]
    · exact fun ended => ends.samplesClosed.mp (resting.samplesClosed ended)
    · exact fun ended => ends.receivedClosed.mp (resting.receivedClosed ended)
    · rintro ⟨noSamples, noReceived⟩
      exact logsClosed.mpr (resting.finished (ends.samplesClosed.mpr noSamples)
        (ends.receivedClosed.mpr noReceived))

/-- Two echoes, the second one after the end of the samples; a message of the client claims a
round trip of its own. -/
def twoEchoes : List MuxStep :=
  [.sample { test := some .ping }, .read .server,
    .received ⟨.client, { rtt := some { lastRtt := 9 } }⟩,
    .received ⟨.server, { rtt := some { lastRtt := 5 } }⟩, .read .server, .closeSamples,
    .received ⟨.server, { rtt := some { lastRtt := 7 } }⟩, .closeReceived]

/-- The second echo is released with its own round trip, not with that of the client. -/
theorem joins_arrivals_twoEchoes : ∃ events,
    Run Step (opening 1 1) events ((opening 1 1).rehearse twoEchoes) ∧
      (∃ window ∈ windows [] (arrivalsOf events),
        Collected window { test := some .ping, rtt := some { lastRtt := 5 } }) ∧
      .samplesEnd ∈ arrivalsOf events ∧ .receivedEnd ∈ arrivalsOf events := by
  have stays : ∀ step ∈ twoEchoes, ∀ output, step ≠ .drop output := by
    simp [twoEchoes]
  obtain ⟨events, run⟩ := rehearse_run .stay stays
  obtain ⟨-, -, released, stopped, closed, -⟩ := joins_arrivals 1 1 run
  refine ⟨events, run, ?_, closed.mp rfl, stopped.mp rfl⟩
  rw [given, List.append_assoc] at released
  have last := List.forall₂_drop_append _ (readOf .sender events) _ released
  obtain ⟨window, _, own, -, only⟩ := List.forall₂_cons_right_iff.mp last
  exact ⟨window, List.mem_of_mem_drop (only ▸ List.mem_cons_self), own.1⟩

end Rehearsal.MuxWorld

end LinkGauge
