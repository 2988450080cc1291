import LinkGauge.Proofs.Pipeline.Wiring
import LinkGauge.Proofs.Receiver.Acting
import LinkGauge.Proofs.Sender.Progress

/-!
# Who waits for whom

A task that waits for a moment has a timer (`Pipeline.Timer`), and moves at the latest then
(`Pipeline.Timer.moves`). All other waiting is for a neighbour, and it goes one way: to the saver
from everybody who hands on something, and from the measurer and the receiver to everybody who
waits for something. So a pipeline in which no task can move and no task has a timer has completed
(`Pipeline.Wired.completed`).
-/

namespace LinkGauge

/-! ### Stages that cannot move -/

namespace Forwarder

variable {α : Type} {label : α → Record} {f : Forwarder} {v : View α} {writers : Nat}

/-- A forwarder that cannot move although the merged channel has room leaves nobody waiting, and
finishes when nobody writes to its source. -/
theorem idle (stuck : f.moves label v = []) (room : v.merged.ready = true)
    (source : Link v.source writers f.running) :
    v.source.ready = true ∧ (writers = 0 → f = .finished) := by
  have still : ∀ next after, ¬ Moved label v f next after := by
    intro next after moved
    have member := mem_moves_iff.mpr moved
    rw [stuck] at member
    cases member
  cases f with
  | finished =>
      refine ⟨?_, fun _ => rfl⟩
      by_contra full
      exact nomatch (source.blocked (Bool.eq_false_iff.mpr full)).1
  | holding record =>
      cases sent : v.merged.send? record with
      | some answer => exact absurd (.hand sent) (still _ _)
      | none => exact nomatch (Channel.ready_of_send?_eq_none sent).symm.trans room
  | waiting =>
      have empty : v.source.queue = [] := by
        rw [← Channel.take?_eq_none_iff, Option.eq_none_iff_forall_ne_some]
        exact fun _ taken => still _ _ (.take taken)
      have goesOn : v.source.ended = false :=
        Bool.eq_false_iff.mpr fun ended => still _ _ (.finish (Channel.take?_of_ended ended) ended)
      refine ⟨?_, fun nobody => absurd nobody (source.starved empty goesOn)⟩
      by_contra full
      exact (source.blocked (Bool.eq_false_iff.mpr full)).2 empty

end Forwarder

namespace Sender

variable {config : Config} {s : Sender} {v : View} {writers : Nat}

/-- The same for a sender that waits for no moment and can hand on what it has written. -/
theorem idle (stuck : s.moves config v = []) (room : v.echo.ready = true)
    (calm : s.alarms config = []) (source : Link v.source writers s.result?.isNone) :
    v.source.ready = true ∧ (writers = 0 → s.result?.isSome = true) := by
  have unblocked (free : s.result?.isSome = true ∨ v.source.queue = []) :
      v.source.ready = true := by
    by_contra full
    obtain ⟨reading, queued⟩ := source.blocked (Bool.eq_false_iff.mpr full)
    rcases free with finished | empty
    · rw [← Option.not_isSome, finished] at reading
      cases reading
    · exact queued empty
  rcases resting stuck with finished | ⟨time, alarm, -⟩ | ⟨-, full⟩ | ⟨empty, opened⟩
  · exact ⟨unblocked (.inl finished), fun _ => finished⟩
  · rw [calm] at alarm
    cases alarm
  · exact nomatch full.symm.trans room
  · exact ⟨unblocked (.inr empty), fun nobody => absurd (source.writers.trans nobody) opened⟩

end Sender

namespace Mux

variable {m : Mux} {v : View} {sampling receiving : Nat}

/-- A multiplexer that cannot move although its outputs have room finishes when nobody writes to
its inputs. -/
theorem idle (stuck : m.moves v = []) (serverLog : v.serverLog.ready = true)
    (clientLog : v.clientLog.ready = true) (toSender : v.toSender.ready = true)
    (samples : Link v.samples sampling m.samplesOpen)
    (received : Link v.received receiving m.receivedOpen) (noSampling : sampling = 0)
    (noReceiving : receiving = 0) : m.activity = .finished := by
  have still : ∀ arrivals next after, ¬ Moved m v arrivals next after := by
    intro arrivals next after moved
    have member := mem_moves_of_moved moved
    rw [stuck] at member
    cases member
  cases activity : m.activity with
  | finished => rfl
  | loggingServer sample echo =>
      cases sent : v.serverLog.send? sample with
      | some answer => exact absurd (.logServer activity sent) (still _ _ _)
      | none => exact nomatch (Channel.ready_of_send?_eq_none sent).symm.trans serverLog
  | loggingClient message =>
      cases sent : v.clientLog.send? message with
      | some answer => exact absurd (.logClient activity sent) (still _ _ _)
      | none => exact nomatch (Channel.ready_of_send?_eq_none sent).symm.trans clientLog
  | releasing ready =>
      cases sent : v.toSender.send? ready with
      | some answer => exact absurd (.release activity sent) (still _ _ _)
      | none => exact nomatch (Channel.ready_of_send?_eq_none sent).symm.trans toSender
  | selecting =>
      cases noSamples : m.samplesOpen with
      | true =>
          obtain ⟨empty, goesOn⟩ := samples_of_stuck still activity noSamples
          exact absurd noSampling (samples.starved empty goesOn)
      | false =>
          cases noReceived : m.receivedOpen with
          | true =>
              obtain ⟨empty, goesOn⟩ := received_of_stuck still activity noReceived
              exact absurd noReceiving (received.starved empty goesOn)
          | false => exact absurd (.finish activity noSamples noReceived) (still _ _ _)

end Mux

namespace Supervisor

variable {clock : Nanos → UtcTime} {s : Supervisor} {v : View}

/-- A supervisor that cannot move although all others have finished has finished, too. -/
theorem idle (stuck : s.moves clock v = []) (sent : v.sent.isSome = true)
    (saved : v.saved.isSome = true) (closed : v.closed.isSome = true)
    (room : v.errors.ready = true) : s.result?.isSome = true := by
  have still : ∀ next, ¬ Moved clock s v next := by
    intro next moved
    have member := mem_moves_iff.mpr moved
    rw [stuck] at member
    cases member
  obtain ⟨sender, sent⟩ := Option.isSome_iff_exists.mp sent
  obtain ⟨saver, saved⟩ := Option.isSome_iff_exists.mp saved
  obtain ⟨result, closed⟩ := Option.isSome_iff_exists.mp closed
  cases stage : s with
  | finished => rfl
  | awaitingSaver => exact absurd (.timeEnd stage saved) (still _)
  | awaitingSender => exact absurd (.collect stage sent) (still _)
  | awaitingCloser => exact absurd (.finish stage closed) (still _)
  | reporting errors =>
      cases errors with
      | nil => exact absurd (.hangUp stage) (still _)
      | cons error rest =>
          cases answer : v.errors.send? error with
          | some answered => exact absurd (.report stage answer) (still _)
          | none => exact nomatch (Channel.ready_of_send?_eq_none answer).symm.trans room

end Supervisor

namespace Pipeline

/-- The moments for which tasks wait by themselves. -/
inductive Timer (p : Pipeline) : Task → Nanos → Prop where
  | tick {ends : Nanos} (waiting : p.measurer.activity = .waiting ends) : Timer p .measurer ends
  | sampling (waiting : (∃ ends, p.measurer.activity = .waiting ends) ∨
      ∃ sample, p.measurer.activity = .emitting sample) :
      Timer p .measurer p.samplingContext.deadline
  | reading (running : p.receiver.activity ≠ .finished) : Timer p .receiver p.context.deadline
  | writing {flight : Flight} {begun : Nanos}
      (writing : p.sender.activity = .writing flight begun) :
      Timer p .sender (begun + p.config.ioTimeout)
  | grace {reason : String} {ends : Nanos} (grace : p.sender.activity = .grace reason ends) :
      Timer p .sender ends
  | ceiling (waiting : p.closer = .waiting) : Timer p .closer p.config.maxRuntime

/-- All tasks have come to their ends. -/
structure Completed (p : Pipeline) : Prop where
  measurer : p.measurer.activity = .finished
  receiver : p.receiver.activity = .finished
  mux : p.isPing = true → p.mux.activity = .finished
  sender : p.sender.result?.isSome = true
  echoDrain : p.isPing = true → p.echo.ended = true
  serverForwarder : p.serverForwarder = .finished
  clientForwarder : p.clientForwarder = .finished
  mergeEnd : p.mergeEnded = true
  saver : p.saver.finished = true
  closer : p.closer.result?.isSome = true
  supervisor : p.result?.isSome = true

variable {config : Config} {p : Pipeline} {task : Task} {time later : Nanos}

/-- A context is done from its deadline on. -/
theorem isDone_of_le {c : Context} {now : Nanos} (due : c.deadline ≤ now) :
    c.isDone now = true := by
  rw [Context.isDone, decide_eq_true due, Bool.or_true]

/-- When the moment has come, the task moves. -/
theorem Timer.moves (timer : Timer p task time) (due : time ≤ later) :
    moves { p with now := later } task ≠ [] := by
  intro stuck
  cases timer with
  | tick waiting =>
      rcases Measurer.resting (List.map_eq_nil_iff.mp stuck) with
        finished | ⟨-, ⟨ends, active, early⟩ | ⟨_, active, -⟩⟩
      · exact nomatch waiting.symm.trans finished
      · obtain rfl : _ = ends := Measurer.Activity.waiting.inj (waiting.symm.trans active)
        exact absurd due (Nat.not_le.mpr early)
      · exact nomatch waiting.symm.trans active
  | sampling waiting =>
      rcases Measurer.resting (List.map_eq_nil_iff.mp stuck) with finished | ⟨goesOn, -⟩
      · rcases waiting with ⟨_, active⟩ | ⟨_, active⟩
        all_goals exact nomatch active.symm.trans finished
      · exact nomatch goesOn.symm.trans (isDone_of_le due)
  | reading running =>
      rcases Receiver.resting (List.map_eq_nil_iff.mp stuck) with
        finished | ⟨_, -, -, going⟩ | ⟨-, -, going, -⟩
      · exact running finished
      · exact going (.inl (isDone_of_le due))
      · exact nomatch going.symm.trans (isDone_of_le due)
  | writing writing =>
      have early := (Sender.early_of_writing (List.map_eq_nil_iff.mp stuck) writing).1
      exact absurd due (Nat.not_le.mpr early)
  | grace grace =>
      have early := Sender.early_of_grace (List.map_eq_nil_iff.mp stuck) grace
      exact absurd due (Nat.not_le.mpr early)
  | ceiling waiting =>
      have expire : p.closer.Moved p.config.maxRuntime ⟨later, p.connection, p.errors, p.log⟩ _ _ :=
        .expire waiting due
      have member := Closer.mem_moves_of_moved expire
      rw [List.map_eq_nil_iff.mp stuck] at member
      cases member

/-- A task that cannot move waits for a moment that is yet to come. -/
theorem Timer.lt_of_stuck (timer : Timer p task time) (stuck : p.moves task = []) :
    p.now < time :=
  Nat.lt_of_not_le fun due => timer.moves due stuck

/-- What a task waits for is one of the moments that have been set. -/
theorem Timer.mem_alarms (timer : Timer p task time) : time ∈ p.alarms := by
  cases timer with
  | tick waiting =>
      simp only [alarms, Measurer.alarms, waiting, List.mem_append, List.mem_cons, true_or]
  | sampling waiting =>
      rcases waiting with ⟨_, active⟩ | ⟨_, active⟩
      all_goals simp [alarms, Measurer.alarms, active]
  | reading running =>
      cases active : p.receiver.activity with
      | finished => exact absurd active running
      | reading | emitting => simp [alarms, Receiver.alarms, active, receiverView]
  | writing writing => simp [alarms, Sender.alarms, writing, Config.sender]
  | grace grace => simp [alarms, Sender.alarms, grace]
  | ceiling waiting => simp [alarms, Closer.alarms, waiting]

/-! ### A pipeline that cannot move -/

namespace Wired

variable (stuck : ∀ task, p.moves task = []) (calm : ∀ task time, ¬ Timer p task time)
include stuck calm

omit stuck in
private theorem no_alarm : p.sender.alarms p.config.sender = [] := by
  unfold Sender.alarms
  split
  · next writing => exact absurd (.writing writing) (calm _ _)
  · next grace => exact absurd (.grace grace) (calm _ _)
  · rfl

private theorem measurer_finished : p.measurer.activity = .finished := by
  rcases Measurer.resting (List.map_eq_nil_iff.mp (stuck .measurer)) with
    finished | ⟨-, ⟨ends, active, -⟩ | ⟨sample, active, -⟩⟩
  · exact finished
  · exact absurd (.tick active) (calm _ _)
  · exact absurd (.sampling (.inr ⟨sample, active⟩)) (calm _ _)

omit stuck in
private theorem receiver_finished : p.receiver.activity = .finished := by
  by_contra running
  exact calm _ _ (.reading running)

private theorem closer_finished : p.closer.result?.isSome = true := by
  cases state : p.closer with
  | waiting => exact absurd (.ceiling state) (calm _ _)
  | finished => rfl
  | closing =>
      have close : p.closer.Moved p.config.maxRuntime ⟨p.now, p.connection, p.errors, p.log⟩ _ _ :=
        .close state
      have member := Closer.mem_moves_of_moved close
      rw [List.map_eq_nil_iff.mp (stuck .closer)] at member
      cases member

omit calm in
private theorem not_saved {saver : Saver} {v : Saver.View} :
    ¬ Saver.Moved p.saver ⟨p.merged, p.sink, p.archive, p.log⟩ saver v := by
  intro moved
  have member := Saver.mem_moves_iff.mpr moved
  rw [List.map_eq_nil_iff.mp (stuck .saver)] at member
  cases member

omit calm in
private theorem merged_ready (wired : Wired config p) : p.merged.ready = true := by
  by_contra full
  obtain ⟨unfinished, queued⟩ := wired.merged.blocked (Bool.eq_false_iff.mpr full)
  obtain ⟨oldest, rest, queue⟩ := List.exists_cons_of_ne_nil queued
  have taken : p.merged.take? = some (oldest, { p.merged with queue := rest }) := by
    rw [Channel.take?, queue]
  exact not_saved stuck (.save ((Bool.not_eq_true' _).mp unfinished) taken)

omit calm in
private theorem saver_finished (wired : Wired config p) (server : p.serverForwarder = .finished)
    (client : p.clientForwarder = .finished) : p.mergeEnded = true ∧ p.saver.finished = true := by
  have ended : p.mergeEnded = true := by
    by_contra running
    have move := stuck .mergeEnd
    rw [moves, mergeEndMoves, if_pos (by simp [running, server, client])] at move
    cases move
  refine ⟨ended, ?_⟩
  by_contra running
  have nobody : p.mergers = 0 := by
    rw [mergers, ended, server, client]
    rfl
  have empty : p.merged.queue = [] := by
    rw [← Channel.take?_eq_none_iff, Option.eq_none_iff_forall_ne_some]
    exact fun _ taken => not_saved stuck (.save (Bool.eq_false_iff.mpr running) taken)
  refine wired.merged.starved empty (Bool.eq_false_iff.mpr fun ended => ?_) nobody
  exact not_saved stuck
    (.finish (Bool.eq_false_iff.mpr running) (Channel.take?_of_ended ended) ended)

omit calm in
private theorem returned (wired : Wired config p) (sender : p.sender.result?.isSome = true)
    (saver : p.saver.finished = true) (closer : p.closer.result?.isSome = true) :
    p.result?.isSome = true := by
  refine Supervisor.idle (List.map_eq_nil_iff.mp (stuck .supervisor)) ?_ ?_ closer ?_
  · exact (Option.isSome_map ..).trans sender
  · rw [Saver.result?, if_pos saver]
    split <;> rfl
  · by_contra full
    have unsettled := (wired.errors.blocked (Bool.eq_false_iff.mpr full)).1
    obtain ⟨result, decided⟩ := Option.isSome_iff_exists.mp closer
    rw [Closer.eq_of_result?_eq_some decided] at unsettled
    cases unsettled

omit calm in
/-- The forwarders of a ping run empty the logs, and finish after the multiplexer. -/
private theorem logs_ready (wired : Wired config p) (ping : p.isPing = true) :
    (p.serverLog.ready = true ∧
        (p.mux.activity.running.toNat = 0 → p.serverForwarder = .finished)) ∧
      p.clientLog.ready = true ∧
        (p.mux.activity.running.toNat = 0 → p.clientForwarder = .finished) := by
  have merged := merged_ready stuck wired
  constructor
  · have idle := List.map_eq_nil_iff.mp (stuck .serverForwarder)
    rw [if_pos ping] at idle
    exact Forwarder.idle idle merged (wired.serverLog ping)
  · have idle := stuck .clientForwarder
    rw [moves, clientForwarderMoves, if_pos ping] at idle
    exact Forwarder.idle (List.map_eq_nil_iff.mp idle) merged (wired.clientLog ping)

omit calm in
private theorem echo_drained (wired : Wired config p) (ping : p.isPing = true) :
    p.echo.queue = [] ∧ p.echo.ready = true := by
  have empty : p.echo.queue = [] := by
    rw [← Channel.take?_eq_none_iff]
    cases taken : p.echo.take? with
    | none => rfl
    | some answer =>
        have idle := stuck .echoDrain
        rw [moves, echoDrainMoves, if_pos ping, taken] at idle
        cases idle
  refine ⟨empty, ?_⟩
  by_contra full
  exact (wired.echo.blocked (Bool.eq_false_iff.mpr full)).2 empty

/-- A ping run that cannot move has completed: behind the logs there is only the saver, so the
multiplexer and the sender wait for nobody but measurer and receiver. -/
theorem completed_of_ping (wired : Wired config p) (ping : p.isPing = true) : Completed p := by
  have measurer := measurer_finished stuck calm
  have receiver := receiver_finished calm
  have closer := closer_finished stuck calm
  obtain ⟨⟨serverLog, serverEnds⟩, clientLog, clientEnds⟩ := logs_ready stuck wired ping
  obtain ⟨echoEmpty, echoReady⟩ := echo_drained stuck wired ping
  have sending := List.map_eq_nil_iff.mp (stuck .sender)
  rw [if_pos ping] at sending
  obtain ⟨released, senderEnds⟩ :=
    Sender.idle sending echoReady (no_alarm calm) (wired.released ping)
  have samples := wired.samples
  have received := wired.received
  rw [if_pos ping, measurer] at samples
  rw [if_pos ping, receiver] at received
  have muxing := stuck .mux
  rw [moves, muxMoves, if_pos ping] at muxing
  have mux : p.mux.activity = .finished := Mux.idle (List.map_eq_nil_iff.mp muxing) serverLog
    clientLog released samples received rfl rfl
  have closed : p.mux.samplesOpen = false := by
    have sound := wired.mux
    rw [Mux.Sound, mux] at sound
    exact sound.1
  have sender : p.sender.result?.isSome = true := senderEnds (by rw [closed]; rfl)
  rw [mux] at serverEnds clientEnds
  have server := serverEnds rfl
  have client := clientEnds rfl
  obtain ⟨mergeEnd, saver⟩ := saver_finished stuck wired server client
  have quiet : p.sender.handsOn.toNat = 0 := by
    rw [Sender.handsOn_of_finished sender]
    rfl
  exact
    { measurer, receiver, sender, mergeEnd, saver, closer
      mux := fun _ => mux
      echoDrain := fun _ => Channel.ended_iff.mpr ⟨echoEmpty, wired.echo.writers.trans quiet⟩
      serverForwarder := server
      clientForwarder := client
      supervisor := returned stuck wired sender saver closer }

/-- The same for download and upload, where the sender waits for the measurer and the saver
only. -/
theorem completed_of_plain (wired : Wired config p) (plain : p.isPing = false) : Completed p := by
  have other : ¬ p.isPing = true := Bool.eq_false_iff.mp plain
  have measurer := measurer_finished stuck calm
  have receiver := receiver_finished calm
  have closer := closer_finished stuck calm
  have merged := merged_ready stuck wired
  have echo := wired.echo
  have samples := wired.samples
  have received := wired.received
  rw [plain, Bool.false_or] at echo
  rw [if_neg other, measurer] at samples
  rw [if_neg other, receiver] at received
  have forwarding := List.map_eq_nil_iff.mp (stuck .serverForwarder)
  rw [if_neg other] at forwarding
  obtain ⟨echoReady, serverEnds⟩ := Forwarder.idle forwarding merged echo
  have sending := List.map_eq_nil_iff.mp (stuck .sender)
  rw [if_neg other] at sending
  have sender := (Sender.idle sending echoReady (no_alarm calm) samples).2 rfl
  rw [Sender.handsOn_of_finished sender] at serverEnds
  have server := serverEnds rfl
  have taking := stuck .clientForwarder
  rw [moves, clientForwarderMoves, if_neg other] at taking
  have client := (Forwarder.idle (List.map_eq_nil_iff.mp taking) merged received).2 rfl
  obtain ⟨mergeEnd, saver⟩ := saver_finished stuck wired server client
  exact
    { measurer, receiver, sender, mergeEnd, saver, closer
      mux := fun own => absurd own other
      echoDrain := fun own => absurd own other
      serverForwarder := server
      clientForwarder := client
      supervisor := returned stuck wired sender saver closer }

/-- **No deadlock.** A pipeline in which no task can move and no task has a timer has completed. -/
theorem completed (wired : Wired config p) : Completed p := by
  cases ping : p.isPing with
  | true => exact completed_of_ping stuck calm wired ping
  | false => exact completed_of_plain stuck calm wired ping

end Wired

end Pipeline

end LinkGauge
