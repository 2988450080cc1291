import LinkGauge.Proofs.Ending
import LinkGauge.Proofs.Pipeline.Step
import LinkGauge.Proofs.Saver.Sink
import LinkGauge.Proofs.Sender

/-!
# The end of a pipeline

Whatever a task of a pipeline does is a step of the pipeline's end (`Pipeline.ending_step`), so a
run of a pipeline is one of that end (`Pipeline.ending_of_run`). What is known of every end is
therefore known of every pipeline, whatever order its tasks go on in: its connection is closed
once, and its result is decided by its sender, its saver and its maximum runtime
(`Pipeline.closed_once_on_return`).
-/

namespace LinkGauge.Pipeline

/-- The closer and the supervisor of a pipeline. -/
def ending (p : Pipeline) : Ending where
  now := p.now
  connection := p.connection
  sent := p.sender.result?.map .returned
  saved := p.saver.result?
  errors := p.errors
  closer := p.closer
  supervisor := p.supervisor
  archive := p.archive
  log := p.log

/-- What can happen to the end of a pipeline that is set up as `config` says. -/
abbrev EndingStep (config : Config) : Ending → List Ending.Event → Ending → Prop :=
  Ending.Step config.maxRuntime config.startedAt.later

variable {p q : Pipeline}

private theorem ending_receiver (moved : q ∈ p.receiverMoves) :
    EndingStep p.config p.ending [] q.ending := by
  obtain ⟨⟨receiver, v⟩, own, rfl⟩ := List.mem_map.mp moved
  obtain ⟨closed, calls, socket⟩ := (Receiver.moved_of_mem_moves own).connection
  refine .use closed calls ?_
  unfold Connection.shutdowns
  rw [socket]
  rfl

private theorem ending_sender (moved : q ∈ p.senderMoves) :
    EndingStep p.config p.ending [] q.ending := by
  obtain ⟨⟨sender, v⟩, own, rfl⟩ := List.mem_map.mp moved
  have running : p.ending.sent = none :=
    congrArg (Option.map _) (Sender.mem_moves_iff.mp own).running
  have left : EndingStep p.config p.ending []
      { p.ending with sent := sender.result?.map .returned, log := v.log } := by
    cases sender.result? with
    | none =>
        rw [Option.map_none, ← running]
        exact .use rfl rfl rfl
    | some result => exact .senderEnds running
  dsimp only
  split <;> exact left

private theorem ending_saver (moved : q ∈ p.saverMoves) :
    EndingStep p.config p.ending [] q.ending := by
  obtain ⟨⟨saver, v⟩, own, rfl⟩ := List.mem_map.mp moved
  have running : p.ending.saved = none := (Saver.mem_moves_iff.mp own).running
  change EndingStep p.config p.ending []
    { p.ending with saved := saver.result?, archive := v.archive, log := v.log }
  cases saver.result? with
  | none =>
      rw [← running]
      exact .use rfl rfl rfl
  | some result => exact .saverEnds running

private theorem outcome_ending (p : Pipeline) :
    p.ending.sent.map SenderEnd.outcome = p.sender.result?.map (·.mapError .send) :=
  Option.map_map _ _ _

private theorem ending_supervisor (moved : q ∈ p.supervisorMoves) :
    EndingStep p.config p.ending [] q.ending := by
  obtain ⟨_, own, rfl⟩ := List.mem_map.mp moved
  have own := Supervisor.mem_moves_iff.mp own
  rw [← outcome_ending] at own
  exact .own (.supervisor own)

private theorem ending_closer (moved : q ∈ p.closerMoves) :
    ∃ event, EndingStep p.config p.ending [.closer event] q.ending := by
  obtain ⟨_, own, rfl⟩ := List.mem_map.mp moved
  obtain ⟨event, own⟩ := Closer.mem_moves_iff.mp own
  exact ⟨event, .own (.closer own)⟩

private theorem ending_aside {task : Task} (kept : Kept p task q) (noReceiver : task ≠ .receiver)
    (noSender : task ≠ .sender) (noSaver : task ≠ .saver) (noSupervisor : task ≠ .supervisor)
    (noCloser : task ≠ .closer) : EndingStep p.config p.ending [] q.ending := by
  have same : q.ending = { p.ending with archive := q.archive, log := q.log } := by
    simp only [ending, kept.now, kept.connection noReceiver noCloser, kept.sender noSender,
      kept.saver noSaver, kept.errors noSupervisor noCloser, kept.closer noCloser,
      kept.supervisor noSupervisor]
  rw [same]
  exact .use rfl rfl rfl

/-- Every move of a pipeline is a step of its end, in which only the closer closes the
connection. -/
theorem ending_step {task : Task} (moved : q ∈ p.moves task) :
    ∃ seen, Ending.elsewhere seen = 0 ∧ EndingStep p.config p.ending seen q.ending := by
  cases task with
  | receiver => exact ⟨[], rfl, ending_receiver moved⟩
  | sender => exact ⟨[], rfl, ending_sender moved⟩
  | saver => exact ⟨[], rfl, ending_saver moved⟩
  | supervisor => exact ⟨[], rfl, ending_supervisor moved⟩
  | closer =>
      obtain ⟨event, step⟩ := ending_closer moved
      exact ⟨[.closer event], rfl, step⟩
  | measurer | mux | echoDrain | serverForwarder | clientForwarder | mergeEnd =>
      exact ⟨[], rfl, ending_aside (kept_of_mem_moves moved) nofun nofun nofun nofun nofun⟩

section Runs

variable {ε : Type} {shown : Task → Pipeline → Pipeline → List ε} {config : Config}
  {connection : Connection} {wire : Wire} {sink : RecordSink} {archive : Archive}
  {first : Pipeline} {events more : List ε}

/-- No step changes the configuration. -/
theorem config_of_withPeer (alone : WithPeer shown p more q) : q.config = p.config := by
  cases alone with
  | move moved => exact (kept_of_mem_moves moved).config
  | wait | peer => rfl

/-- Whatever happens in a pipeline is something that can happen at its end. -/
theorem ending_withPeer (alone : WithPeer shown p more q) :
    ∃ seen, Ending.elsewhere seen = 0 ∧ EndingStep p.config p.ending seen q.ending := by
  cases alone with
  | move moved => exact ending_step moved
  | wait later => exact ⟨[], rfl, .wait later⟩
  | peer => exact ⟨[], rfl, .use rfl rfl rfl⟩

/-- A run of a pipeline, seen from its end. -/
structure Seen (config : Config) (first : Pipeline) (seen : List Ending.Event) (p : Pipeline) :
    Prop where
  same : p.config = config
  own : Ending.elsewhere seen = 0
  run : Run (EndingStep config) first.ending seen p.ending

/-- A run of a pipeline is a run of its end, in which only the closer closes the connection. -/
theorem ending_of_run (same : first.config = config) (run : Run (WithPeer shown) first events p) :
    ∃ seen, Seen config first seen p := by
  refine run.keeps (fun _ p => ∃ seen, Seen config first seen p) ⟨[], same, rfl, .stay⟩ ?_
  rintro events more p q ⟨seen, rfl, own, run⟩ alone
  obtain ⟨others, none, step⟩ := ending_withPeer alone
  refine ⟨seen ++ others, config_of_withPeer alone, ?_, run.next step⟩
  rw [Ending.elsewhere_append, own, none]

/-- A pipeline starts with the end of a subtest at its start. -/
theorem ending_start (config : Config) (connection : Connection) (wire : Wire) (sink : RecordSink)
    (archive : Archive) :
    (start config connection wire sink archive).ending =
      { now := 0, connection, log := []
        archive := { archive with startTime := some config.startedAt } } := by
  have running : (start config connection wire sink archive).sender.result? = none := by
    change (Sender.new config.sender).result? = none
    rw [Sender.new]
    split <;> rfl
  rw [ending, running]
  rfl

/-- What has happened at the end of a pipeline that nobody else has ended agrees with its
state. -/
theorem books_of_run
    (run : Run (WithPeer shown) (start config connection wire sink archive) events p) :
    p.config = config ∧
      ∃ seen done, Ending.elsewhere seen = 0 ∧ Ending.Books connection seen done p.ending := by
  obtain ⟨seen, same, own, run⟩ := ending_of_run rfl run
  rw [ending_start] at run
  obtain ⟨done, books⟩ := Ending.books_of_run run
  exact ⟨same, seen, done, own, books⟩

/-- The supervisor or the closer of a pipeline can go on when its end can. -/
theorem exists_move_of_ending {seen : List Ending.Event} {next : Ending}
    (moved : p.ending.Moved p.config.maxRuntime p.config.startedAt.later seen next) :
    ∃ q, q ∈ p.moves .closer ∨ q ∈ p.moves .supervisor := by
  cases moved with
  | closer moved =>
      exact ⟨_, .inl (List.mem_map_of_mem (Closer.mem_moves_iff.mpr ⟨_, moved⟩))⟩
  | supervisor moved =>
      have own := Supervisor.mem_moves_iff.mpr moved
      rw [Ending.supervisorView, outcome_ending] at own
      exact ⟨_, .inr (List.mem_map_of_mem own)⟩

/-- **A pipeline closes its connection once.** In whatever order the tasks of a pipeline go on and
whatever its peer does, its connection is closed at most once, and its socket is shut down at most
once. When sender and saver have finished, the closer or the supervisor can go on until the
pipeline returns. Then its connection has been closed, and either the maximum runtime was over
first and is the error that is reported, or the error of the sender is, if it has one, or else
that of the saver. -/
theorem closed_once_on_return
    (run : Run (WithPeer shown) (start config connection wire sink archive) events p) :
    p.connection.closeCalls = connection.closeCalls + p.closer.result?.isSome.toNat ∧
      p.connection.shutdowns + connection.closed.toNat ≤
        connection.shutdowns + p.connection.closed.toNat ∧
      (p.sender.result?.isSome = true → p.saver.result?.isSome = true → p.result? = none →
        ∃ q, q ∈ p.moves .closer ∨ q ∈ p.moves .supervisor) ∧
      ∀ result, p.result? = some result →
        p.connection.closeCalls = connection.closeCalls + 1 ∧ p.connection.closed = true ∧
        ∃ sent saved, p.sender.result? = some sent ∧ p.saver.result? = some saved ∧
          (result = .error .maxRuntimeExceeded ∨
            result = (sent.mapError .send).bind fun _ => saved.mapError .archive) := by
  obtain ⟨rfl, seen, done, own, books⟩ := books_of_run run
  have calls : p.connection.closeCalls =
      connection.closeCalls + p.closer.result?.isSome.toNat := by
    have all : p.connection.closeCalls = _ := books.calls
    rw [books.closes, own] at all
    exact all
  refine ⟨calls, books.shutdowns, fun sent saved running => ?_, fun result returned => ?_⟩
  · obtain ⟨sent, written⟩ := Option.isSome_iff_exists.mp sent
    obtain ⟨saved, stored⟩ := Option.isSome_iff_exists.mp saved
    have ended : p.ending.sent = some (.returned sent) :=
      congrArg (Option.map SenderEnd.returned) written
    obtain ⟨_, _, moved⟩ := books.progress ended stored running
    exact exists_move_of_ending moved
  · have final := Supervisor.eq_of_result?_eq_some returned
    have closed : p.closer.result?.isSome = true := by
      have finished : p.closer = .finished result := books.returned result final
      rw [finished]
      rfl
    rw [calls, closed]
    refine ⟨rfl, books.closed closed, ?_⟩
    obtain ⟨sender, saver, sent, saved, decided⟩ := books.decided final
    obtain ⟨outcome, own, rfl⟩ := Option.map_eq_some_iff.mp sent
    exact ⟨outcome, saver, own, saved, decided.imp (·.2.2) And.right⟩

end Runs

end LinkGauge.Pipeline
