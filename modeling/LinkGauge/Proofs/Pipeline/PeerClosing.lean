import LinkGauge.Proofs.Pipeline.Ending
import LinkGauge.Proofs.Sender.PeerClosing

/-!
# Subtests whose peer closes first

Nothing in a pipeline takes back the record of the peer's close, so every run of a pipeline is
one of its sender beside other things (`Pipeline.sender_of_run`). A subtest reports an error of its
sender only if the sender has stopped with it, and then its own side was closed, the last write
took too long, or no close of the peer was recorded in time (`Pipeline.reports_no_close`).
-/

namespace LinkGauge.Pipeline

open Sender.PeerClosing (Stop Event Unexcused TimedOut stopsOf)

/-- What can happen to a pipeline whose connection nobody else holds, as its sender sees it. -/
abbrev Watched : Pipeline → List Event → Pipeline → Prop :=
  WithPeer fun _ p q => Sender.PeerClosing.shown (p.sender, p.senderView) (q.sender, q.senderView)

variable {config : Config} {first p q : Pipeline} {events more : List Event}

private theorem record_of_mem_moves {task : Task} (moved : q ∈ p.moves task)
    (recorded : p.connection.peerClosed = true) : q.connection.peerClosed = true := by
  by_cases reads : task = .receiver
  · subst reads
    obtain ⟨⟨receiver, v⟩, member, rfl⟩ := List.mem_map.mp moved
    exact (Receiver.mem_moves_iff.mp member).record recorded
  · by_cases closes : task = .closer
    · subst closes
      obtain ⟨⟨closer, v⟩, member, rfl⟩ := List.mem_map.mp moved
      obtain ⟨event, move⟩ := Closer.mem_moves_iff.mp member
      cases move with
      | hear | succeed | expire => exact recorded
      | close =>
          rw [← recorded]
          exact p.connection.peerClosed_close
    · rw [(kept_of_mem_moves moved).connection reads closes]
      exact recorded

private theorem step_of_watched (watched : Watched p more q) :
    Sender.PeerClosing.Step p.config.sender (p.sender, p.senderView) more
      (q.sender, q.senderView) := by
  cases watched with
  | @move task _ moved =>
      by_cases own : task = .sender
      · subst own
        exact .move (sender_of_mem_moves moved)
      · have kept := kept_of_mem_moves moved
        rw [kept.sender own]
        refine .outside ?_ (record_of_mem_moves moved)
        exact Nat.le_of_eq kept.now.symm
  | @wait time later =>
      have silent : [] = Sender.PeerClosing.shown (p.sender, p.senderView)
          (p.sender, senderView { p with now := time }) :=
        ((Sender.PeerClosing.shown_outside _ _ _).trans
          (Sender.PeerClosing.records_self p.connection)).symm
      rw [silent]
      exact .outside later id
  | @peer wire =>
      have silent : [] = Sender.PeerClosing.shown (p.sender, p.senderView)
          (p.sender, senderView { p with wire }) :=
        ((Sender.PeerClosing.shown_outside _ _ _).trans
          (Sender.PeerClosing.records_self p.connection)).symm
      rw [silent]
      exact .outside (Nat.le_refl _) id

/-- A run of a pipeline is a run of its sender beside other things. -/
theorem sender_of_run (same : first.config = config) (run : Run Watched first events p) :
    p.config = config ∧
      Run (Sender.PeerClosing.Step config.sender) (first.sender, first.senderView) events
        (p.sender, p.senderView) := by
  refine run.keeps (fun events p => p.config = config ∧
    Run (Sender.PeerClosing.Step config.sender) (first.sender, first.senderView) events
      (p.sender, p.senderView)) ⟨same, .stay⟩ ?_
  rintro events more p q ⟨rfl, sender⟩ watched
  exact ⟨config_of_withPeer watched, sender.next (step_of_watched watched)⟩

/-- A subtest that ends with an error of its sender ends with the sender's own result. -/
theorem sender_of_reported {connection : Connection} {wire : Wire} {sink : RecordSink}
    {archive : Archive} {error : SendError}
    (run : Run Watched (start config connection wire sink archive) events p)
    (returned : p.result? = some (.error (.send error))) :
    p.sender.result? = some (.error error) := by
  obtain ⟨-, seen, done, -, books⟩ := books_of_run run
  have final := Supervisor.eq_of_result?_eq_some returned
  obtain ⟨sender, saver, sent, -, decided⟩ := books.decided final
  obtain ⟨result, own, rfl⟩ := Option.map_eq_some_iff.mp sent
  rcases decided with ⟨-, -, late⟩ | ⟨-, verdict⟩
  · cases late
  · cases result with
    | error failure =>
        cases verdict
        exact own
    | ok =>
        cases saver <;> cases verdict

/-- **Subtests whose peer closes first.** In every subtest and every order of what its tasks and
the peer do, no write begins after the peer's close is recorded. A sender that has finished has
stopped once, with that result; if its own side was open then, it has no error unless its last
write has taken too long, or has failed without a record before the end of the grace. Only such an
error, or one of a connection closed on its own side, is reported. -/
theorem reports_no_close (connection : Connection) (wire : Wire) (sink : RecordSink)
    (archive : Archive) (fresh : connection.peerClosed = false)
    (run : Run Watched (start config connection wire sink archive) events p) :
    (∀ early frame late, events = early ++ .began frame :: late → .recorded ∉ early) ∧
      (∀ result, p.sender.result? = some result → (stopsOf events).map (·.result) = [result]) ∧
      (∀ early stop late, events = early ++ .stopped stop :: late →
        (stop.connection.peerClosed = true ↔ .recorded ∈ early) ∧
          (stop.connection.closed = false →
            stop.result = .ok () ∨ TimedOut config.sender stop ∨ Unexcused early stop)) ∧
      ∀ error, p.result? = some (.error (.send error)) →
        ∃ early stop late, events = early ++ .stopped stop :: late ∧ stop.result = .error error ∧
          (stop.connection.closed = true ∨ TimedOut config.sender stop ∨ Unexcused early stop) := by
  obtain ⟨-, sender⟩ := sender_of_run rfl run
  obtain ⟨writes, results, stops⟩ := Sender.PeerClosing.stops_for_peer fresh sender
  refine ⟨writes, results, stops, fun error returned => ?_⟩
  have once := results _ (sender_of_reported run returned)
  obtain ⟨stop, only, result⟩ := List.map_eq_singleton_iff.mp once
  obtain ⟨early, late, split⟩ := Sender.PeerClosing.exists_split (only ▸ List.mem_singleton_self _)
  refine ⟨early, stop, late, split, result, ?_⟩
  cases closed : stop.connection.closed with
  | true => exact .inl rfl
  | false =>
      rcases (stops early stop late split).2 closed with success | timedOut | unexcused
      · exact nomatch result.symm.trans success
      · exact .inr (.inl timedOut)
      · exact .inr (.inr unexcused)

/-- An upload that would sample for a second. -/
def briefUpload : Config where
  subtest := .upload
  instrument := { congestion := fun _ => none, tcpStats := fun _ => none }
  draws := fun _ => millis 1000
  defaultRuntime := millis 1000

/-- This upload after its peer has closed at once. -/
def closedAtOnce : Pipeline :=
  machine.run 60 (start briefUpload {} { arrivals := [(0, .close)] } {} { uuid := "" })

/-- A peer that closes an upload at once is not reported. -/
theorem reports_no_close_closedAtOnce : ∃ events,
    Run Watched (start briefUpload {} { arrivals := [(0, .close)] } {} { uuid := "" }) events
        closedAtOnce ∧
      ({} : Connection).peerClosed = false ∧ closedAtOnce.connection.peerClosed = true ∧
      (stopsOf events).map (·.result) = [.ok ()] := by
  obtain ⟨events, run⟩ : ∃ events, Run Watched
      (start briefUpload {} { arrivals := [(0, .close)] } {} { uuid := "" }) events closedAtOnce :=
    machine_withPeer .stay 60
  obtain ⟨-, results, -⟩ := reports_no_close {} _ _ _ rfl run
  have success : closedAtOnce.sender.result?.map Except.isOk = some true := by
    decide +kernel
  obtain ⟨result, finished, written⟩ := Option.map_eq_some_iff.mp success
  cases result with
  | error => cases written
  | ok => exact ⟨events, run, rfl, by decide +kernel, results _ finished⟩

end LinkGauge.Pipeline
