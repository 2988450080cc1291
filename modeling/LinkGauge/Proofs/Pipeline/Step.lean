import LinkGauge.Pipeline
import LinkGauge.Proofs.Receiver
import LinkGauge.Proofs.Run
import LinkGauge.Proofs.Sender.Trace

/-!
# Runs of a pipeline

In a pipeline any task moves next that can, time passes as it likes, and the connection and the
other end of the wire change at any moment (`Pipeline.Step`). What such a run shows is what the
receiver has handed on. The pipeline as a machine makes one choice among these
(`Pipeline.machine_run`). Each task leaves most of the pipeline alone
(`Pipeline.kept_of_mem_moves`).
-/

namespace LinkGauge.Pipeline

/-- What can happen to a pipeline. -/
inductive Step (p : Pipeline) : List Received → Pipeline → Prop where
  | move {task : Task} {q : Pipeline} (moved : q ∈ p.moves task) :
      Step p (Receiver.emitted p.receiver q.receiver) q
  | wait {time : Nanos} (later : p.now ≤ time) : Step p [] { p with now := time }
  /-- The other end acts, or another holder of the connection does. -/
  | outside {connection : Connection} {wire : Wire} (sent : wire.sent = p.wire.sent) :
      Step p [] { p with connection, wire }

/-- What can happen to a pipeline whose tasks show something by their moves. -/
inductive Showing {ε : Type} (shown : Task → Pipeline → Pipeline → List ε) (p : Pipeline) :
    List ε → Pipeline → Prop where
  | move {task : Task} {q : Pipeline} (moved : q ∈ p.moves task) :
      Showing shown p (shown task p q) q
  | wait {time : Nanos} (later : p.now ≤ time) : Showing shown p [] { p with now := time }
  | outside {connection : Connection} {wire : Wire} (sent : wire.sent = p.wire.sent) :
      Showing shown p [] { p with connection, wire }

/-- What can happen to a pipeline whose connection nobody else holds. -/
inductive WithPeer {ε : Type} (shown : Task → Pipeline → Pipeline → List ε) (p : Pipeline) :
    List ε → Pipeline → Prop where
  | move {task : Task} {q : Pipeline} (moved : q ∈ p.moves task) :
      WithPeer shown p (shown task p q) q
  | wait {time : Nanos} (later : p.now ≤ time) : WithPeer shown p [] { p with now := time }
  /-- The peer sends something, or takes what is sent to it in another way. -/
  | peer {wire : Wire} : WithPeer shown p [] { p with wire }

private theorem mem_moves_of_step? {p q : Pipeline} (moved : p.step? = some q) :
    ∃ task, q ∈ p.moves task := by
  unfold step? at moved
  split at moved
  · cases moved
  · obtain ⟨task, _, first⟩ := List.exists_of_findSome?_eq_some moved
    exact ⟨task, List.mem_of_mem_head? first⟩

/-- The machine goes on along a run of whatever its moves and the passing of time are. -/
theorem machine_follows {ε : Type} {step : Pipeline → List ε → Pipeline → Prop}
    {first p : Pipeline} {events : List ε} (run : Run step first events p)
    (move : ∀ {task p q}, q ∈ moves p task → ∃ more, step p more q)
    (wait : ∀ {p time}, p.now ≤ time → ∃ more, step p more { p with now := time }) (steps : Nat) :
    ∃ all, Run step first all (machine.run steps p) := by
  refine run.execute machine ?_ (fun _ next => wait (Machine.le_of_nextAlarm? next)) steps
  intro events p q _ moved
  obtain ⟨_, member⟩ := mem_moves_of_step? moved
  exact move member

/-- The machine goes on along a run. -/
theorem machine_run {first p : Pipeline} {emitted : List Received}
    (run : Run Step first emitted p) (steps : Nat) :
    ∃ all, Run Step first all (machine.run steps p) :=
  machine_follows run (fun moved => ⟨_, .move moved⟩) (fun later => ⟨[], .wait later⟩) steps

/-- The machine goes on along a run, whatever it shows. -/
theorem machine_showing {ε : Type} {shown : Task → Pipeline → Pipeline → List ε}
    {first p : Pipeline} {events : List ε} (run : Run (Showing shown) first events p)
    (steps : Nat) : ∃ all, Run (Showing shown) first all (machine.run steps p) :=
  machine_follows run (fun moved => ⟨_, .move moved⟩) (fun later => ⟨[], .wait later⟩) steps

/-- The machine goes on along a run with the peer. -/
theorem machine_withPeer {ε : Type} {shown : Task → Pipeline → Pipeline → List ε}
    {first p : Pipeline} {events : List ε} (run : Run (WithPeer shown) first events p)
    (steps : Nat) : ∃ all, Run (WithPeer shown) first all (machine.run steps p) :=
  machine_follows run (fun moved => ⟨_, .move moved⟩) (fun later => ⟨[], .wait later⟩) steps

/-- The machine's way from a pipeline: what the tasks show on it, and where it leads. -/
def follow {ε : Type} (shown : Task → Pipeline → Pipeline → List ε) :
    Nat → Pipeline → List ε × Pipeline
  | 0, p => ([], p)
  | steps + 1, p =>
    if p.result?.isSome then ([], p)
    else
      match Task.all.findSome? fun task => (p.moves task).head?.map (task, ·) with
      | some (task, q) =>
        let (events, last) := follow shown steps q
        (shown task p q ++ events, last)
      | none =>
        match Machine.nextAlarm? p.now p.alarms with
        | some time => follow shown steps { p with now := time }
        | none => ([], p)

/-- The machine's way is a run. -/
theorem run_follow {ε : Type} (shown : Task → Pipeline → Pipeline → List ε) (steps : Nat)
    (p : Pipeline) : Run (Showing shown) p (follow shown steps p).1 (follow shown steps p).2 := by
  induction steps generalizing p with
  | zero => exact .stay
  | succ steps ih =>
      rw [follow]
      split
      · exact .stay
      · split
        · next first =>
            obtain ⟨_, _, found⟩ := List.exists_of_findSome?_eq_some first
            obtain ⟨_, member, same⟩ := Option.map_eq_some_iff.mp found
            obtain ⟨rfl, rfl⟩ := Prod.mk.inj same
            exact (Run.stay.next (.move (List.mem_of_mem_head? member))).trans (ih _)
        · split
          · next alarm =>
              exact (Run.stay.next (.wait (Machine.le_of_nextAlarm? alarm))).trans (ih _)
          · exact .stay

/-- What the multiplexer sees. -/
def muxView (p : Pipeline) : Mux.View where
  samples := p.samples
  received := p.received
  toSender := p.released
  serverLog := p.serverLog
  clientLog := p.clientLog
  stopRequested := p.samplingContext.cancelled

/-- Only a ping run has a multiplexer, and its moves are the multiplexer's own. -/
theorem of_mem_muxMoves {p q : Pipeline} (moved : q ∈ p.muxMoves) :
    p.isPing = true ∧ ∃ mux v, (mux, v) ∈ p.mux.moves p.muxView ∧
      q = { p with
        mux
        samples := v.samples
        received := v.received
        released := v.toSender
        serverLog := v.serverLog
        clientLog := v.clientLog
        samplingContext := { p.samplingContext with cancelled := v.stopRequested } } := by
  rw [muxMoves] at moved
  split at moved
  · next ping =>
      obtain ⟨⟨mux, v⟩, member, rfl⟩ := List.mem_map.mp moved
      exact ⟨ping, mux, v, member, rfl⟩
  · cases moved

/-- Only a ping run takes echoes away, one at a time. -/
theorem of_mem_echoDrainMoves {p q : Pipeline} (moved : q ∈ p.echoDrainMoves) :
    p.isPing = true ∧ ∃ m echo, p.echo.take? = some (m, echo) ∧ q = { p with echo } := by
  rw [echoDrainMoves] at moved
  split at moved
  · next ping =>
      split at moved
      · next m echo taken => exact ⟨ping, m, echo, taken, List.mem_singleton.mp moved⟩
      · cases moved
  · cases moved

/-- The merged channel ends once, when both forwarders have finished. -/
theorem of_mem_mergeEndMoves {p q : Pipeline} (moved : q ∈ p.mergeEndMoves) :
    p.mergeEnded = false ∧ p.serverForwarder = .finished ∧ p.clientForwarder = .finished ∧
      q = { p with mergeEnded := true, merged := p.merged.hangUp } := by
  rw [mergeEndMoves] at moved
  split at moved
  · next due =>
      simp only [Bool.and_eq_true, Bool.not_eq_true', decide_eq_true_eq] at due
      exact ⟨due.1.1, due.1.2, due.2, List.mem_singleton.mp moved⟩
  · cases moved

/-- What a move of a task leaves alone. -/
structure Kept (p : Pipeline) (task : Task) (q : Pipeline) : Prop where
  config : q.config = p.config
  now : q.now = p.now
  connection : task ≠ .receiver → task ≠ .closer → q.connection = p.connection
  wire : task ≠ .receiver → task ≠ .sender → q.wire = p.wire
  released : task ≠ .mux → task ≠ .sender → q.released = p.released
  echo : task ≠ .sender → task ≠ .echoDrain → task ≠ .serverForwarder → q.echo = p.echo
  errors : task ≠ .supervisor → task ≠ .closer → q.errors = p.errors
  receiver : task ≠ .receiver → q.receiver = p.receiver
  mux : task ≠ .mux → q.mux = p.mux
  sender : task ≠ .sender → q.sender = p.sender
  saver : task ≠ .saver → q.saver = p.saver
  supervisor : task ≠ .supervisor → q.supervisor = p.supervisor
  closer : task ≠ .closer → q.closer = p.closer

/-- A move of a task keeps what `Kept` says of it. -/
theorem kept_of_mem_moves {p q : Pipeline} {task : Task} (moved : q ∈ p.moves task) :
    Kept p task q := by
  cases task with
  | measurer | receiver | saver | supervisor | closer =>
      obtain ⟨_, _, rfl⟩ := List.mem_map.mp moved
      constructor <;> intros <;> first | rfl | contradiction
  | sender | serverForwarder =>
      obtain ⟨_, _, rfl⟩ := List.mem_map.mp moved
      dsimp only
      split <;> constructor <;> intros <;> first | rfl | contradiction
  | mux =>
      obtain ⟨-, _, _, -, rfl⟩ := of_mem_muxMoves moved
      constructor <;> intros <;> first | rfl | contradiction
  | echoDrain =>
      obtain ⟨-, _, _, -, rfl⟩ := of_mem_echoDrainMoves moved
      constructor <;> intros <;> first | rfl | contradiction
  | clientForwarder =>
      rw [moves, clientForwarderMoves] at moved
      split at moved
      all_goals
        obtain ⟨_, _, rfl⟩ := List.mem_map.mp moved
        constructor <;> intros <;> rfl
  | mergeEnd =>
      obtain ⟨-, -, -, rfl⟩ := of_mem_mergeEndMoves moved
      constructor <;> intros <;> rfl

/-- Only the receiver's own moves change the receiver. -/
theorem receiver_of_mem_moves {p q : Pipeline} {task : Task} (other : task ≠ .receiver)
    (moved : q ∈ p.moves task) : q.receiver = p.receiver :=
  (kept_of_mem_moves moved).receiver other

/-- Nothing but the sender's own moves sends a frame. -/
theorem sent_of_mem_moves {p q : Pipeline} {task : Task} (other : task ≠ .sender)
    (moved : q ∈ p.moves task) : q.wire.sent = p.wire.sent := by
  by_cases own : task = .receiver
  · subst own
    obtain ⟨⟨receiver, v⟩, member, rfl⟩ := List.mem_map.mp moved
    exact (Receiver.moved_of_mem_moves member).wire_sent
  · rw [(kept_of_mem_moves moved).wire own other]

/-- What the sender sees. -/
def senderView (p : Pipeline) : Sender.View where
  now := p.now
  connection := p.connection
  source := if p.isPing then p.released else p.samples
  echo := p.echo
  wire := p.wire
  log := p.log

/-- Whether a run is a ping run is a matter of its configuration. -/
theorem isPing_congr {p q : Pipeline} (same : q.config = p.config) : q.isPing = p.isPing := by
  rw [isPing, isPing, same]

/-- The moves of the sender in a pipeline are those that it can make. -/
theorem sender_of_mem_moves {p q : Pipeline} (moved : q ∈ p.senderMoves) :
    (q.sender, q.senderView) ∈ p.sender.moves p.config.sender p.senderView := by
  obtain ⟨⟨s, v⟩, member, rfl⟩ := List.mem_map.mp moved
  have keeps := (Sender.mem_moves_iff.mp member).acted.keeps
  obtain ⟨now, connection, source, echo, wire, log⟩ := v
  obtain rfl : now = p.now := keeps.now
  obtain rfl : connection = p.connection := keeps.connection
  by_cases ping : p.isPing = true
  · have view : senderView { p with sender := s, released := source, echo, wire, log } =
        ⟨p.now, p.connection, source, echo, wire, log⟩ := by
      rw [senderView, if_pos (by exact ping)]
    dsimp only
    rw [if_pos (by exact ping), view]
    exact member
  · have view : senderView { p with sender := s, samples := source, echo, wire, log } =
        ⟨p.now, p.connection, source, echo, wire, log⟩ := by
      rw [senderView, if_neg (by exact ping)]
    dsimp only
    rw [if_neg (by exact ping), view]
    exact member

end LinkGauge.Pipeline
