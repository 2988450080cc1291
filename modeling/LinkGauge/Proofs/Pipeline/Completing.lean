import LinkGauge.Proofs.Pipeline.Waiting

/-!
# Running to completion

Every value on its way and every stage has a price, which is more than what its next move leaves
to be paid (`Pipeline.Wired.remaining_lt`): once the maximum runtime has passed and the
connection is closed, no task can go on for ever, and none waits for the peer. With
`Pipeline.Wired.completed` the pipeline then runs to completion within one close grace
(`Pipeline.never_stuck`).
-/

namespace LinkGauge

/-! ### What stages have left to do -/

namespace Measurer

def price (m : Measurer) : Nat :=
  match m.activity with
  | .finished => 0
  | .ticking | .waiting _ => 1
  | .starting => 2
  | .emitting _ => 7

private theorem Moved.cheaper {config : Config} {m : Measurer} {v : View} {next : Measurer × View}
    (moved : Moved config m v next) (done : v.context.isDone v.now = true) :
    next.1.price + 5 * next.2.output.queue.length < m.price + 5 * v.output.queue.length := by
  cases moved with
  | begin starting =>
      obtain ⟨log, goesOn | stops⟩ := m.begin_eq config v
      · rw [goesOn]
        simp only [price, starting]
        omega
      · rw [stops]
        simp only [price, Measurer.stop, Channel.hangUp, starting]
        omega
  | rest _ goesOn | sample _ goesOn => cases done.symm.trans goesOn
  | hand emitting sent =>
      have longer := Channel.length_of_send? sent
      simp only [price, emitting]
      omega
  | lose emitting =>
      simp only [price, Measurer.stop, Channel.hangUp, emitting]
      omega
  | stop started running =>
      simp only [price, Measurer.stop, Channel.hangUp]
      split <;> first | contradiction | omega

end Measurer

namespace Receiver

def price (r : Receiver) : Nat :=
  match r.activity with
  | .finished => 0
  | .reading => 1
  | .emitting _ => 9

private theorem Acted.cheaper {config : Config} {r : Receiver} {v : View} {next : Receiver × View}
    {events : List Event} (acted : Acted config r v events next) :
    9 * next.2.wire.arrivals.length + next.1.price + 7 * next.2.output.queue.length <
      9 * v.wire.arrivals.length + r.price + 7 * v.output.queue.length := by
  cases acted with
  | hear reading there | skip reading there =>
      obtain ⟨⟨time, -, arrivals⟩, -⟩ := Wire.read?_eq_some there
      simp only [price, reading, arrivals, List.length_cons]
      omega
  | refuse reading there | close reading there =>
      obtain ⟨⟨time, -, arrivals⟩, -⟩ := Wire.read?_eq_some there
      simp only [price, stop, Channel.hangUp, reading, arrivals, List.length_cons]
      omega
  | hand emitting sent =>
      have longer := Channel.length_of_send? sent
      simp only [price, emitting]
      omega
  | halt active | lose active =>
      simp only [price, stop, Channel.hangUp, active]
      omega

end Receiver

namespace Mux

def Activity.price : Activity → Nat
  | .finished => 0
  | .selecting => 1
  | .releasing _ => 3
  | .loggingServer _ false | .loggingClient _ => 5
  | .loggingServer _ true => 7

/-- What is left to do for a multiplexer. -/
def price (m : Mux) : Nat := m.activity.price + m.samplesOpen.toNat + m.receivedOpen.toNat

def View.price (v : View) : Nat :=
  5 * v.samples.queue.length + 7 * v.received.queue.length + v.toSender.queue.length +
    3 * (v.serverLog.queue.length + v.clientLog.queue.length)

private theorem Moved.cheaper {m next : Mux} {v after : View} {arrivals : List Arrival}
    (moved : Moved m v arrivals next after) : next.price + after.price < m.price + v.price := by
  obtain ⟨activity, pending, samplesOpen, receivedOpen⟩ := m
  cases moved with
  | takeSample selecting opened taken | takeEcho selecting opened taken
  | takeMessage selecting opened taken =>
      subst selecting
      simp only [price, View.price, Activity.price, Channel.length_of_take? taken]
      omega
  | endSamples selecting opened ended | endReceived selecting opened ended =>
      subst selecting opened
      simp only [price, View.price, Channel.hangUp, Bool.toNat_true, Bool.toNat_false]
      omega
  | finish selecting noSamples noReceived =>
      subst selecting
      simp only [price, View.price, Channel.hangUp, Activity.price]
      omega
  | @logServer sample echo _ _ logging sent =>
      subst logging
      have longer := Channel.length_of_send? sent
      cases echo <;> cases samplesOpen <;>
        simp only [price, View.price, collect, Activity.price, Bool.false_eq_true, ↓reduceIte] <;>
        omega
  | release releasing sent | logClient releasing sent =>
      subst releasing
      have longer := Channel.length_of_send? sent
      simp only [price, View.price, Activity.price]
      omega

end Mux

private theorem Wire.length_deliver (w : Wire) (frame : Frame) (now : Nanos) :
    (w.deliver frame now).arrivals.length ≤ w.arrivals.length + 1 := by
  have arrive (time : Nanos) (arrival : Arrival) (arrivals : List (Nanos × Arrival)) :
      (Wire.arrive time arrival arrivals).length = arrivals.length + 1 := by
    induction arrivals with
    | nil => rfl
    | cons earliest rest ih =>
        unfold Wire.arrive
        split
        · rw [List.length_cons, ih, List.length_cons]
        · rfl
  unfold deliver
  dsimp only
  split
  · exact Nat.le_of_eq (arrive _ _ _)
  · exact Nat.le_succ _

namespace Sender

def price (s : Sender) : Nat :=
  match s.activity with
  | .finished _ => 0
  | .draining _ => 1
  | .choosing | .pinging | .grace _ _ => 2
  | .echoing _ => 6
  | .writing _ _ => 16

/-- The price of what a sender sees, where one measurement in its source costs `each`. -/
def View.price (each : Nat) (v : View) : Nat :=
  each * v.source.queue.length + 3 * v.echo.queue.length + 9 * v.wire.arrivals.length

variable {config : Config} {s : Sender} {v : View} {next : Sender × View} {each : Nat}

private theorem price_stop (s : Sender) (v : View) (result : Except SendError Unit) :
    (s.stop v result).1.price = 1 ∧ (s.stop v result).2.price each = v.price each := by
  obtain ⟨outcome, log, stopped⟩ := exists_stop s v result
  rw [stopped]
  exact ⟨rfl, rfl⟩

private theorem price_beginWrite (closed : v.connection.closed = true) (frame : Frame) :
    (s.beginWrite v frame).1.price = 1 ∧ (s.beginWrite v frame).2.price each = v.price each := by
  rw [beginWrite, if_pos closed]
  exact price_stop s v _

private theorem price_written (s : Sender) (v : View) (frame : Frame) :
    (s.written v frame).1.price ≤ 6 ∧ (s.written v frame).2.price each = v.price each := by
  cases frame with
  | text => exact ⟨Nat.le_refl 6, rfl⟩
  | binary | ping => exact ⟨Nat.le_add_right 2 4, rfl⟩
  | close =>
      obtain ⟨one, same⟩ := s.price_stop v (.ok ())
      exact ⟨one.symm ▸ Nat.le_add_right 1 5, same⟩

private theorem Moved.cheaper (moved : Moved config s v next) (closed : v.connection.closed = true)
    (positive : 0 < each) :
    next.1.price + next.2.price each < s.price + v.price each := by
  have refused {w : View} {frame : Frame} (before : 1 < s.price)
      (same : w.connection = v.connection) (cheap : w.price each ≤ v.price each) :
      (s.beginWrite w frame).1.price + (s.beginWrite w frame).2.price each <
        s.price + v.price each := by
    obtain ⟨one, paid⟩ := price_beginWrite (s := s) (same ▸ closed) frame
    rw [one, paid]
    omega
  have stopped {result : Except SendError Unit} (before : 1 < s.price) :
      (s.stop v result).1.price + (s.stop v result).2.price each < s.price + v.price each := by
    obtain ⟨one, paid⟩ := s.price_stop v result
    rw [one, paid]
    omega
  cases moved with
  | sendNext choosing taken =>
      refine refused (by rw [price, choosing]; exact Nat.one_lt_two) rfl ?_
      simp only [View.price, Channel.length_of_take? taken, Nat.mul_add]
      omega
  | sendClose start | sendFiller start | sendPing start =>
      exact refused (by rw [price, start]; exact Nat.one_lt_two) rfl (Nat.le_refl _)
  | @land flight begun writing landed whole =>
      have arrived := v.wire.length_deliver flight.frame v.now
      obtain ⟨cheap, same⟩ :=
        s.price_written { v with wire := v.wire.deliver flight.frame v.now } flight.frame
      have before : s.price = 16 := by rw [price, writing]
      rw [same]
      simp only [View.price]
      omega
  | fail writing landed broken =>
      simp only [price, writing]
      omega
  | expire active | interrupt active | excuse active | giveUp active =>
      exact stopped (by rw [price, active]; exact Nat.one_lt_succ_succ _)
  | @echo m _ echo echoing sent =>
      have longer := Channel.length_of_send? sent
      have after (ping : Prop) [Decidable ping] :
          price { s with activity := if ping then .pinging else .choosing } = 2 := by
        split <;> rfl
      rw [after]
      simp only [price, echoing, View.price]
      omega
  | drain draining taken =>
      simp only [View.price, Channel.length_of_take? taken, Nat.mul_add]
      omega
  | finish draining nothing ended =>
      simp only [price, draining]
      omega

private theorem Moved.stopped_of_grace (moved : Moved config s v next) {reason : String}
    {ends : Nanos} (grace : s.activity = .grace reason ends) : next.1.handsOn = false := by
  have stopped (result : Except SendError Unit) : (s.stop v result).1.handsOn = false := by
    obtain ⟨outcome, log, stopped⟩ := exists_stop s v result
    rw [stopped]
    rfl
  cases moved with
  | excuse | giveUp => exact stopped _
  | sendNext active | sendClose active | sendFiller active | sendPing active | land active
  | fail active | expire active | interrupt active | echo active | drain active | finish active =>
      exact nomatch grace.symm.trans active

end Sender

namespace Forwarder

def price (f : Forwarder) : Nat :=
  match f with
  | .finished => 0
  | .waiting => 1
  | .holding _ => 3

private theorem Moved.cheaper {α : Type} {label : α → Record} {f next : Forwarder}
    {v after : View α} {each : Nat} (moved : Moved label v f next after) (enough : 3 ≤ each) :
    next.price + each * after.source.queue.length + after.merged.queue.length <
      f.price + each * v.source.queue.length + v.merged.queue.length := by
  cases moved with
  | take taken =>
      simp only [price, Channel.length_of_take? taken, Nat.mul_add]
      omega
  | finish =>
      simp only [price, Channel.hangUp]
      omega
  | hand sent =>
      have longer := Channel.length_of_send? sent
      simp only [price]
      omega

end Forwarder

private theorem Saver.Moved.cheaper {s next : Saver} {v after : View}
    (moved : Moved s v next after) :
    (!next.finished).toNat + after.merged.queue.length <
      (!s.finished).toNat + v.merged.queue.length := by
  cases moved with
  | save unfinished taken =>
      rw [save_merged, save_finished, Channel.length_of_take? taken]
      exact Nat.lt_succ_self _
  | finish unfinished =>
      rw [unfinished]
      simp only [Bool.not_true, Bool.not_false, Bool.toNat_false, Bool.toNat_true]
      omega

/-! ### What a pipeline has left to do -/

namespace Pipeline

/-- A bound on the moves that a pipeline can still make on its own. -/
def remaining (p : Pipeline) : Nat :=
  9 * p.wire.arrivals.length + p.receiver.price + 7 * p.received.queue.length +
    p.measurer.price + 5 * p.samples.queue.length + p.mux.price + p.released.queue.length +
    3 * (p.serverLog.queue.length + p.clientLog.queue.length) + 3 * p.echo.queue.length +
    p.sender.price + p.serverForwarder.price + p.clientForwarder.price +
    p.merged.queue.length + (!p.mergeEnded).toNat + (!p.saver.finished).toNat +
    p.supervisor.work + p.closer.work

/-- The maximum runtime has passed, and the closer has closed the connection. -/
structure Shut (p : Pipeline) : Prop where
  late : p.config.maxRuntime ≤ p.now
  closed : p.connection.closed = true
  settled : p.closer.result?.isSome = true

/-- What can happen to a pipeline that nobody else acts on, and which task has moved. -/
inductive Alone (p : Pipeline) : List Task → Pipeline → Prop where
  | move {task : Task} {q : Pipeline} (moved : q ∈ p.moves task) : Alone p [task] q
  | wait {time : Nanos} (later : p.now ≤ time) : Alone p [] { p with now := time }

variable {config : Config} {p q : Pipeline} {task : Task} {tasks : List Task}

private theorem Alone.goes (alone : Alone p tasks q) : Goes p tasks q := by
  cases alone with
  | move moved => exact .move moved
  | wait later => exact .wait later

private theorem Shut.no_close (shut : Shut p) : p.moves .closer = [] := by
  obtain ⟨result, settled⟩ := Option.isSome_iff_exists.mp shut.settled
  rw [moves, closerMoves, Closer.eq_of_result?_eq_some settled]
  rfl

private theorem Shut.move (shut : Shut p) (moved : q ∈ p.moves task) : Shut q := by
  have kept := kept_of_mem_moves moved
  have other : task ≠ .closer := by
    rintro rfl
    rw [shut.no_close] at moved
    cases moved
  refine ⟨?_, ?_, ?_⟩
  · rw [kept.config, kept.now]
    exact shut.late
  · by_cases reads : task = .receiver
    · subst reads
      obtain ⟨⟨receiver, v⟩, member, rfl⟩ := List.mem_map.mp moved
      exact (Receiver.mem_moves_iff.mp member).connection.1.trans shut.closed
    · rw [kept.connection reads other]
      exact shut.closed
  · rw [kept.closer other]
    exact shut.settled

private theorem Shut.alone (shut : Shut p) (alone : Alone p tasks q) : Shut q := by
  cases alone with
  | move moved => exact shut.move moved
  | wait later => exact ⟨Nat.le_trans shut.late later, shut.closed, shut.settled⟩

private theorem Wired.sampling_done (wired : Wired config p) (shut : Shut p) :
    p.samplingContext.isDone p.now = true := by
  have late := shut.late
  rw [wired.same] at late
  exact isDone_of_le (Nat.le_trans wired.samplingDeadline late)

/-- Every move leaves less to do. -/
theorem Wired.remaining_lt (wired : Wired config p) (shut : Shut p) (moved : q ∈ p.moves task) :
    q.remaining < p.remaining := by
  cases task with
  | measurer =>
      obtain ⟨⟨measurer, v⟩, member, rfl⟩ := List.mem_map.mp moved
      have cheaper := (Measurer.mem_moves_iff.mp member).cheaper (wired.sampling_done shut)
      dsimp only at cheaper
      simp only [remaining]
      omega
  | receiver =>
      obtain ⟨⟨receiver, v⟩, member, rfl⟩ := List.mem_map.mp moved
      have cheaper : 9 * v.wire.arrivals.length + receiver.price + 7 * v.output.queue.length <
          9 * p.wire.arrivals.length + p.receiver.price + 7 * p.received.queue.length :=
        (Receiver.mem_moves_iff.mp member).acted.cheaper
      simp only [remaining]
      omega
  | mux =>
      obtain ⟨-, mux, v, member, rfl⟩ := of_mem_muxMoves moved
      obtain ⟨_, move⟩ := Mux.mem_moves_iff.mp member
      have cheaper := move.cheaper
      simp only [Mux.View.price, muxView] at cheaper
      simp only [remaining]
      omega
  | sender =>
      obtain ⟨⟨sender, v⟩, member, rfl⟩ := List.mem_map.mp moved
      have move := Sender.mem_moves_iff.mp member
      dsimp only
      split
      · next ping =>
          have cheaper := move.cheaper shut.closed Nat.one_pos
          have ping : p.isPing = true := ping
          simp only [Sender.View.price, ping, ↓reduceIte] at cheaper
          simp only [remaining]
          omega
      · next plain =>
          have cheaper := move.cheaper shut.closed (Nat.succ_pos 4)
          have plain : p.isPing = false := Bool.eq_false_iff.mpr plain
          simp only [Sender.View.price, plain, Bool.false_eq_true, ↓reduceIte] at cheaper
          simp only [remaining]
          omega
  | echoDrain =>
      obtain ⟨-, _, _, taken, rfl⟩ := of_mem_echoDrainMoves moved
      have shorter := Channel.length_of_take? taken
      simp only [remaining]
      omega
  | serverForwarder =>
      obtain ⟨⟨forwarder, v⟩, member, rfl⟩ := List.mem_map.mp moved
      have cheaper := (Forwarder.mem_moves_iff.mp member).cheaper (Nat.le_refl 3)
      dsimp only
      split
      · next ping =>
          have ping : p.isPing = true := ping
          simp only [ping, ↓reduceIte] at cheaper
          simp only [remaining]
          omega
      · next plain =>
          have plain : p.isPing = false := Bool.eq_false_iff.mpr plain
          simp only [plain, Bool.false_eq_true, ↓reduceIte] at cheaper
          simp only [remaining]
          omega
  | clientForwarder =>
      rw [moves, clientForwarderMoves] at moved
      split at moved
      · obtain ⟨⟨forwarder, v⟩, member, rfl⟩ := List.mem_map.mp moved
        have cheaper := (Forwarder.mem_moves_iff.mp member).cheaper (Nat.le_refl 3)
        dsimp only at cheaper
        simp only [remaining]
        omega
      · obtain ⟨⟨forwarder, v⟩, member, rfl⟩ := List.mem_map.mp moved
        have cheaper := (Forwarder.mem_moves_iff.mp member).cheaper (Nat.le_add_right 3 4)
        dsimp only at cheaper
        simp only [remaining]
        omega
  | mergeEnd =>
      obtain ⟨once, -, -, rfl⟩ := of_mem_mergeEndMoves moved
      simp only [remaining, Channel.hangUp, once, Bool.not_true, Bool.not_false,
        Bool.toNat_false, Bool.toNat_true]
      omega
  | saver =>
      obtain ⟨⟨saver, v⟩, member, rfl⟩ := List.mem_map.mp moved
      have cheaper := (Saver.mem_moves_iff.mp member).cheaper
      dsimp only at cheaper
      simp only [remaining]
      omega
  | supervisor =>
      obtain ⟨⟨supervisor, v⟩, member, rfl⟩ := List.mem_map.mp moved
      have cheaper := Supervisor.work_lt_of_moved (Supervisor.mem_moves_iff.mp member)
      dsimp only at cheaper
      simp only [remaining]
      omega
  | closer =>
      rw [shut.no_close] at moved
      cases moved

/-- A closed connection leaves nobody waiting for the peer. -/
theorem Wired.unwaiting (wired : Wired config p) (shut : Shut p) :
    (p.receiver.activity ≠ .finished → p.moves .receiver ≠ []) ∧
      ∀ flight begun, p.sender.activity = .writing flight begun → p.moves .sender ≠ [] := by
  obtain rfl := wired.same
  constructor
  · exact fun running => (Timer.reading running).moves (wired.deadline.trans_le shut.late)
  · intro flight begun writing stuck
    have opened := (Sender.early_of_writing (List.map_eq_nil_iff.mp stuck) writing).2
    exact nomatch opened.symm.trans shut.closed

/-- The sender waits for the end of a grace, at most 100 ms. -/
def InGrace (p : Pipeline) : Prop :=
  ∃ reason ends, p.sender.activity = .grace reason ends ∧ p.now < ends ∧
    ends ≤ p.now + Sender.closeGrace

/-- On its own, a pipeline that has not completed moves, or waits for the end of a grace. -/
theorem Wired.goesOn (wired : Wired config p) (shut : Shut p) :
    Completed p ∨ (∃ task, p.moves task ≠ []) ∨ InGrace p := by
  by_cases moving : ∃ task, p.moves task ≠ []
  · exact .inr (.inl moving)
  have stuck : ∀ task, p.moves task = [] := by simpa using moving
  by_cases grace : InGrace p
  · exact .inr (.inr grace)
  obtain ⟨receiving, writing⟩ := wired.unwaiting shut
  obtain rfl := wired.same
  have sampled : p.samplingContext.deadline ≤ p.now :=
    Nat.le_trans wired.samplingDeadline shut.late
  refine .inl (wired.completed stuck fun task time timer => ?_)
  cases timer with
  | tick waiting =>
      have early := (Timer.sampling (.inl ⟨_, waiting⟩)).lt_of_stuck (stuck _)
      exact absurd sampled (Nat.not_le.mpr early)
  | sampling waiting =>
      have early := (Timer.sampling waiting).lt_of_stuck (stuck _)
      exact absurd sampled (Nat.not_le.mpr early)
  | reading running => exact receiving running (stuck _)
  | writing active => exact writing _ _ active (stuck _)
  | grace active =>
      have early := (Timer.grace active).lt_of_stuck (stuck _)
      have brief : time ≤ p.now + Sender.closeGrace :=
        wired.grace time (by rw [Sender.graceEnd?, active])
      exact grace ⟨_, time, active, early, brief⟩
  | ceiling waiting =>
      have settled := shut.settled
      rw [waiting] at settled
      cases settled

private theorem stopped_of_move (stopped : p.sender.handsOn = false) (moved : q ∈ p.moves task) :
    q.sender.handsOn = false := by
  by_cases own : task = .sender
  · subst own
    cases (Sender.mem_moves_iff.mp (sender_of_mem_moves moved)).handing with
    | written new texts unechoed echo goesOn => exact goesOn.trans stopped
    | echoed texts before after sent opened => exact nomatch stopped.symm.trans opened
    | stopped texts before after echo opened ended => exact ended
  · rw [(kept_of_mem_moves moved).sender own]
    exact stopped

/-- A pipeline whose sender has stopped completes at once. -/
theorem Wired.completes_at_once (wired : Wired config p) (shut : Shut p)
    (stopped : p.sender.handsOn = false) :
    ∃ tasks q, Run Alone p tasks q ∧ Completed q ∧ q.now = p.now := by
  induction work : p.remaining using Nat.strongRecOn generalizing p with
  | ind work ih =>
      rcases wired.goesOn shut with completed | ⟨task, moving⟩ | ⟨_, _, grace, -⟩
      · exact ⟨[], p, .stay, completed, rfl⟩
      · obtain ⟨q, moved⟩ := List.exists_mem_of_ne_nil _ moving
        have less := wired.remaining_lt shut moved
        obtain ⟨tasks, r, run, completed, now⟩ := ih _ (work ▸ less) (wired.move moved)
          (shut.move moved) (stopped_of_move stopped moved) rfl
        refine ⟨_, r, (Run.next .stay (.move moved)).trans run, completed, ?_⟩
        rw [now, (kept_of_mem_moves moved).now]
      · rw [Sender.handsOn, grace] at stopped
        cases stopped

/-- The end of a grace stops the sender. -/
theorem stops_after_grace {reason : String} {ends : Nanos}
    (grace : p.sender.activity = .grace reason ends) (due : ends ≤ p.now) :
    ∃ q ∈ p.moves .sender, q.sender.handsOn = false := by
  have moving := (Timer.grace grace).moves due
  obtain ⟨q, moved⟩ := List.exists_mem_of_ne_nil _ moving
  refine ⟨q, moved, ?_⟩
  exact (Sender.mem_moves_iff.mp (sender_of_mem_moves moved)).stopped_of_grace grace

private theorem Wired.completes (wired : Wired config p) (shut : Shut p) :
    ∃ tasks q, Run Alone p tasks q ∧ Completed q ∧ q.now ≤ p.now + Sender.closeGrace := by
  induction work : p.remaining using Nat.strongRecOn generalizing p with
  | ind work ih =>
      rcases wired.goesOn shut with completed | ⟨task, moving⟩ | ⟨_, ends, grace, early, brief⟩
      · exact ⟨[], p, .stay, completed, Nat.le_add_right _ _⟩
      · obtain ⟨q, moved⟩ := List.exists_mem_of_ne_nil _ moving
        have less := wired.remaining_lt shut moved
        obtain ⟨tasks, r, run, completed, soon⟩ :=
          ih _ (work ▸ less) (wired.move moved) (shut.move moved) rfl
        rw [(kept_of_mem_moves moved).now] at soon
        exact ⟨_, r, (Run.next .stay (.move moved)).trans run, completed, soon⟩
      · have waited : Alone p [] { p with now := ends } := .wait (Nat.le_of_lt early)
        have later := wired.step waited.goes
        have shutLater := shut.alone waited
        obtain ⟨q, moved, stopped⟩ := stops_after_grace (p := { p with now := ends }) grace
          (Nat.le_refl ends)
        obtain ⟨tasks, r, run, completed, now⟩ :=
          (later.move moved).completes_at_once (shutLater.move moved) stopped
        refine ⟨_, r, ((Run.next .stay waited).next (.move moved)).trans run, completed, ?_⟩
        rw [now, (kept_of_mem_moves moved).now]
        exact brief

private theorem Wired.alone (wired : Wired config p) (shut : Shut p) (run : Run Alone p tasks q) :
    Wired config q ∧ Shut q ∧ tasks.length + q.remaining ≤ p.remaining := by
  refine run.keeps (fun tasks q => Wired config q ∧ Shut q ∧
    tasks.length + q.remaining ≤ p.remaining) ⟨wired, shut, ?_⟩ ?_
  · exact Nat.le_of_eq (Nat.zero_add _)
  · rintro tasks more q r ⟨wired, shut, fewer⟩ alone
    refine ⟨wired.step alone.goes, shut.alone alone, ?_⟩
    cases alone with
    | wait =>
        rw [List.append_nil]
        exact fewer
    | move moved =>
        have less := wired.remaining_lt shut moved
        rw [List.length_append, List.length_singleton]
        omega

/-- **No deadlock.** In every subtest, every order of what tasks, time and peer do, and whichever
stages end abnormally, a task can move or waits for a moment that is still to come, until the
subtest has returned; a task that waits for a moment moves when it has come. Once the maximum
runtime has passed and the closer has closed the connection, neither the receiver nor a write waits
any more, only so many moves are left, and whatever is done first, the tasks on their own come to
their ends within one close grace. -/
theorem never_stuck (connection : Connection) (wire : Wire) (sink : RecordSink) (archive : Archive)
    (run : Run Goes (start config connection wire sink archive) tasks p) :
    (p.result? = none → (∃ task, p.moves task ≠ []) ∨
        ∃ task time, Timer p task time ∧ p.now < time ∧ p.moves task = []) ∧
      (∀ task time, Timer p task time → time ∈ p.alarms ∧
        ∀ later, time ≤ later → moves { p with now := later } task ≠ []) ∧
      (Shut p → ∀ done q, Run Alone p done q →
        (q.receiver.activity ≠ .finished → q.moves .receiver ≠ []) ∧
        (∀ flight begun, q.sender.activity = .writing flight begun → q.moves .sender ≠ []) ∧
        done.length + q.remaining ≤ p.remaining ∧
        (Completed q ∨ (∃ task, q.moves task ≠ []) ∨ InGrace q) ∧
        ∃ more r, Run Alone q more r ∧ Completed r ∧ r.now ≤ q.now + Sender.closeGrace) := by
  have wired := wired_of_run run
  refine ⟨fun running => ?_, fun task time timer => ⟨timer.mem_alarms, fun _ => timer.moves⟩,
    fun shut done q on => ?_⟩
  · by_cases moving : ∃ task, p.moves task ≠ []
    · exact .inl moving
    have stuck : ∀ task, p.moves task = [] := by simpa using moving
    by_cases calm : ∀ task time, ¬ Timer p task time
    · have returned := (wired.completed stuck calm).supervisor
      rw [running] at returned
      cases returned
    · simp only [not_forall, not_not] at calm
      obtain ⟨task, time, timer⟩ := calm
      exact .inr ⟨task, time, timer, timer.lt_of_stuck (stuck task), stuck task⟩
  · obtain ⟨wired, shut, fewer⟩ := wired.alone shut on
    obtain ⟨receiving, writing⟩ := wired.unwaiting shut
    exact ⟨receiving, writing, fewer, wired.goesOn shut, wired.completes shut⟩

/-- A ping run of at most 100 ms. -/
def boundedPing : Config where
  subtest := .ping
  instrument := { congestion := fun _ => none, tcpStats := fun _ => none }
  draws := fun _ => millis 20
  defaultRuntime := millis 50
  maxRuntime := millis 100

/-- A peer that never reads, never sends and never closes. -/
def silentPeer : Wire where
  rules := fun _ => { outcome := .stalled }

/-- The ping run with this peer when the closer has closed the connection; the receiver still
reads, and the sender still writes its first ping. -/
def cutOff : Pipeline :=
  machine.run 9 (start boundedPing {} silentPeer {} { uuid := "" })

/-- A ping run with a silent peer completes within the close grace after its longest runtime. -/
theorem never_stuck_cutOff : ∃ tasks,
    Run Goes (start boundedPing {} silentPeer {} { uuid := "" }) tasks cutOff ∧
      cutOff.receiver.activity ≠ .finished ∧ Shut cutOff ∧ cutOff.moves .receiver ≠ [] ∧
      ∃ more r, Run Alone cutOff more r ∧ Completed r ∧
        r.now ≤ millis 100 + Sender.closeGrace := by
  obtain ⟨tasks, run⟩ : ∃ tasks,
      Run Goes (start boundedPing {} silentPeer {} { uuid := "" }) tasks cutOff :=
    machine_follows .stay (fun moved => ⟨_, .move moved⟩) (fun later => ⟨[], .wait later⟩) 9
  have now : cutOff.now = millis 100 := by decide +kernel
  have shut : Shut cutOff := ⟨by decide +kernel, by decide +kernel, by decide +kernel⟩
  have reading : cutOff.receiver.activity ≠ .finished := by decide +kernel
  obtain ⟨-, -, alone⟩ := never_stuck {} silentPeer {} { uuid := "" } run
  obtain ⟨receiving, -, -, -, more, r, on, completed, soon⟩ := alone shut [] cutOff .stay
  rw [now] at soon
  exact ⟨tasks, run, reading, shut, receiving reading, more, r, on, completed, soon⟩

end Pipeline

end LinkGauge
