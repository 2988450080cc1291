import LinkGauge.Proofs.Measurer
import LinkGauge.Proofs.Neighbours
import LinkGauge.Proofs.Pipeline.Step

/-!
# The channels of a pipeline

In a pipeline every task moves as it likes, time passes, the connection and the other end of the
wire change at any moment, and any stage may end abnormally and let go of its channels
(`Pipeline.Goes`). Throughout, every channel has the writers that its stages still are, and a
reader that has gone leaves nobody waiting (`Pipeline.Wired`).
-/

namespace LinkGauge

open Link (Written Taken)

namespace Sender

/-- When the grace of a sender ends that waits for the peer's close to be noticed. -/
def graceEnd? (s : Sender) : Option Nanos :=
  match s.activity with
  | .grace _ ends => some ends
  | _ => none

private theorem graceEnd?_stop (s : Sender) (v : View) (result : Except SendError Unit) :
    (s.stop v result).1.graceEnd? = none := by
  obtain ⟨outcome, log, stopped⟩ := exists_stop s v result
  rw [stopped]
  rfl

private theorem graceEnd?_beginWrite (s : Sender) (v : View) (frame : Frame) :
    (s.beginWrite v frame).1.graceEnd? = none := by
  unfold beginWrite
  split
  · exact graceEnd?_stop s v _
  · split
    · exact graceEnd?_stop s v _
    · rfl

private theorem new_opened {config : Config} : (new config).result?.isNone = true ∧
    (new config).handsOn = true ∧ (new config).graceEnd? = none := by
  unfold new
  split <;> exact ⟨rfl, rfl, rfl⟩

private theorem Moved.graceEnd {config : Config} {s : Sender} {v : View} {next : Sender × View}
    (moved : Moved config s v next) {ends : Nanos} (grace : next.1.graceEnd? = some ends) :
    ends = v.now + closeGrace := by
  cases moved with
  | sendNext | sendClose | sendFiller | sendPing =>
      rw [graceEnd?_beginWrite] at grace
      cases grace
  | @land flight _ writing landed whole =>
      obtain ⟨frame, _, _⟩ := flight
      cases frame with
      | text | binary | ping => cases grace
      | close =>
          rw [Sender.written, graceEnd?_stop] at grace
          cases grace
  | fail => exact (Option.some.inj grace).symm
  | expire | interrupt | excuse | giveUp =>
      rw [graceEnd?_stop] at grace
      cases grace
  | echo =>
      rw [graceEnd?] at grace
      dsimp only at grace
      split at grace
      · next writing => split at writing <;> cases writing
      · cases grace
  | drain draining =>
      rw [graceEnd?, draining] at grace
      cases grace
  | finish => cases grace

end Sender

namespace Pipeline

/-- A stage ends abnormally: it lets go of the channels that it holds. The saver and the
supervisor are the subtest itself. -/
inductive Failed (p : Pipeline) : Pipeline → Prop where
  | measurer (running : p.measurer.activity.running = true) :
      Failed p { p with measurer.activity := .finished, samples := p.samples.hangUp }
  /-- Except in a ping run this stops the measurer, too. -/
  | receiver (running : p.receiver.activity.running = true) :
      Failed p { p with
        receiver.activity := .finished
        received := p.received.hangUp
        samplingContext := if p.isPing then p.samplingContext else p.samplingContext.cancel }
  | mux (ping : p.isPing = true) (running : p.mux.activity.running = true) :
      Failed p { p with
        mux := { p.mux with activity := .finished, samplesOpen := false, receivedOpen := false }
        samples := p.samples.stopReading
        received := p.received.stopReading
        released := if p.mux.samplesOpen then p.released.hangUp else p.released
        serverLog := p.serverLog.hangUp
        clientLog := p.clientLog.hangUp }
  /-- The supervisor is told of an error. -/
  | sender {error : SendError} (running : p.sender.result?.isNone = true) :
      Failed p { p with
        sender.activity := .finished (.error error)
        echo := if p.sender.handsOn then p.echo.hangUp else p.echo
        samples := if p.isPing then p.samples else p.samples.stopReading
        released := if p.isPing then p.released.stopReading else p.released }
  | echoDrain (ping : p.isPing = true) : Failed p { p with echo := p.echo.stopReading }
  | serverForwarder (running : p.serverForwarder.running = true) :
      Failed p { p with
        serverForwarder := .finished
        merged := p.merged.hangUp
        echo := if p.isPing then p.echo else p.echo.stopReading
        serverLog := if p.isPing then p.serverLog.stopReading else p.serverLog }
  | clientForwarder (running : p.clientForwarder.running = true) :
      Failed p { p with
        clientForwarder := .finished
        merged := p.merged.hangUp
        received := if p.isPing then p.received else p.received.stopReading
        clientLog := if p.isPing then p.clientLog.stopReading else p.clientLog }
  | mergeEnd (running : p.mergeEnded = false) :
      Failed p { p with mergeEnded := true, merged := p.merged.hangUp }
  /-- The connection stays as it is. -/
  | closer {reason : String} (running : p.closer.result?.isNone = true) :
      Failed p { p with
        closer := .finished (.error (.taskFailed reason))
        errors := p.errors.stopReading }

/-- What can happen to a pipeline, and which task has moved. -/
inductive Goes (p : Pipeline) : List Task → Pipeline → Prop where
  | move {task : Task} {q : Pipeline} (moved : q ∈ p.moves task) : Goes p [task] q
  | wait {time : Nanos} (later : p.now ≤ time) : Goes p [] { p with now := time }
  /-- The other end acts, or another holder of the connection does. -/
  | outside {connection : Connection} {wire : Wire} : Goes p [] { p with connection, wire }
  | fail {q : Pipeline} (failed : Failed p q) : Goes p [] q

/-- How many handles of the merged channel are left. -/
def mergers (p : Pipeline) : Nat :=
  p.serverForwarder.handles + (p.clientForwarder.handles + (!p.mergeEnded).toNat)

/-- The channels of a pipeline against its stages, and the deadlines that bound it. -/
structure Wired (config : Config) (p : Pipeline) : Prop where
  same : p.config = config
  samples : Link p.samples p.measurer.activity.running.toNat
    (if p.isPing then p.mux.samplesOpen else p.sender.result?.isNone)
  received : Link p.received p.receiver.activity.running.toNat
    (if p.isPing then p.mux.receivedOpen else p.clientForwarder.running)
  echo : Link p.echo p.sender.handsOn.toNat (p.isPing || p.serverForwarder.running)
  released : p.isPing = true → Link p.released p.mux.samplesOpen.toNat p.sender.result?.isNone
  serverLog : p.isPing = true →
    Link p.serverLog p.mux.activity.running.toNat p.serverForwarder.running
  clientLog : p.isPing = true →
    Link p.clientLog p.mux.activity.running.toNat p.clientForwarder.running
  merged : Link p.merged p.mergers (!p.saver.finished)
  errors : Link p.errors (Ending.reports p.supervisor).toNat p.closer.outcome?.isNone
  mux : p.mux.Sound
  deadline : p.context.deadline = config.maxRuntime
  samplingDeadline : p.samplingContext.deadline ≤ config.maxRuntime
  grace : ∀ ends, p.sender.graceEnd? = some ends → ends ≤ p.now + Sender.closeGrace

/-- A pipeline is wired when it begins. -/
theorem wired_start (config : Config) (connection : Connection) (wire : Wire) (sink : RecordSink)
    (archive : Archive) : Wired config (start config connection wire sink archive) where
  same := rfl
  samples := by
    change Link _ _ (if _ then true else (Sender.new config.sender).result?.isNone)
    rw [Sender.new_opened.1, ite_self]
    exact .start
  received := (ite_self true).symm ▸ .start
  echo := by
    change Link _ (Sender.new config.sender).handsOn.toNat (_ || true)
    rw [Sender.new_opened.2.1, Bool.or_true]
    exact .start
  released _ := by
    change Link _ _ (Sender.new config.sender).result?.isNone
    rw [Sender.new_opened.1]
    exact .start
  serverLog _ := .start
  clientLog _ := .start
  merged := ⟨rfl, nofun, Nat.one_pos⟩
  errors := .start
  mux := trivial
  deadline := rfl
  samplingDeadline := Nat.min_le_left _ _
  grace := by
    intro ends grace
    exact nomatch Sender.new_opened.2.2.symm.trans grace

namespace Wired

variable {config : Config} {p q : Pipeline}

private theorem byMeasurer (wired : Wired config p) {measurer : Measurer}
    {samples : Channel Measurement}
    {log : Log} (written : Written p.samples p.measurer.activity.running.toNat samples
      measurer.activity.running.toNat) : Wired config { p with measurer, samples, log } :=
  { wired with samples := wired.samples.written written }

private theorem byReceiver (wired : Wired config p) {receiver : Receiver} {connection : Connection}
    {wire : Wire} {received : Channel Received} {samplingContext : Context} {log : Log}
    (written : Written p.received p.receiver.activity.running.toNat received
      receiver.activity.running.toNat)
    (deadline : samplingContext.deadline = p.samplingContext.deadline) :
    Wired config { p with receiver, connection, wire, received, samplingContext, log } :=
  { wired with
    received := wired.received.written written
    samplingDeadline := deadline ▸ wired.samplingDeadline }

private theorem byMux (wired : Wired config p) (ping : p.isPing = true) {mux : Mux} {v : Mux.View}
    (linked : p.mux.Linked p.muxView mux v) :
    Wired config { p with
      mux
      samples := v.samples
      received := v.received
      released := v.toSender
      serverLog := v.serverLog
      clientLog := v.clientLog
      samplingContext := { p.samplingContext with cancelled := v.stopRequested } } := by
  have samples := wired.samples
  have received := wired.received
  rw [if_pos ping] at samples received
  exact
    { wired with
      samples := by
        rw [if_pos (by exact ping)]
        exact samples.taken linked.samples
      received := by
        rw [if_pos (by exact ping)]
        exact received.taken linked.received
      released := fun _ => (wired.released ping).written linked.toSender
      serverLog := fun _ => (wired.serverLog ping).written linked.serverLog
      clientLog := fun _ => (wired.clientLog ping).written linked.clientLog
      mux := linked.sound }

private theorem bySender (wired : Wired config p) {sender : Sender}
    {echo samples released : Channel Measurement} {wire : Wire} {log : Log}
    (written : Written p.echo p.sender.handsOn.toNat echo sender.handsOn.toNat)
    (plain : p.isPing = false →
      Taken p.samples p.sender.result?.isNone samples sender.result?.isNone)
    (ping : p.isPing = true →
      Taken p.released p.sender.result?.isNone released sender.result?.isNone ∧
        samples = p.samples)
    (grace : ∀ ends, sender.graceEnd? = some ends → ends ≤ p.now + Sender.closeGrace) :
    Wired config { p with sender, echo, samples, released, wire, log } := by
  have source := wired.samples
  refine { wired with
    samples := ?_
    echo := wired.echo.written written
    released := fun own => (wired.released own).taken (ping own).1
    grace }
  cases own : p.isPing with
  | true =>
      rw [if_pos own] at source
      rw [if_pos (by exact own), (ping own).2]
      exact source
  | false =>
      have other : ¬ p.isPing = true := Bool.eq_false_iff.mp own
      rw [if_neg other] at source
      rw [if_neg (by exact other)]
      exact source.taken (plain own)

private theorem byEchoDrain (wired : Wired config p) (ping : p.isPing = true)
    {echo : Channel Measurement}
    (taken : ∃ stays, Taken p.echo true echo stays) : Wired config { p with echo } := by
  have source := wired.echo
  rw [ping, Bool.true_or] at source
  obtain ⟨stays, taken⟩ := taken
  have kept := source.taken taken
  refine { wired with echo := ⟨kept.writers, fun nobody => ?_, kept.room⟩ }
  change (p.isPing || _) = false at nobody
  rw [ping] at nobody
  cases nobody

private theorem byServerForwarder (wired : Wired config p) {serverForwarder : Forwarder}
    {echo serverLog : Channel Measurement} {merged : Channel Record}
    (plain : p.isPing = false →
      Taken p.echo p.serverForwarder.running echo serverForwarder.running)
    (ping : p.isPing = true →
      Taken p.serverLog p.serverForwarder.running serverLog serverForwarder.running ∧
        echo = p.echo)
    (written : Written p.merged p.serverForwarder.handles merged serverForwarder.handles) :
    Wired config { p with serverForwarder, echo, serverLog, merged } := by
  have source := wired.echo
  refine { wired with
    echo := ?_
    serverLog := fun own => (wired.serverLog own).taken (ping own).1
    merged := wired.merged.written (written.among _) }
  change Link _ _ (p.isPing || serverForwarder.running)
  cases own : p.isPing with
  | true =>
      rw [own, Bool.true_or] at source
      rw [Bool.true_or, (ping own).2]
      exact source
  | false =>
      rw [own, Bool.false_or] at source
      rw [Bool.false_or]
      exact source.taken (plain own)

private theorem byClientForwarder (wired : Wired config p) {clientForwarder : Forwarder}
    {received : Channel Received} {clientLog : Channel Measurement} {merged : Channel Record}
    (plain : p.isPing = false →
      Taken p.received p.clientForwarder.running received clientForwarder.running)
    (ping : p.isPing = true →
      Taken p.clientLog p.clientForwarder.running clientLog clientForwarder.running ∧
        received = p.received)
    (written : Written p.merged p.clientForwarder.handles merged clientForwarder.handles) :
    Wired config { p with clientForwarder, received, clientLog, merged } := by
  have source := wired.received
  have merging : Link merged (p.serverForwarder.handles +
      (clientForwarder.handles + (!p.mergeEnded).toNat)) (!p.saver.finished) := by
    rw [Nat.add_comm]
    refine Link.written ?_ ((written.among _).among _)
    rw [Nat.add_comm]
    exact wired.merged
  refine { wired with
    received := ?_
    clientLog := fun own => (wired.clientLog own).taken (ping own).1
    merged := merging }
  cases own : p.isPing with
  | true =>
      rw [if_pos own] at source
      rw [if_pos (by exact own), (ping own).2]
      exact source
  | false =>
      have other : ¬ p.isPing = true := Bool.eq_false_iff.mp own
      rw [if_neg other] at source
      rw [if_neg (by exact other)]
      exact source.taken (plain own)

private theorem byMergeEnd (wired : Wired config p) (once : p.mergeEnded = false) :
    Wired config { p with mergeEnded := true, merged := p.merged.hangUp } := by
  have counted : p.mergers = p.serverForwarder.handles + (p.clientForwarder.handles + 0) + 1 := by
    rw [mergers, once]
    rfl
  exact { wired with merged := wired.merged.written (.hungUp counted) }

private theorem bySaver (wired : Wired config p) {saver : Saver} {merged : Channel Record}
    {sink : RecordSink} {archive : Archive} {log : Log}
    (taken : Taken p.merged (!p.saver.finished) merged (!saver.finished)) :
    Wired config { p with saver, merged, sink, archive, log } :=
  { wired with merged := wired.merged.taken taken }

private theorem bySupervisor (wired : Wired config p) {supervisor : Supervisor}
    {errors : Channel SubtestError} {archive : Archive}
    (written : Written p.errors (Ending.reports p.supervisor).toNat errors
      (Ending.reports supervisor).toNat) : Wired config { p with supervisor, errors, archive } :=
  { wired with errors := wired.errors.written written }

private theorem byCloser (wired : Wired config p) {closer : Closer} {connection : Connection}
    {errors : Channel SubtestError} {log : Log}
    (taken : Taken p.errors p.closer.outcome?.isNone errors closer.outcome?.isNone) :
    Wired config { p with closer, connection, errors, log } :=
  { wired with errors := wired.errors.taken taken }

/-- Every move of a task keeps the channels in order. -/
theorem move (wired : Wired config p) {task : Task} (moved : q ∈ p.moves task) :
    Wired config q := by
  cases task with
  | measurer =>
      obtain ⟨⟨measurer, v⟩, member, rfl⟩ := List.mem_map.mp moved
      exact wired.byMeasurer (Measurer.mem_moves_iff.mp member).written
  | receiver =>
      obtain ⟨⟨receiver, v⟩, member, rfl⟩ := List.mem_map.mp moved
      refine wired.byReceiver (Receiver.mem_moves_iff.mp member).written ?_
      split <;> rfl
  | mux =>
      obtain ⟨ping, mux, v, member, rfl⟩ := of_mem_muxMoves moved
      obtain ⟨_, move⟩ := Mux.mem_moves_iff.mp member
      exact wired.byMux ping (move.linked wired.mux)
  | sender =>
      obtain ⟨⟨sender, v⟩, member, rfl⟩ := List.mem_map.mp moved
      have move := Sender.mem_moves_iff.mp member
      have taken := move.taken
      have grace : ∀ ends, sender.graceEnd? = some ends → ends ≤ p.now + Sender.closeGrace :=
        fun ends grace => Nat.le_of_eq (move.graceEnd grace)
      dsimp only
      split
      · next ping =>
          have ping : p.isPing = true := ping
          simp only [ping, ↓reduceIte] at taken
          refine wired.bySender move.written (fun own => ?_) (fun _ => ⟨taken, rfl⟩) grace
          cases ping.symm.trans own
      · next plain =>
          have plain : ¬ p.isPing = true := plain
          simp only [plain] at taken
          exact wired.bySender move.written (fun _ => taken) (fun own => absurd own plain) grace
  | echoDrain =>
      obtain ⟨ping, _, _, taken, rfl⟩ := of_mem_echoDrainMoves moved
      exact wired.byEchoDrain ping ⟨_, .took taken⟩
  | serverForwarder =>
      obtain ⟨⟨forwarder, v⟩, member, rfl⟩ := List.mem_map.mp moved
      have move := Forwarder.mem_moves_iff.mp member
      have taken := move.taken
      dsimp only
      split
      · next ping =>
          have ping : p.isPing = true := ping
          simp only [ping, ↓reduceIte] at taken
          refine wired.byServerForwarder (fun own => ?_) (fun _ => ⟨taken, rfl⟩) move.written
          cases ping.symm.trans own
      · next plain =>
          have plain : ¬ p.isPing = true := plain
          simp only [plain] at taken
          exact wired.byServerForwarder (fun _ => taken) (fun own => absurd own plain) move.written
  | clientForwarder =>
      rw [moves, clientForwarderMoves] at moved
      split at moved
      · next ping =>
          obtain ⟨⟨forwarder, v⟩, member, rfl⟩ := List.mem_map.mp moved
          have move := Forwarder.mem_moves_iff.mp member
          refine wired.byClientForwarder (fun own => ?_) (fun _ => ⟨move.taken, rfl⟩) move.written
          cases ping.symm.trans own
      · next plain =>
          obtain ⟨⟨forwarder, v⟩, member, rfl⟩ := List.mem_map.mp moved
          have move := Forwarder.mem_moves_iff.mp member
          exact wired.byClientForwarder (fun _ => move.taken) (fun own => absurd own plain)
            move.written
  | mergeEnd =>
      obtain ⟨once, -, -, rfl⟩ := of_mem_mergeEndMoves moved
      exact wired.byMergeEnd once
  | saver =>
      obtain ⟨⟨saver, v⟩, member, rfl⟩ := List.mem_map.mp moved
      exact wired.bySaver (Saver.mem_moves_iff.mp member).taken
  | supervisor =>
      obtain ⟨⟨supervisor, v⟩, member, rfl⟩ := List.mem_map.mp moved
      exact wired.bySupervisor (Supervisor.mem_moves_iff.mp member).written
  | closer =>
      obtain ⟨⟨closer, v⟩, member, rfl⟩ := List.mem_map.mp moved
      obtain ⟨_, move⟩ := Closer.mem_moves_iff.mp member
      exact wired.byCloser move.taken

/-- A stage that ends abnormally keeps them in order, too. -/
theorem fail (wired : Wired config p) (failed : Failed p q) : Wired config q := by
  cases failed with
  | measurer running =>
      refine wired.byMeasurer ?_
      rw [running]
      exact .hungUp rfl
  | receiver running =>
      refine wired.byReceiver ?_ ?_
      · rw [running]
        exact .hungUp rfl
      · split <;> rfl
  | mux ping running =>
      refine wired.byMux (v := ⟨_, _, _, _, _, p.samplingContext.cancelled⟩) ping
        ⟨.left, .left, ?_, ?_, ?_, ⟨rfl, rfl⟩⟩
      · cases opened : p.mux.samplesOpen with
        | true => exact .hungUp rfl
        | false => exact .same
      · rw [running]
        exact .hungUp rfl
      · rw [running]
        exact .hungUp rfl
  | sender running =>
      refine wired.bySender ?_ (fun plain => ?_) (fun ping => ?_) nofun
      · cases opened : p.sender.handsOn with
        | true => exact .hungUp rfl
        | false => exact .same
      · rw [if_neg (Bool.eq_false_iff.mp plain)]
        exact .left
      · rw [if_pos ping, if_pos ping]
        exact ⟨.left, rfl⟩
  | echoDrain ping => exact wired.byEchoDrain ping ⟨_, .left⟩
  | serverForwarder running =>
      refine wired.byServerForwarder (fun plain => ?_) (fun ping => ?_) ?_
      · rw [if_neg (Bool.eq_false_iff.mp plain)]
        exact .left
      · rw [if_pos ping, if_pos ping]
        exact ⟨.left, rfl⟩
      · rw [Forwarder.handles_of_running running]
        exact .hungUp rfl
  | clientForwarder running =>
      refine wired.byClientForwarder (fun plain => ?_) (fun ping => ?_) ?_
      · rw [if_neg (Bool.eq_false_iff.mp plain)]
        exact .left
      · rw [if_pos ping, if_pos ping]
        exact ⟨.left, rfl⟩
      · rw [Forwarder.handles_of_running running]
        exact .hungUp rfl
  | mergeEnd running => exact wired.byMergeEnd running
  | closer running => exact wired.byCloser .left

/-- Whatever happens keeps the channels in order. -/
theorem step (wired : Wired config p) {tasks : List Task} (goes : Goes p tasks q) :
    Wired config q := by
  cases goes with
  | move moved => exact wired.move moved
  | wait later =>
      refine { wired with grace := fun ends grace => Nat.le_trans (wired.grace ends grace) ?_ }
      exact Nat.add_le_add_right later _
  | outside => exact { wired with }
  | fail failed => exact wired.fail failed

end Wired

/-- A pipeline stays wired on every run, whatever happens to it. -/
theorem wired_of_run {config : Config} {connection : Connection} {wire : Wire} {sink : RecordSink}
    {archive : Archive} {tasks : List Task} {p : Pipeline}
    (run : Run Goes (start config connection wire sink archive) tasks p) : Wired config p :=
  run.keeps (fun _ => Wired config) (wired_start config connection wire sink archive)
    fun wired goes => wired.step goes

end Pipeline

end LinkGauge
