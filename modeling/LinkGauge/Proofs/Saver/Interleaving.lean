import LinkGauge.Proofs.Saver.Merging
import LinkGauge.Rehearsal.Saver

/-!
# Merging two streams into the archive

A saver runs beside its two forwarders while producers send to its inputs and hang up, in any
order (`SaverWorld.Step`). Whatever the order, what it merges is an interleaving of the two
streams, all of it is recorded, and the sink is written to up to the first write that fails
(`SaverWorld.saves_interleaving`).
-/

namespace LinkGauge

open Record Merging

namespace Rehearsal.SaverWorld

/-- The input of the measurements of one origin. -/
def input (w : SaverWorld) : Origin → Channel Measurement
  | .server => w.server
  | .client => w.client

/-- The forwarder of the measurements of one origin. -/
def forwarder (w : SaverWorld) : Origin → Forwarder
  | .server => w.serverForwarder
  | .client => w.clientForwarder

/-- A saver at its start, whose inputs have room for the given numbers of measurements. -/
def opening (rooms : Origin → Nat) (sink : RecordSink) (archive : Archive) : SaverWorld :=
  { start sink archive with
    server := { capacity := rooms .server }
    client := { capacity := rooms .client } }

/-- What can happen around a saver: a producer sends to an input that has room, or hangs up;
a forwarder moves, the merged channel is ended, or the saver moves. -/
inductive Step (w : SaverWorld) : List Event → SaverWorld → Prop where
  | send {record : Record} (opened : (w.input record.origin).writers ≠ 0)
      (room : (w.input record.origin).queue.length < (w.input record.origin).capacity) :
      Step w [.sent record] (w.act (.send record))
  | close {origin : Origin} : Step w [] (w.act (.close origin))
  | forward {origin : Origin} {next : SaverWorld} (moved : next ∈ w.forwarderMoves origin) :
      Step w [] next
  | endMerge {next : SaverWorld} (moved : next ∈ w.mergeEndMoves) : Step w [] next
  | save {saver : Saver} {view : Saver.View} (moved : (saver, view) ∈ w.saver.moves w.view) :
      Step w (offered w.view) { w with saver, view }

/-- The merging in a world. -/
def merging (w : SaverWorld) : Merging where
  input := w.input
  forwarder := w.forwarder
  mergeEnded := w.mergeEnded
  merged := w.view.merged
  failure := w.saver.failure
  finished := w.saver.finished
  sink := w.view.sink
  recorded := w.view.archive.measurements

/-- The world with other parts on the side of one origin. -/
def put (w : SaverWorld) (origin : Origin) (f : Forwarder) (c : Channel Measurement)
    (merged : Channel Record) : SaverWorld :=
  match origin with
  | .server =>
    { w with serverForwarder := f, server := c, view := { w.view with merged } }
  | .client =>
    { w with clientForwarder := f, client := c, view := { w.view with merged } }

private theorem merging_put (w : SaverWorld) (origin : Origin) (f : Forwarder)
    (c : Channel Measurement) (merged : Channel Record) :
    (w.put origin f c merged).merging =
      { w.merging with
        input := Function.update w.input origin c
        forwarder := Function.update w.forwarder origin f
        merged } := by
  have inputs : (w.put origin f c merged).input = Function.update w.input origin c := by
    funext other
    cases origin <;> cases other <;> rfl
  have forwarders :
      (w.put origin f c merged).forwarder = Function.update w.forwarder origin f := by
    funext other
    cases origin <;> cases other <;> rfl
  rw [merging, inputs, forwarders]
  cases origin <;> rfl

private theorem forwarderMoves_eq (w : SaverWorld) (origin : Origin) :
    w.forwarderMoves origin =
      ((w.forwarder origin).moves (⟨origin, ·⟩)
        { source := w.input origin, merged := w.view.merged }).map
          fun (f, v) => w.put origin f v.source v.merged := by
  cases origin <;> rfl

private theorem act_send (w : SaverWorld) (r : Record) :
    w.act (.send r) =
      w.put r.origin (w.forwarder r.origin) (send (w.input r.origin) r.measurement)
        w.view.merged := by
  obtain ⟨origin, m⟩ := r
  cases origin <;> rfl

private theorem act_close (w : SaverWorld) (origin : Origin) :
    w.act (.close origin) =
      w.put origin (w.forwarder origin) (w.input origin).hangUp w.view.merged := by
  cases origin <;> rfl

private theorem mem_mergeEndMoves_iff {w next : SaverWorld} :
    next ∈ w.mergeEndMoves ↔
      w.mergeEnded = false ∧ (∀ origin, w.forwarder origin = .finished) ∧
        { w with mergeEnded := true, view := { w.view with merged := w.view.merged.hangUp } } =
          next := by
  have both : (∀ origin, w.forwarder origin = .finished) ↔
      w.serverForwarder = .finished ∧ w.clientForwarder = .finished :=
    ⟨fun finished => ⟨finished .server, finished .client⟩,
      fun finished origin => by cases origin <;> simp only [forwarder, finished]⟩
  rw [both, mergeEndMoves]
  split
  · next due =>
      simp only [Bool.and_eq_true, Bool.not_eq_true', decide_eq_true_eq] at due
      simp only [List.mem_singleton, due, true_and, eq_comm]
  · next undue =>
      simp only [Bool.and_eq_true, Bool.not_eq_true', decide_eq_true_eq, and_assoc] at undue
      simp only [List.not_mem_nil, false_iff]
      exact fun due => undue ⟨due.1, due.2.1⟩

private theorem send_of_room {c : Channel Measurement} (m : Measurement) (opened : c.writers ≠ 0)
    (reading : c.reading = true) (room : c.queue.length < c.capacity) :
    send c m = { c with queue := c.queue ++ [m] } := by
  rw [send, if_neg opened, Channel.send?_of_reading reading, if_pos room]

/-- What happens in a world, as long as its inputs are read, is a step of its merging. -/
private theorem merging_step {w next : SaverWorld} {events : List Event}
    (reading : ∀ origin, (w.input origin).reading = true) (step : w.Step events next) :
    w.merging.Step events next.merging := by
  cases step with
  | @send record opened room =>
      have given : w.merging.Step [.sent record] _ := .send opened
      rw [act_send, merging_put, send_of_room _ opened (reading _) room, Function.update_eq_self]
      exact given
  | @close origin =>
      have given := @Merging.Step.close w.merging origin
      rw [act_close, merging_put, Function.update_eq_self]
      exact given
  | @forward origin _ moved =>
      rw [forwarderMoves_eq] at moved
      obtain ⟨⟨f, after⟩, member, rfl⟩ := List.mem_map.mp moved
      have source : w.merging.input origin = (w.input origin).map id :=
        (Channel.map_id _).symm
      have given := Merging.Step.ofForwarder w.merging origin
        (v := ⟨w.input origin, w.view.merged⟩) id source rfl rfl member
      rw [merging_put, ← Channel.map_id after.source]
      exact given
  | endMerge moved =>
      obtain ⟨once, finished, rfl⟩ := mem_mergeEndMoves_iff.mp moved
      exact .endMerge (m := w.merging) once finished
  | save moved => exact Merging.Step.ofSaver (m := w.merging) rfl rfl rfl rfl rfl moved

/-- The books of a saver balance along every run from its start. -/
theorem accounts_of_run {rooms : Origin → Nat} {sink : RecordSink} {archive : Archive}
    {events : List Event} {w : SaverWorld} (run : Run Step (opening rooms sink archive) events w) :
    w.merging.Accounts sink archive.measurements (sentOf events) (mergedOf events) := by
  refine run.keeps (fun events w =>
    w.merging.Accounts sink archive.measurements (sentOf events) (mergedOf events)) ?_ ?_
  · exact
      { conserved := fun origin => by cases origin <;> rfl
        labelled := fun origin record member => by cases origin <;> cases member
        recorded := fun origin => (List.append_nil _).symm
        wrote := .all sink.accepts_nil
        inputsRead := fun origin => by cases origin <;> rfl
        mergedRead := rfl
        mergedRoom := Nat.one_pos
        mergedWriters := rfl
        exhausted := fun origin finished => by cases origin <;> cases finished
        allFinished := fun ended => nomatch ended
        drained := fun finished => nomatch finished }
  · intro events more w next books step
    rw [sentOf, mergedOf, List.filterMap_append, List.filterMap_append]
    exact books.step (merging_step books.inputsRead step)

/-- A bound on the moves of a forwarder and on those of its input's measurements. -/
def sideWork (f : Forwarder) (c : Channel Measurement) : Nat :=
  3 * c.queue.length + match f with
    | .waiting => 1
    | .holding _ => 3
    | .finished => 0

/-- A bound on the moves that are possible while nothing is sent. -/
def work (w : SaverWorld) : Nat :=
  sideWork w.serverForwarder w.server + sideWork w.clientForwarder w.client +
    w.view.merged.queue.length + (!w.mergeEnded).toNat + (!w.saver.finished).toNat

private theorem work_put (w : SaverWorld) (origin : Origin) (f : Forwarder)
    (c : Channel Measurement) (merged : Channel Record) :
    (w.put origin f c merged).work +
        (sideWork (w.forwarder origin) (w.input origin) + w.view.merged.queue.length) =
      w.work + (sideWork f c + merged.queue.length) := by
  cases origin <;> simp only [work, put, forwarder, input] <;> omega

private theorem sideWork_lt {f next : Forwarder} {v after : Forwarder.View Measurement}
    {label : Measurement → Record} (reading : v.merged.reading = true)
    (member : (next, after) ∈ f.moves label v) :
    sideWork next after.source + after.merged.queue.length <
      sideWork f v.source + v.merged.queue.length := by
  cases Forwarder.mem_moves_iff.mp member with
  | take taken =>
      simp only [sideWork, Channel.length_of_take? taken]
      omega
  | finish =>
      simp only [sideWork, Channel.hangUp]
      omega
  | hand sent =>
      obtain ⟨-, -, rfl⟩ := Channel.send?_eq_some reading sent
      simp only [sideWork, List.length_append, List.length_singleton]
      omega

private theorem mem_moves_iff {w next : SaverWorld} :
    next ∈ w.moves ↔ (∃ origin, next ∈ w.forwarderMoves origin) ∨ next ∈ w.mergeEndMoves ∨
      ∃ saver view, (saver, view) ∈ w.saver.moves w.view ∧ { w with saver, view } = next := by
  simp only [moves, List.mem_append, List.mem_map, Prod.exists]
  constructor
  · rintro (((server | client) | ending) | saving)
    · exact .inl ⟨.server, server⟩
    · exact .inl ⟨.client, client⟩
    · exact .inr (.inl ending)
    · exact .inr (.inr saving)
  · rintro (⟨origin, forwarding⟩ | ending | saving)
    · cases origin
      · exact .inl (.inl (.inl forwarding))
      · exact .inl (.inl (.inr forwarding))
    · exact .inl (.inr ending)
    · exact .inr saving

/-- Every move leaves less to do. -/
theorem work_lt {w next : SaverWorld} (reading : w.view.merged.reading = true)
    (moved : next ∈ w.moves) : next.work < w.work := by
  rcases mem_moves_iff.mp moved with ⟨origin, forwarding⟩ | ending | ⟨saver, view, saving, rfl⟩
  · rw [forwarderMoves_eq] at forwarding
    obtain ⟨⟨f, after⟩, member, rfl⟩ := List.mem_map.mp forwarding
    have less := sideWork_lt (v := ⟨w.input origin, w.view.merged⟩) reading member
    have total := w.work_put origin f after.source after.merged
    dsimp only at less ⊢
    omega
  · obtain ⟨once, -, rfl⟩ := mem_mergeEndMoves_iff.mp ending
    simp only [work, once, Channel.hangUp, Bool.not_true, Bool.not_false, Bool.toNat_true,
      Bool.toNat_false]
    omega
  · cases Saver.mem_moves_iff.mp saving with
    | save unfinished taken =>
        simp only [work, Saver.save_merged, Saver.save_finished, Channel.length_of_take? taken]
        omega
    | finish unfinished nothing ended =>
        simp only [work, unfinished, Bool.not_true, Bool.not_false, Bool.toNat_true,
          Bool.toNat_false]
        omega

private theorem step_of_move {w next : SaverWorld} (moved : next ∈ w.moves) :
    ∃ events, w.Step events next := by
  rcases mem_moves_iff.mp moved with ⟨origin, forwarding⟩ | ending | ⟨saver, view, saving, rfl⟩
  · exact ⟨[], .forward forwarding⟩
  · exact ⟨[], .endMerge ending⟩
  · exact ⟨_, .save saving⟩

private theorem perform_run {first w : SaverWorld} {before events : List Event}
    (run : Run Step first before w) (step : SaverStep) (acted : w.Step events (w.act step)) :
    ∃ all, Run Step first all (w.perform step) :=
  (run.next acted).settle machine (fun _ move => step_of_move (List.mem_of_mem_head? move)) _

private theorem mem_moves_of_forwarder {w : SaverWorld} {origin : Origin} {f : Forwarder}
    {after : Forwarder.View Measurement}
    (moved : Forwarder.Moved (⟨origin, ·⟩) ⟨w.input origin, w.view.merged⟩ (w.forwarder origin) f
      after) :
    w.put origin f after.source after.merged ∈ w.moves := by
  refine mem_moves_iff.mpr (.inl ⟨origin, ?_⟩)
  rw [forwarderMoves_eq]
  exact List.mem_map.mpr ⟨(f, after), Forwarder.mem_moves_iff.mpr moved, rfl⟩

private theorem mem_moves_of_saver {w : SaverWorld} {saver : Saver} {view : Saver.View}
    (moved : w.saver.Moved w.view saver view) : { w with saver, view } ∈ w.moves :=
  mem_moves_iff.mpr (.inr (.inr ⟨saver, view, Saver.mem_moves_iff.mpr moved, rfl⟩))

/-- Once nobody sends any more, a saver that has not finished is not stuck. -/
theorem exists_move {sink : RecordSink} {before : Origin → List Measurement}
    {sent merged : List Record} {w : SaverWorld}
    (books : w.merging.Accounts sink before sent merged)
    (closed : ∀ origin, (w.input origin).writers = 0) (unfinished : w.saver.finished = false) :
    ∃ next, next ∈ w.moves := by
  cases taken : w.view.merged.take? with
  | some oldest => exact ⟨_, mem_moves_of_saver (.save unfinished taken)⟩
  | none =>
      have empty := Channel.take?_eq_none_iff.mp taken
      by_cases finished : ∀ origin, w.forwarder origin = .finished
      · cases once : w.mergeEnded with
        | false =>
            exact ⟨_, mem_moves_iff.mpr (.inr (.inl
              (mem_mergeEndMoves_iff.mpr ⟨once, finished, rfl⟩)))⟩
        | true =>
            have counted : w.view.merged.writers = _ := books.mergedWriters
            have ended : w.view.merged.ended = true := by
              rw [Channel.ended_iff, counted]
              simp only [merging, once, finished, Forwarder.handles, empty, ↓reduceIte, and_self]
            exact ⟨_, mem_moves_of_saver (.finish unfinished taken ended)⟩
      · obtain ⟨origin, working⟩ := not_forall.mp finished
        have step : ∃ f after, Forwarder.Moved (⟨origin, ·⟩)
            ⟨w.input origin, w.view.merged⟩ (w.forwarder origin) f after := by
          cases state : w.forwarder origin with
          | finished => exact absurd state working
          | holding record =>
              have room : w.view.merged.queue.length < w.view.merged.capacity := by
                rw [empty]
                exact books.mergedRoom
              have accepted : w.view.merged.send? record = _ :=
                (Channel.send?_of_reading books.mergedRead record).trans (if_pos room)
              exact ⟨_, _, .hand accepted⟩
          | waiting =>
              cases next : (w.input origin).take? with
              | some value => exact ⟨_, _, .take next⟩
              | none =>
                  exact ⟨_, _, .finish next (Channel.ended_iff.mpr
                    ⟨Channel.take?_eq_none_iff.mp next, closed origin⟩)⟩
        obtain ⟨f, after, moved⟩ := step
        exact ⟨_, mem_moves_of_forwarder moved⟩

/-- **Merging two streams.** At every moment of every run, what has been merged has been
recorded under its origin, without the identity of the connection when it is the server's, and
has been written in the order of merging up to the first write that failed. Once nobody sends
any more the saver is never stuck and every move leaves less to do. When it returns, both inputs
are at their ends, what was merged is an interleaving of the two streams in their own orders,
and the result is the error of the first write that failed, if there is one. -/
theorem saves_interleaving (rooms : Origin → Nat) (sink : RecordSink) (archive : Archive)
    {events : List Event} {w : SaverWorld}
    (run : Run Step (opening rooms sink archive) events w) :
    w.view.archive.server = archive.server ++
        (measurementsOf .server (mergedOf events)).map ({ · with identity := none }) ∧
      w.view.archive.client = archive.client ++ measurementsOf .client (mergedOf events) ∧
      sink.Wrote ((mergedOf events).map Saver.stored) w.saver.failure w.view.sink ∧
      ((∀ origin, (w.input origin).writers = 0) → w.saver.result? = none →
        ∃ next, next ∈ w.moves) ∧
      (∀ next ∈ w.moves, next.work < w.work) ∧
      ∀ result, w.saver.result? = some result →
        (∀ origin, (w.input origin).ended = true ∧
          measurementsOf origin (mergedOf events) = measurementsOf origin (sentOf events)) ∧
        result = match w.saver.failure with
          | none => .ok ()
          | some error => .error error := by
  have books := accounts_of_run run
  have server := books.recorded .server
  have client := books.recorded .client
  rw [Saver.measurementsOf_server_stored] at server
  rw [Saver.measurementsOf_client_stored] at client
  refine ⟨server, client, books.wrote, ?_, fun next => work_lt books.mergedRead, ?_⟩
  · intro closed running
    exact exists_move books closed (Saver.result?_eq_none_iff.mp running)
  · intro result returned
    obtain ⟨finished, failed⟩ := Saver.result?_eq_some_iff.mp returned
    refine ⟨fun origin => ?_, failed⟩
    obtain ⟨ended, nothing⟩ := books.settled finished origin
    rw [books.conserved origin, nothing, List.append_nil]
    exact ⟨ended, rfl⟩

/-- A sink that refuses every write after the first. -/
def onceWritable : RecordSink where
  refusal? tried _ := if tried = [] then none else some (.encoding "full")

/-- A saver that is given a measurement of either side, each with the identity of the
connection, while only one of them can be written. -/
def halfWritten : SaverWorld :=
  ((((opening (fun _ => 1) onceWritable { uuid := "" }).perform
    (.send ⟨.server, { identity := some {} }⟩)).perform
    (.send ⟨.client, { identity := some {} }⟩)).perform (.close .server)).perform (.close .client)

/-- The first record is archived without the identity, the second as it was, and the failure of
its write is the result. -/
theorem saves_interleaving_halfWritten : ∃ events,
    Run Step (opening (fun _ => 1) onceWritable { uuid := "" }) events halfWritten ∧
      halfWritten.saver.result? = some (.error (.encoding "full")) ∧
      (measurementsOf .server (sentOf events)).map ({ · with identity := none }) = [{}] ∧
      measurementsOf .client (sentOf events) = [{ identity := some {} }] := by
  have opened : Run Step (opening (fun _ => 1) onceWritable { uuid := "" }) [] _ := .stay
  obtain ⟨_, one⟩ := perform_run opened (.send ⟨.server, { identity := some {} }⟩)
    (.send (by decide) (by decide))
  obtain ⟨_, both⟩ := perform_run one (.send ⟨.client, { identity := some {} }⟩)
    (.send (by decide +kernel) (by decide +kernel))
  obtain ⟨_, closed⟩ := perform_run both (.close .server) .close
  obtain ⟨events, run⟩ := perform_run closed (.close .client) .close
  have returned : halfWritten.saver.result? = some (.error (.encoding "full")) := by rfl
  obtain ⟨server, client, -, -, -, complete⟩ := saves_interleaving _ _ _ run
  obtain ⟨consumed, -⟩ := complete _ returned
  refine ⟨events, run, returned, ?_, ?_⟩
  · rw [← (consumed .server).2]
    exact server.symm
  · rw [← (consumed .client).2]
    exact client.symm

end Rehearsal.SaverWorld

end LinkGauge
