import LinkGauge.Proofs.Channel
import LinkGauge.Proofs.Sender

/-!
# Progress of a sender

A sender that cannot move has finished, waits for a moment that has not come, or waits for a
neighbour: for room for what it hands on, or for its source (`Sender.resting`). Once the writers
of its source have left, every move brings it nearer to its end (`Sender.work_lt`).
-/

namespace LinkGauge

/-- How far a sender that writes the frame is from its end. -/
def Frame.distance : Frame → Nat
  | .close => 3
  | .binary _ | .ping _ => 5
  | .text _ => 8

private theorem Frame.two_lt_distance (frame : Frame) : 2 < frame.distance := by
  cases frame <;> simp only [distance, Nat.reduceLT]

namespace Sender

/-- How far a sender is from its end when nothing is left in its source. -/
def Activity.distance : Activity → Nat
  | .finished _ => 0
  | .draining _ => 1
  | .grace _ _ => 2
  | .choosing => 4
  | .pinging => 6
  | .echoing _ => 7
  | .writing flight _ => flight.frame.distance

def work (s : Sender) (v : View) : Nat := 5 * v.source.queue.length + s.activity.distance

variable {config : Config} {s : Sender} {v : View} {next : Sender × View}

private theorem work_stop (s : Sender) (v : View) (result : Except SendError Unit) :
    (s.stop v result).1.work (s.stop v result).2 = 5 * v.source.queue.length + 1 := by
  unfold stop
  split <;> rfl

private theorem work_beginWrite {frame : Frame} {bound : Nat}
    (enough : 5 * v.source.queue.length + frame.distance < bound) :
    (s.beginWrite v frame).1.work (s.beginWrite v frame).2 < bound := by
  have positive := frame.two_lt_distance
  have stopped : ∀ result, (s.stop v result).1.work (s.stop v result).2 < bound := by
    intro result
    rw [work_stop]
    omega
  unfold beginWrite
  split
  · exact stopped _
  · split
    · exact stopped _
    · simpa only [work, Activity.distance, Wire.startWrite_frame] using enough

/-- Once the source is closed, every move leaves a sender less to do. -/
theorem work_lt (closed : v.source.writers = 0) (moved : Moved config s v next) :
    next.1.work next.2 < s.work v := by
  cases moved with
  | sendNext choosing taken =>
      apply work_beginWrite
      have shorter := Channel.length_of_take? taken
      simp only [work, choosing, Activity.distance, Frame.distance, shorter]
      omega
  | sendClose choosing nothing ended =>
      apply work_beginWrite
      simp only [work, choosing, Activity.distance, Frame.distance]
      omega
  | sendFiller choosing nothing goesOn download =>
      have ended := Channel.ended_iff.mpr ⟨Channel.take?_eq_none_iff.mp nothing, closed⟩
      rw [ended] at goesOn
      cases goesOn
  | sendPing pinging =>
      apply work_beginWrite
      simp only [work, pinging, Activity.distance, Frame.distance]
      omega
  | @land flight begun writing landed whole =>
      obtain ⟨frame, ends, failure⟩ := flight
      cases frame with
      | text | binary | ping =>
          simp only [work, writing, Sender.written, Activity.distance, Frame.distance]
          omega
      | close =>
          simp only [Sender.written, work_stop]
          simp only [work, writing, Activity.distance, Frame.distance]
          omega
  | @fail flight _ _ writing landed broken =>
      have positive := flight.frame.two_lt_distance
      simp only [work, writing, Activity.distance]
      omega
  | @expire flight _ writing underWay late =>
      have positive := flight.frame.two_lt_distance
      rw [work_stop, work, writing, Activity.distance]
      omega
  | @interrupt flight _ writing closed =>
      have positive := flight.frame.two_lt_distance
      rw [work_stop, work, writing, Activity.distance]
      omega
  | excuse grace peerClosed =>
      rw [work_stop, work, grace]
      exact Nat.lt_succ_self _
  | giveUp grace peerOpen late =>
      rw [work_stop, work, grace]
      exact Nat.lt_succ_self _
  | echo echoing sent =>
      simp only [work, echoing]
      split <;> simp only [Activity.distance] <;> omega
  | drain draining taken =>
      have shorter := Channel.length_of_take? taken
      simp only [work, shorter]
      omega
  | finish draining nothing ended =>
      rw [work, work, draining]
      exact Nat.lt_succ_self _

private theorem not_moved_of_stuck (stuck : s.moves config v = []) (next : Sender × View) :
    ¬ Moved config s v next := by
  intro moved
  have member := mem_moves_iff.mpr moved
  rw [stuck] at member
  cases member

/-- A write that leaves a sender stuck has not taken too long, and its connection is open. -/
theorem early_of_writing (stuck : s.moves config v = []) {flight : Flight} {begun : Nanos}
    (writing : s.activity = .writing flight begun) :
    v.now < begun + config.ioTimeout ∧ v.connection.closed = false := by
  have still := not_moved_of_stuck stuck
  constructor
  · refine Nat.lt_of_not_le fun late => ?_
    cases landed : flight.ends.any (· ≤ v.now) with
    | false => exact still _ (.expire writing landed late)
    | true =>
        cases outcome : flight.failure with
        | none => exact still _ (.land writing landed outcome)
        | some reason => exact still _ (.fail writing landed outcome)
  · exact Bool.eq_false_iff.mpr fun closed => still _ (.interrupt writing closed)

/-- A sender that cannot move in its grace waits for the end of it. -/
theorem early_of_grace (stuck : s.moves config v = []) {reason : String} {ends : Nanos}
    (grace : s.activity = .grace reason ends) : v.now < ends := by
  have still := not_moved_of_stuck stuck
  refine Nat.lt_of_not_le fun late => ?_
  cases peer : v.connection.peerClosed with
  | true => exact still _ (.excuse grace peer)
  | false => exact still _ (.giveUp grace peer late)

/-- A sender that cannot move has finished, or waits for a moment, for room or for its
source. -/
theorem resting (stuck : s.moves config v = []) :
    s.result?.isSome = true ∨ (∃ time ∈ s.alarms config, v.now < time) ∨
      ((∃ m, s.activity = .echoing m) ∧ v.echo.ready = false) ∨
      (v.source.queue = [] ∧ v.source.writers ≠ 0) := by
  have still := not_moved_of_stuck stuck
  -- Whoever takes from the source and can do nothing about its end waits for it.
  have waiting : (∀ m source, v.source.take? ≠ some (m, source)) →
      (v.source.take? = none → v.source.ended ≠ true) →
        v.source.queue = [] ∧ v.source.writers ≠ 0 := by
    intro nothing goesOn
    have none : v.source.take? = none :=
      Option.eq_none_iff_forall_ne_some.mpr fun ⟨m, source⟩ => nothing m source
    have empty := Channel.take?_eq_none_iff.mp none
    exact ⟨empty, fun closed => goesOn none (Channel.ended_iff.mpr ⟨empty, closed⟩)⟩
  rcases activity : s.activity with _ | _ | ⟨flight, begun⟩ | ⟨reason, ends⟩ | m | result | result
  · refine .inr (.inr (.inr (waiting ?_ ?_)))
    · exact fun m source taken => still _ (.sendNext activity taken)
    · exact fun nothing ended => still _ (.sendClose activity nothing ended)
  · exact absurd (.sendPing activity) (still _)
  · refine .inr (.inl ⟨begun + config.ioTimeout, ?_, (early_of_writing stuck activity).1⟩)
    simp only [alarms, activity, List.mem_append, List.mem_singleton, or_true]
  · refine .inr (.inl ⟨ends, ?_, early_of_grace stuck activity⟩)
    simp only [alarms, activity, List.mem_singleton]
  · refine .inr (.inr (.inl ⟨⟨m, rfl⟩, ?_⟩))
    cases sent : v.echo.send? m with
    | some delivered => exact absurd (.echo activity sent) (still _)
    | none => exact Channel.ready_of_send?_eq_none sent
  · refine .inr (.inr (.inr (waiting ?_ ?_)))
    · exact fun m source taken => still _ (.drain activity taken)
    · exact fun nothing ended => still _ (.finish activity nothing ended)
  · exact .inl (by rw [result?, activity]; rfl)

end Sender

end LinkGauge
