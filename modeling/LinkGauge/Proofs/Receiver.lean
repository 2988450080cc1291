import LinkGauge.Stage.Receiver

/-!
# The moves of a receiver

`Receiver.Moved` says what a receiver can do in each of its activities. Seen from its output a
move hands on the measurement in its hands, leaves the output as it is, or ends it
(`Receiver.Emission`); nothing is sent on the wire.
-/

namespace LinkGauge

namespace Receiver

/-- What a receiver can do. -/
inductive Moved (config : Config) (r : Receiver) (v : View) : Receiver × View → Prop where
  | take {arrival : Arrival} {wire : Wire} (reading : r.activity = .reading)
      (there : v.wire.read? v.now = some (arrival, wire)) :
      Moved config r v (r.take config { v with wire } arrival)
  | expire (reading : r.activity = .reading) (nothing : v.wire.read? v.now = none)
      (late : v.context.deadline ≤ v.now) : Moved config r v (r.stop v)
  | interrupt (reading : r.activity = .reading)
      (halted : (v.context.cancelled || v.connection.closed) = true) : Moved config r v (r.stop v)
  | emit {received : Received} {output : Channel Received}
      (emitting : r.activity = .emitting received)
      (sent : v.output.send? received = some (.accepted, output)) :
      Moved config r v ({ r with activity := .reading }, { v with output })
  | lose {received : Received} {output : Channel Received}
      (emitting : r.activity = .emitting received)
      (gone : v.output.send? received = some (.gone, output)) : Moved config r v (r.stop v)
  | abandon {received : Received} (emitting : r.activity = .emitting received)
      (done : v.context.isDone v.now = true) : Moved config r v (r.stop v)

variable {config : Config} {r : Receiver} {v : View} {next : Receiver × View}

/-- A move of the receiver is one that `Moved` describes. -/
theorem moved_of_mem_moves (member : next ∈ r.moves config v) : Moved config r v next := by
  unfold moves at member
  split at member
  · next reading =>
      rcases List.mem_append.mp member with going | interrupted
      · split at going
        · next there =>
            rw [List.mem_singleton.mp going]
            exact .take reading there
        · next nothing =>
            split at going
            · next late =>
                rw [List.mem_singleton.mp going]
                exact .expire reading nothing late
            · cases going
      · split at interrupted
        · next halted =>
            rw [List.mem_singleton.mp interrupted]
            exact .interrupt reading halted
        · cases interrupted
  · next emitting =>
      rcases List.mem_append.mp member with going | abandoned
      · split at going
        · next sent =>
            rw [List.mem_singleton.mp going]
            exact .emit emitting sent
        · next gone =>
            rw [List.mem_singleton.mp going]
            exact .lose emitting gone
        · cases going
      · split at abandoned
        · next done =>
            rw [List.mem_singleton.mp abandoned]
            exact .abandon emitting done
        · cases abandoned
  · cases member

/-- What `Moved` describes is a move of the receiver. -/
theorem mem_moves_of_moved (moved : Moved config r v next) : next ∈ r.moves config v := by
  cases moved with
  | take reading there =>
      simp only [moves, reading, there, List.mem_append, List.mem_singleton, true_or]
  | expire reading nothing late =>
      simp only [moves, reading, nothing, late, ↓reduceIte, List.mem_append, List.mem_singleton,
        true_or]
  | interrupt reading halted =>
      simp only [moves, reading, halted, ↓reduceIte, List.mem_append, List.mem_singleton, or_true]
  | emit emitting sent =>
      simp only [moves, emitting, sent, List.mem_append, List.mem_singleton, true_or]
  | lose emitting gone =>
      simp only [moves, emitting, gone, List.mem_append, List.mem_singleton, true_or]
  | abandon emitting done =>
      simp only [moves, emitting, done, ↓reduceIte, List.mem_append, List.mem_singleton, or_true]

/-- The moves of a receiver are those that `Moved` describes. -/
theorem mem_moves_iff : next ∈ r.moves config v ↔ Moved config r v next :=
  ⟨moved_of_mem_moves, mem_moves_of_moved⟩

/-- What a receiver has handed on between two of its states. -/
def emitted (r next : Receiver) : List Received :=
  match r.activity, next.activity with
  | .emitting received, .reading => [received]
  | _, _ => []

/-- A receiver that does not change has handed nothing on. -/
theorem emitted_self (r : Receiver) : emitted r r = [] := by
  unfold emitted
  split
  · next emitting reading =>
      rw [emitting] at reading
      cases reading
  · rfl

/-- What a move does to the output. -/
inductive Emission (r : Receiver) (v : View) (next : Receiver × View) : Prop where
  | quiet (nothing : emitted r next.1 = []) (output : next.2.output = v.output)
      (goesOn : next.1.activity ≠ .finished)
  | handed {received : Received} (one : emitted r next.1 = [received])
      (sent : v.output.send? received = some (.accepted, next.2.output))
      (goesOn : next.1.activity ≠ .finished)
  | stopped (nothing : emitted r next.1 = []) (output : next.2.output = v.output.hangUp)
      (ended : next.1.activity = .finished)

/-- A receiver that reads has nothing to hand on. -/
theorem emitted_of_reading {r : Receiver} (reading : r.activity = .reading) (next : Receiver) :
    emitted r next = [] := by
  rw [emitted, reading]

/-- Stopping hands nothing on. -/
theorem emitted_stop (r : Receiver) (v : View) : emitted r (r.stop v).1 = [] := by
  rw [emitted, stop]
  split <;> first | rfl | contradiction

private theorem emission_stop (r : Receiver) (v : View) : Emission r v (r.stop v) :=
  .stopped (emitted_stop r v) rfl rfl

/-- Taking what has arrived does not touch the wire. -/
theorem take_wire (config : Config) (r : Receiver) (v : View) (arrival : Arrival) :
    (r.take config v arrival).2.wire = v.wire := by
  unfold take
  dsimp only
  split <;> rfl

/-- Only a receiver that has not finished moves. -/
theorem Moved.running (moved : Moved config r v next) : r.activity ≠ .finished := by
  cases moved <;> simp only [*, ne_eq, reduceCtorEq, not_false_eq_true]

/-- Nothing is sent. -/
theorem Moved.wire_sent (moved : Moved config r v next) : next.2.wire.sent = v.wire.sent := by
  cases moved with
  | take reading there =>
      rw [take_wire]
      unfold Wire.read? at there
      split at there
      · split at there
        · cases there
          rfl
        · cases there
      · cases there
  | expire | interrupt | emit | lose | abandon => rfl

/-- The connection is not closed, nor is its socket touched. -/
theorem Moved.connection (moved : Moved config r v next) :
    next.2.connection.closed = v.connection.closed ∧
      next.2.connection.closeCalls = v.connection.closeCalls ∧
      next.2.connection.socket = v.connection.socket := by
  cases moved with
  | take reading there =>
      unfold Receiver.take
      dsimp only
      split <;> exact ⟨rfl, rfl, rfl⟩
  | expire | interrupt | emit | lose | abandon => exact ⟨rfl, rfl, rfl⟩

/-- The record of the peer's close stays. -/
theorem Moved.record (moved : Moved config r v next)
    (recorded : v.connection.peerClosed = true) : next.2.connection.peerClosed = true := by
  cases moved with
  | take reading there =>
      unfold Receiver.take
      dsimp only
      split
      · exact recorded
      · exact recorded
      · exact recorded
      · rfl
  | expire | interrupt | emit | lose | abandon => exact recorded

/-- What a move hands on stands in the output. -/
theorem Moved.emission (moved : Moved config r v next) : Emission r v next := by
  cases moved with
  | take reading there =>
      have nothing := emitted_of_reading reading
      have running : r.activity ≠ .finished := by
        rw [reading]
        exact nofun
      unfold Receiver.take
      dsimp only
      split
      · exact .quiet (nothing _) rfl nofun
      · exact .quiet (nothing _) rfl running
      · exact .stopped (nothing _) rfl rfl
      · exact .stopped (nothing _) rfl rfl
  | expire | interrupt | lose | abandon => exact emission_stop r v
  | @emit received _ emitting sent =>
      have one : emitted r { r with activity := .reading } = [received] := by
        rw [emitted, emitting]
      exact .handed one sent nofun

end Receiver

end LinkGauge
