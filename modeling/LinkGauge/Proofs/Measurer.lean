import LinkGauge.Proofs.Channel
import LinkGauge.Proofs.Run
import LinkGauge.Stage.Measurer

/-!
# The moves of a measurer

`Measurer.Moved` says what a measurer can do in each of its activities. A measurer that cannot
move has finished, waits for its next tick, or waits for room for a sample; in the last two cases
its context is not done (`Measurer.resting`).
-/

namespace LinkGauge.Measurer

/-- What a measurer can do. -/
inductive Moved (config : Config) (m : Measurer) (v : View) : Measurer × View → Prop where
  | begin (starting : m.activity = .starting) : Moved config m v (m.begin config v)
  | rest (ticking : m.activity = .ticking) (goesOn : v.context.isDone v.now = false) :
      Moved config m v
        ({ m with
            activity := .waiting (v.now + config.sampling.bounded (config.draws m.drawn))
            drawn := m.drawn + 1 }, v)
  | sample {ends : Nanos} (waiting : m.activity = .waiting ends)
      (goesOn : v.context.isDone v.now = false) (due : ends ≤ v.now) :
      Moved config m v
        ({ m with
            activity := .emitting (m.sample config v.now)
            readings := .tcpStats :: .congestion :: m.readings }, v)
  | hand {sample : Measurement} {output : Channel Measurement}
      (emitting : m.activity = .emitting sample)
      (sent : v.output.send? sample = some (.accepted, output)) :
      Moved config m v ({ m with activity := .ticking }, { v with output })
  | lose {sample : Measurement} {output : Channel Measurement}
      (emitting : m.activity = .emitting sample)
      (gone : v.output.send? sample = some (.gone, output)) : Moved config m v (m.stop v)
  | stop (started : m.activity ≠ .starting) (running : m.activity ≠ .finished)
      (done : v.context.isDone v.now = true) : Moved config m v (m.stop v)

variable {config : Config} {m : Measurer} {v : View} {next : Measurer × View}

private theorem moved_of_mem_moves (member : next ∈ m.moves config v) : Moved config m v next := by
  unfold moves at member
  split at member
  · next starting =>
      rw [List.mem_singleton.mp member]
      exact .begin starting
  · next ticking =>
      split at member
      · next done =>
          rw [List.mem_singleton.mp member]
          exact .stop (by rw [ticking]; exact nofun) (by rw [ticking]; exact nofun) done
      · next goesOn =>
          rw [List.mem_singleton.mp member]
          exact .rest ticking (Bool.eq_false_iff.mpr goesOn)
  · next waiting =>
      split at member
      · next done =>
          rw [List.mem_singleton.mp member]
          exact .stop (by rw [waiting]; exact nofun) (by rw [waiting]; exact nofun) done
      · next goesOn =>
          split at member
          · next due =>
              rw [List.mem_singleton.mp member]
              exact .sample waiting (Bool.eq_false_iff.mpr goesOn) due
          · cases member
  · next emitting =>
      rcases List.mem_append.mp member with handing | stopping
      · split at handing
        · next sent =>
            rw [List.mem_singleton.mp handing]
            exact .hand emitting sent
        · next gone =>
            rw [List.mem_singleton.mp handing]
            exact .lose emitting gone
        · cases handing
      · split at stopping
        · next done =>
            rw [List.mem_singleton.mp stopping]
            exact .stop (by rw [emitting]; exact nofun) (by rw [emitting]; exact nofun) done
        · cases stopping
  · cases member

private theorem mem_moves_of_moved (moved : Moved config m v next) : next ∈ m.moves config v := by
  cases moved with
  | begin starting => simp only [moves, starting, List.mem_singleton]
  | rest ticking goesOn =>
      simp only [moves, ticking, goesOn, Bool.false_eq_true, ↓reduceIte, List.mem_singleton]
  | sample waiting goesOn due =>
      simp only [moves, waiting, goesOn, due, Bool.false_eq_true, ↓reduceIte, List.mem_singleton]
  | hand emitting sent =>
      simp only [moves, emitting, sent, List.mem_append, List.mem_singleton, true_or]
  | lose emitting gone =>
      simp only [moves, emitting, gone, List.mem_append, List.mem_singleton, true_or]
  | stop started running done =>
      cases activity : m.activity with
      | starting => exact absurd activity started
      | finished => exact absurd activity running
      | ticking | waiting =>
          simp only [moves, activity, done, ↓reduceIte, List.mem_singleton]
      | emitting =>
          simp only [moves, activity, done, ↓reduceIte, List.mem_append, List.mem_singleton,
            or_true]

/-- The moves of a measurer are those that `Moved` describes. -/
theorem mem_moves_iff : next ∈ m.moves config v ↔ Moved config m v next :=
  ⟨moved_of_mem_moves, mem_moves_of_moved⟩

/-- Whether a measurer goes on. -/
def Activity.running : Activity → Bool
  | .finished => false
  | _ => true

private theorem Moved.running (moved : Moved config m v next) : m.activity.running = true := by
  cases moved with
  | begin active | rest active | sample active | hand active | lose active =>
      rw [active]
      rfl
  | stop started running =>
      unfold Activity.running
      split
      · contradiction
      · rfl

/-- A measurer that begins says so in the log, and goes on or stops. -/
theorem begin_eq (config : Config) (m : Measurer) (v : View) : ∃ log,
    m.begin config v = ({ m with activity := .ticking, readings := .enable :: m.readings },
        { v with log }) ∨
      m.begin config v = Measurer.stop { m with readings := .enable :: m.readings }
        { v with log } := by
  unfold begin
  split <;> (dsimp only; split)
  · exact ⟨_, .inl rfl⟩
  · exact ⟨_, .inr rfl⟩
  · exact ⟨_, .inl rfl⟩
  · exact ⟨_, .inr rfl⟩

/-- A measurer writes to its output, or hangs up when it has finished. -/
theorem Moved.written (moved : Moved config m v next) :
    Link.Written v.output m.activity.running.toNat next.2.output
      next.1.activity.running.toNat := by
  rw [moved.running]
  have stopped (other : Measurer) (log : Log) : Link.Written v.output 1
      (other.stop { v with log }).2.output (other.stop { v with log }).1.activity.running.toNat :=
    .hungUp rfl
  cases moved with
  | begin starting =>
      obtain ⟨log, goesOn | stops⟩ := m.begin_eq config v
      · rw [goesOn]
        exact .same
      · rw [stops]
        exact stopped _ log
  | rest | sample => exact .same
  | hand emitting sent => exact .sent Nat.one_ne_zero sent
  | lose | stop => exact stopped m v.log

/-- What a measurer has handed on between two of its states. -/
def handed (m next : Measurer) : List Measurement :=
  match m.activity, next.activity with
  | .emitting sample, .ticking => [sample]
  | _, _ => []

private theorem handed_stop (m other : Measurer) (v : View) : handed m (other.stop v).1 = [] := by
  rw [handed, stop]
  split <;> first | rfl | contradiction

/-- What a measurer hands on stands behind what is in its output. -/
theorem Moved.output (moved : Moved config m v next) (reading : v.output.reading = true) :
    next.2.output.queue = v.output.queue ++ handed m next.1 ∧ next.2.output.reading = true := by
  cases moved with
  | begin starting =>
      obtain ⟨log, goesOn | stops⟩ := m.begin_eq config v
      · rw [goesOn, handed, starting]
        exact ⟨(List.append_nil _).symm, reading⟩
      · rw [stops, handed_stop]
        exact ⟨(List.append_nil _).symm, reading⟩
  | rest active | sample active =>
      rw [handed, active]
      exact ⟨(List.append_nil _).symm, reading⟩
  | hand emitting sent =>
      rw [handed, emitting, Channel.eq_of_send?_accepted sent]
      exact ⟨rfl, reading⟩
  | lose | stop =>
      rw [handed_stop]
      exact ⟨(List.append_nil _).symm, reading⟩

/-- A measurer that cannot move has finished, or waits for its next tick or for its consumer
while its context is not done. -/
theorem resting (stuck : m.moves config v = []) :
    m.activity = .finished ∨
      (v.context.isDone v.now = false ∧
        ((∃ ends, m.activity = .waiting ends ∧ v.now < ends) ∨
          ∃ sample, m.activity = .emitting sample ∧ v.output.ready = false)) := by
  have still : ∀ next, ¬ Moved config m v next := by
    intro next moved
    have member := mem_moves_of_moved moved
    rw [stuck] at member
    cases member
  have goesOn (started : m.activity ≠ .starting) (running : m.activity ≠ .finished) :
      v.context.isDone v.now = false :=
    Bool.eq_false_iff.mpr fun done => still _ (.stop started running done)
  cases activity : m.activity with
  | finished => exact .inl rfl
  | starting => exact absurd (.begin activity) (still _)
  | ticking =>
      rw [activity] at goesOn
      exact absurd (.rest activity (goesOn nofun nofun)) (still _)
  | waiting ends =>
      rw [activity] at goesOn
      have early : ¬ ends ≤ v.now := fun due => still _ (.sample activity (goesOn nofun nofun) due)
      exact .inr ⟨goesOn nofun nofun, .inl ⟨ends, rfl, Nat.lt_of_not_le early⟩⟩
  | emitting sample =>
      rw [activity] at goesOn
      refine .inr ⟨goesOn nofun nofun, .inr ⟨sample, rfl, ?_⟩⟩
      cases sent : v.output.send? sample with
      | none => exact Channel.ready_of_send?_eq_none sent
      | some answer =>
          obtain ⟨delivery, output⟩ := answer
          cases delivery with
          | accepted => exact absurd (.hand activity sent) (still _)
          | gone => exact absurd (.lose activity sent) (still _)

end LinkGauge.Measurer

namespace LinkGauge

/-!
## What a measurer shows

A measurer with valid intervals shows when it begins, each tick with its sample, and what it hands
on. Seen by that, its moves fall into five kinds (`Measurer.Acted`). Once its context is done, it
cannot wait, and less is left to do after every move (`Measurer.Acted.work_lt`).
-/

/-- No wait is shorter than the least one. -/
theorem Sampling.least_le_bounded (s : Sampling) (drawn : Nanos) : s.least ≤ s.bounded drawn :=
  Nat.le_max_left _ _

namespace Measurer

/-- What happens at a measurer. -/
inductive Event where
  /-- Sampling begins at a moment. -/
  | began (moment : Nanos)
  /-- A sample is taken at a moment. -/
  | ticked (moment : Nanos) (sample : Measurement)
  | handed (sample : Measurement)
  /-- The consumer takes what was handed on. -/
  | taken (sample : Measurement)

section Projections

@[simp] def Event.began? : Event → Option Nanos
  | .began moment => some moment
  | _ => none

@[simp] def Event.tick? : Event → Option (Nanos × Measurement)
  | .ticked moment sample => some (moment, sample)
  | _ => none

@[simp] def Event.handed? : Event → Option Measurement
  | .handed sample => some sample
  | _ => none

@[simp] def Event.taken? : Event → Option Measurement
  | .taken sample => some sample
  | _ => none

def beganOf (events : List Event) : List Nanos := events.filterMap Event.began?

def ticksOf (events : List Event) : List (Nanos × Measurement) := events.filterMap Event.tick?

def handedOf (events : List Event) : List Measurement := events.filterMap Event.handed?

def takenOf (events : List Event) : List Measurement := events.filterMap Event.taken?

variable (events : List Event) (event : Event)

/-- What one more event says of the beginning comes last. -/
@[simp] theorem beganOf_concat :
    beganOf (events ++ [event]) = beganOf events ++ event.began?.toList :=
  filterMap_concat ..

/-- What one more event says of ticks comes last. -/
@[simp] theorem ticksOf_concat :
    ticksOf (events ++ [event]) = ticksOf events ++ event.tick?.toList :=
  filterMap_concat ..

/-- What one more event hands on comes last. -/
@[simp] theorem handedOf_concat :
    handedOf (events ++ [event]) = handedOf events ++ event.handed?.toList :=
  filterMap_concat ..

/-- What one more event takes comes last. -/
@[simp] theorem takenOf_concat :
    takenOf (events ++ [event]) = takenOf events ++ event.taken?.toList :=
  filterMap_concat ..

end Projections

/-- What a measurer shows by going on to `next`. -/
def shown (m : Measurer) (v : View) (next : Measurer) : List Event :=
  match m.activity, next.activity with
  | .starting, .ticking => [.began v.now]
  | .waiting _, .emitting sample => [.ticked v.now sample]
  | _, _ => (handed m next).map .handed

variable {config : Config} {m : Measurer} {v : View} {next : Measurer × View}

/-- The moves of a measurer with valid intervals by what they show. -/
inductive Acted (config : Config) (m : Measurer) (v : View) : List Event → Measurer × View → Prop
    where
  | begin {log : Log} (starting : m.activity = .starting) :
      Acted config m v [.began v.now]
        ({ m with activity := .ticking, readings := .enable :: m.readings }, { v with log })
  | rest (ticking : m.activity = .ticking) (goesOn : v.context.isDone v.now = false) :
      Acted config m v []
        ({ m with
            activity := .waiting (v.now + config.sampling.bounded (config.draws m.drawn))
            drawn := m.drawn + 1 }, v)
  | sample {ends : Nanos} (waiting : m.activity = .waiting ends)
      (goesOn : v.context.isDone v.now = false) (due : ends ≤ v.now) :
      Acted config m v [.ticked v.now (m.sample config v.now)]
        ({ m with
            activity := .emitting (m.sample config v.now)
            readings := .tcpStats :: .congestion :: m.readings }, v)
  | hand {sample : Measurement} {output : Channel Measurement}
      (emitting : m.activity = .emitting sample)
      (sent : v.output.send? sample = some (.accepted, output)) :
      Acted config m v [.handed sample] ({ m with activity := .ticking }, { v with output })
  | stop (started : m.activity ≠ .starting) (running : m.activity ≠ .finished) :
      Acted config m v [] (m.stop v)

private theorem shown_stop (m : Measurer) (v : View) : shown m v (m.stop v).1 = [] := by
  rw [shown, handed_stop, stop]
  split <;> first | rfl | contradiction

/-- With valid intervals, a measurer goes on to its first tick. -/
theorem begin_of_valid (valid : config.sampling.validate = .ok ()) (m : Measurer) (v : View) :
    ∃ log, m.begin config v =
      ({ m with activity := .ticking, readings := .enable :: m.readings }, { v with log }) := by
  unfold begin
  simp only [valid]
  split <;> exact ⟨_, rfl⟩

/-- Every move of a measurer with valid intervals is one of the five kinds. -/
theorem Moved.acted (valid : config.sampling.validate = .ok ()) (moved : Moved config m v next) :
    Acted config m v (shown m v next.1) next := by
  cases moved with
  | begin starting =>
      obtain ⟨log, goesOn⟩ := begin_of_valid valid m v
      rw [goesOn, shown, starting]
      exact .begin starting
  | rest ticking goesOn =>
      rw [shown, handed, ticking]
      exact .rest ticking goesOn
  | sample waiting goesOn due =>
      rw [shown, waiting]
      exact .sample waiting goesOn due
  | hand emitting sent =>
      rw [shown, handed, emitting]
      exact .hand emitting sent
  | lose emitting gone =>
      rw [shown_stop]
      refine .stop ?_ ?_ <;>
      · rw [emitting]
        intro same
        cases same
  | stop started running done =>
      rw [shown_stop]
      exact .stop started running

/-- Neither the time nor the context changes. -/
theorem Acted.same {events : List Event} (acted : Acted config m v events next) :
    next.2.now = v.now ∧ next.2.context = v.context := by
  cases acted <;> exact ⟨rfl, rfl⟩

/-- What is left to do for a measurer whose context is done. -/
def work (m : Measurer) : Nat :=
  match m.activity with
  | .starting | .emitting _ => 2
  | .ticking | .waiting _ => 1
  | .finished => 0

/-- Less is left to do after every move once the context is done. -/
theorem Acted.work_lt {events : List Event} (acted : Acted config m v events next)
    (done : v.context.isDone v.now = true) : work next.1 < work m := by
  cases acted with
  | begin active | hand active =>
      simp only [work, active]
      exact Nat.one_lt_two
  | rest _ goesOn | sample _ goesOn => exact nomatch done.symm.trans goesOn
  | stop started running =>
      have ended : work (m.stop v).1 = 0 := rfl
      rw [ended, work]
      split <;> first | exact Nat.zero_lt_succ _ | contradiction

/-- A measurer whose context is done does not wait. -/
theorem finished_of_done (done : v.context.isDone v.now = true) (stuck : m.moves config v = []) :
    m.activity = .finished :=
  (resting stuck).resolve_right fun waits => nomatch done.symm.trans waits.1

end Measurer

end LinkGauge
