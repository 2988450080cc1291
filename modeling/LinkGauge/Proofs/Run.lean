import LinkGauge.Context
import LinkGauge.Time
import Mathlib.Data.List.Induction

/-!
# Runs in time

Time only goes on, and what a machine does in it is a run: a sequence of steps, each of which may
show something.
-/

namespace LinkGauge

/-!
## As time goes on

The time that has elapsed never decreases (`elapsedSince_mono`), and neither does its counter in
microseconds before the counter overflows (`micros_mono`). A context that is done stays so
(`Context.isDone_mono`).
-/

/-- The time that has elapsed never decreases. -/
theorem elapsedSince_mono (start : Int) {earlier later : Nanos} (le : earlier ≤ later) :
    elapsedSince start earlier ≤ elapsedSince start later :=
  Int.toNat_le_toNat (Int.sub_le_sub_right (Int.ofNat_le.mpr le) start)

/-- The first span whose microseconds overflow their counter. -/
def microsOverflow : Nanos := Nat.pow 2 63 * 1000

/-- The counter of a short span counts its whole microseconds. -/
theorem toInt_micros {span : Nanos} (short : span < microsOverflow) :
    (micros span).toInt = (span / 1000 : Nat) := by
  have range : span / 1000 < 2 ^ 63 := Nat.div_lt_of_lt_mul (Nat.mul_comm .. ▸ short)
  refine Int64.toInt_ofInt_of_le ?_ (by exact_mod_cast range)
  exact Int.le_trans (by decide) (Int.natCast_nonneg _)

/-- The counter never decreases before it overflows. -/
theorem micros_mono {shorter longer : Nanos} (le : shorter ≤ longer)
    (short : longer < microsOverflow) : micros shorter ≤ micros longer := by
  rw [Int64.le_iff_toInt_le, toInt_micros (Nat.lt_of_le_of_lt le short), toInt_micros short]
  exact Int.ofNat_le.mpr (Nat.div_le_div_right le)

/-- The counter is not negative before it overflows. -/
theorem micros_nonneg {span : Nanos} (short : span < microsOverflow) : 0 ≤ micros span := by
  rw [Int64.le_iff_toInt_le, toInt_micros short]
  exact Int.natCast_nonneg _

/-- A context that is done stays so. -/
theorem Context.isDone_mono {c d : Context} {earlier later : Nanos}
    (bound : d.deadline = c.deadline) (le : earlier ≤ later)
    (cancelled : c.cancelled = true → d.cancelled = true) (done : c.isDone earlier = true) :
    d.isDone later = true := by
  refine Bool.or_eq_true_iff.mpr ((Bool.or_eq_true_iff.mp done).imp cancelled fun late => ?_)
  rw [bound]
  exact decide_eq_true (Nat.le_trans (of_decide_eq_true late) le)

/-!
## Runs

A run is a sequence of steps from a first state. Each step may show something; what a
run has shown is the sequence of what its steps have shown. A machine whose moves are steps
goes on along a run (`Run.settle`, `Run.execute`). A rule may bind every event to those
before it (`Timely`).
-/

/-- The next alarm is not in the past. -/
theorem Machine.le_of_nextAlarm? {now time : Nanos} {alarms : List Nanos}
    (next : Machine.nextAlarm? now alarms = some time) : now ≤ time := by
  have later := (List.mem_filter.mp (List.min?_mem next)).2
  exact Nat.le_of_lt (of_decide_eq_true later)

/-- What a view of events finds in one more of them stands behind what it has found. -/
theorem filterMap_concat {ε α : Type} (view : ε → Option α) (events : List ε) (event : ε) :
    (events ++ [event]).filterMap view = events.filterMap view ++ (view event).toList := by
  rw [List.filterMap_append, List.filterMap_cons, List.filterMap_nil]
  cases view event <;> rfl

/-- The runs of a step relation from a first state: what has been shown, oldest first, and
the state in which the run is. -/
inductive Run {σ ε : Type} (step : σ → List ε → σ → Prop) (first : σ) : List ε → σ → Prop where
  | stay : Run step first [] first
  | next {shown more : List ε} {s t : σ} :
      Run step first shown s → step s more t → Run step first (shown ++ more) t

namespace Run

variable {σ ε : Type} {step : σ → List ε → σ → Prop} {first s : σ} {shown : List ε}

/-- What holds at first and is kept by every step holds along every run. -/
theorem keeps (run : Run step first shown s) (I : List ε → σ → Prop) (initially : I [] first)
    (kept : ∀ {shown more : List ε} {s t : σ}, I shown s → step s more t → I (shown ++ more) t) :
    I shown s := by
  induction run with
  | stay => exact initially
  | next _ moved ih => exact kept ih moved

/-- A run can be followed by another one. -/
theorem trans {more : List ε} {t : σ} (run : Run step first shown s) (on : Run step s more t) :
    Run step first (shown ++ more) t := by
  induction on with
  | stay =>
      rw [List.append_nil]
      exact run
  | next _ moved ih =>
      rw [← List.append_assoc]
      exact ih.next moved

/-- A run seen through a view whose steps are steps. -/
theorem map {τ : Type} {other : τ → List ε → τ → Prop} (view : σ → τ)
    (run : Run step first shown s)
    (seen : ∀ {s more t}, step s more t → other (view s) more (view t)) :
    Run other (view first) shown (view s) := by
  induction run with
  | stay => exact .stay
  | next _ moved ih => exact ih.next (seen moved)

/-- A machine whose moves are steps settles along a run. -/
theorem settle (run : Run step first shown s) (m : Machine σ)
    (allowed : ∀ {shown s t}, Run step first shown s → m.step? s = some t → ∃ more, step s more t)
    (steps : Nat) :
    ∃ all, Run step first all (m.settle steps s) := by
  induction steps generalizing shown s with
  | zero => exact ⟨shown, run⟩
  | succ steps ih =>
      cases move : m.step? s with
      | some t =>
          obtain ⟨more, moved⟩ := allowed run move
          simp only [Machine.settle, move]
          exact ih (run.next moved)
      | none =>
          simp only [Machine.settle, move]
          exact ⟨shown, run⟩

/-- A machine whose moves and waits are steps goes on along a run. -/
theorem execute (run : Run step first shown s) (m : Machine σ)
    (allowed : ∀ {shown s t}, Run step first shown s → m.step? s = some t → ∃ more, step s more t)
    (waits : ∀ {shown s time}, Run step first shown s →
      Machine.nextAlarm? (m.now s) (m.alarms s) = some time →
        ∃ more, step s more (m.advance s time))
    (steps : Nat) : ∃ all, Run step first all (m.run steps s) := by
  induction steps generalizing shown s with
  | zero => exact ⟨shown, run⟩
  | succ steps ih =>
      cases move : m.step? s with
      | some t =>
          obtain ⟨more, moved⟩ := allowed run move
          simp only [Machine.run, move]
          exact ih (run.next moved)
      | none =>
          cases alarm : Machine.nextAlarm? (m.now s) (m.alarms s) with
          | some time =>
              obtain ⟨more, waited⟩ := waits run alarm
              simp only [Machine.run, move, alarm]
              exact ih (run.next waited)
          | none =>
              simp only [Machine.run, move, alarm]
              exact ⟨shown, run⟩

/-- A machine whose states carry what has been shown goes on along a run. -/
theorem record {s : List ε × σ} (run : Run step first s.1 s.2) (m : Machine (List ε × σ))
    (moves : ∀ {s t}, m.step? s = some t → ∃ more, t.1 = s.1 ++ more ∧ step s.2 more t.2)
    (waits : ∀ {s time}, Machine.nextAlarm? (m.now s) (m.alarms s) = some time →
      ∃ more, (m.advance s time).1 = s.1 ++ more ∧ step s.2 more (m.advance s time).2)
    (steps : Nat) : Run step first (m.run steps s).1 (m.run steps s).2 := by
  induction steps generalizing s with
  | zero => exact run
  | succ steps ih =>
      cases move : m.step? s with
      | some t =>
          obtain ⟨more, all, moved⟩ := moves move
          simp only [Machine.run, move]
          exact ih (all ▸ run.next moved)
      | none =>
          cases alarm : Machine.nextAlarm? (m.now s) (m.alarms s) with
          | some time =>
              obtain ⟨more, all, waited⟩ := waits alarm
              simp only [Machine.run, move, alarm]
              exact ih (all ▸ run.next waited)
          | none =>
              simp only [Machine.run, move, alarm]
              exact run

end Run

/-- Every event is due after those before it. -/
def Timely {ε : Type} (due : List ε → ε → Prop) (events : List ε) : Prop :=
  ∀ early event late, events = early ++ event :: late → due early event

namespace Timely

variable {ε : Type} {due : List ε → ε → Prop} {events : List ε}

/-- No events are timely. -/
theorem nil : Timely due [] := by
  intro early event late split
  exact absurd (congrArg List.length split) (by simp)

/-- One more event that is due leaves the events timely. -/
theorem concat {event : ε} (timely : Timely due events) (now : due events event) :
    Timely due (events ++ [event]) := by
  intro early other late split
  rcases List.eq_nil_or_concat late with rfl | ⟨before, last, rfl⟩
  · obtain ⟨rfl, same⟩ := List.append_inj' split rfl
    obtain ⟨rfl, -⟩ := List.cons.inj same
    exact now
  · have shorter : events ++ [event] = (early ++ other :: before) ++ [last] := by
      rw [split, List.concat_eq_append, List.append_assoc, List.cons_append]
    exact timely early other before (List.append_inj' shorter rfl).1

private theorem init {event : ε} (timely : Timely due (events ++ [event])) : Timely due events := by
  intro early other late split
  refine timely early other (late ++ [event]) ?_
  rw [split, List.append_assoc, List.cons_append]

/-- What binds every event to each one before it relates any two of them. -/
theorem pairwise {related : ε → ε → Prop} (timely : Timely due events)
    (binds : ∀ early, ∀ event ∈ events, due early event → ∀ other ∈ early, related other event) :
    events.Pairwise related := by
  induction events using List.reverseRecOn with
  | nil => exact .nil
  | append_singleton events event ih =>
      refine List.pairwise_append.mpr ⟨ih timely.init fun early other found => ?_,
        List.pairwise_singleton _ _, fun other found last here => ?_⟩
      · exact binds early other (List.mem_append_left _ found)
      · obtain rfl := List.mem_singleton.mp here
        have member : last ∈ events ++ [last] := List.mem_append_right _ here
        exact binds events last member (timely events last [] rfl) other found

end Timely

end LinkGauge
