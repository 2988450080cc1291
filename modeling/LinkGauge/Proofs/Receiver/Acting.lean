import LinkGauge.Proofs.Channel
import LinkGauge.Proofs.Receiver
import LinkGauge.Proofs.Receiver.Decoding
import LinkGauge.Proofs.Run
import Mathlib.Data.List.TakeWhile

/-!
# What a receiver shows

A receiver shows what it reads and what it hands on. Seen by what they show, its moves fall into
seven kinds (`Receiver.Acted`), and every one of them keeps what is handed on in step with what
is read (`Receiver.Reads.act`). With every move less is left to do (`Receiver.Acted.work_lt`), and
a receiver that cannot move waits for its consumer or for the peer (`Receiver.resting`).
-/

namespace LinkGauge

/-- What is read from a wire at a moment, when it has become another one. -/
def Wire.readBetween (now : Nanos) (w next : Wire) : List (Nanos × Arrival) :=
  (w.arrivals.take (w.arrivals.length - next.arrivals.length)).map fun (_, arrival) =>
    (now, arrival)

private theorem Wire.readBetween_self (now : Nanos) (w : Wire) : readBetween now w w = [] := by
  rw [readBetween, Nat.sub_self, List.take_zero, List.map_nil]

/-- What is read is the first arrival, and it was due. -/
theorem Wire.read?_eq_some {w rest : Wire} {now : Nanos} {arrival : Arrival}
    (there : w.read? now = some (arrival, rest)) :
    (∃ time ≤ now, w.arrivals = (time, arrival) :: rest.arrivals) ∧
      rest = { w with arrivals := rest.arrivals } := by
  unfold read? at there
  split at there
  · next time first others arrivals =>
      split at there
      · next arrived =>
          obtain ⟨rfl, rfl⟩ := Prod.mk.inj (Option.some.inj there)
          exact ⟨⟨time, arrived, arrivals⟩, rfl⟩
      · cases there
  · cases there

/-- Reading once shows the arrival that was read. -/
theorem Wire.readBetween_of_read? {w rest : Wire} {now : Nanos} {arrival : Arrival}
    (there : w.read? now = some (arrival, rest)) : readBetween now w rest = [(now, arrival)] := by
  obtain ⟨⟨time, -, arrivals⟩, -⟩ := read?_eq_some there
  rw [readBetween, arrivals, List.length_cons, Nat.add_sub_cancel_left]
  rfl

namespace Receiver

/-- What happens at a receiver. -/
inductive Event where
  /-- An arrival is read at a moment. -/
  | read (moment : Nanos) (arrival : Arrival)
  | handed (received : Received)
  /-- The consumer takes what was handed on. -/
  | taken (received : Received)
  /-- What is still to arrive changes. -/
  | rescheduled

section Projections

@[simp] def Event.read? : Event → Option (Nanos × Arrival)
  | .read moment arrival => some (moment, arrival)
  | _ => none

@[simp] def Event.handed? : Event → Option Received
  | .handed received => some received
  | _ => none

@[simp] def Event.taken? : Event → Option Received
  | .taken received => some received
  | _ => none

def readsOf (events : List Event) : List (Nanos × Arrival) := events.filterMap Event.read?

def handedOf (events : List Event) : List Received := events.filterMap Event.handed?

def takenOf (events : List Event) : List Received := events.filterMap Event.taken?

variable (events : List Event) (event : Event)

/-- What one more event reads comes last. -/
@[simp] theorem readsOf_concat :
    readsOf (events ++ [event]) = readsOf events ++ event.read?.toList :=
  filterMap_concat ..

/-- What one more event hands on comes last. -/
@[simp] theorem handedOf_concat :
    handedOf (events ++ [event]) = handedOf events ++ event.handed?.toList :=
  filterMap_concat ..

/-- What one more event takes comes last. -/
@[simp] theorem takenOf_concat :
    takenOf (events ++ [event]) = takenOf events ++ event.taken?.toList :=
  filterMap_concat ..

end Projections

/-- What a receiver shows by going on to `next`. -/
def shown (r : Receiver) (v : View) (next : Receiver × View) : List Event :=
  (v.wire.readBetween v.now next.2.wire).map (fun (moment, arrival) => .read moment arrival) ++
    (emitted r next.1).map .handed

variable {config : Config} {r : Receiver} {v : View} {next : Receiver × View}

/-- The moves of a receiver by what they show. -/
inductive Acted (config : Config) (r : Receiver) (v : View) : List Event → Receiver × View → Prop
    where
  | hear {arrival : Arrival} {wire : Wire} {received : Received} (reading : r.activity = .reading)
      (there : v.wire.read? v.now = some (arrival, wire))
      (goesOn : stops config (v.now, arrival) = false)
      (told : received? config r.minRtt.toList (v.now, arrival) = some received) :
      Acted config r v [.read v.now arrival]
        (⟨.emitting received, leastAfter config r.minRtt (v.now, arrival)⟩, { v with wire })
  | skip {arrival : Arrival} {wire : Wire} (reading : r.activity = .reading)
      (there : v.wire.read? v.now = some (arrival, wire))
      (goesOn : stops config (v.now, arrival) = false)
      (nothing : received? config r.minRtt.toList (v.now, arrival) = none) :
      Acted config r v [.read v.now arrival]
        (⟨.reading, leastAfter config r.minRtt (v.now, arrival)⟩, { v with wire })
  | refuse {arrival : Arrival} {wire : Wire} {log : Log} (reading : r.activity = .reading)
      (there : v.wire.read? v.now = some (arrival, wire))
      (last : stops config (v.now, arrival) = true) (other : arrival ≠ .close) :
      Acted config r v [.read v.now arrival]
        (stop ⟨r.activity, leastAfter config r.minRtt (v.now, arrival)⟩ { v with wire, log })
  | close {wire : Wire} (reading : r.activity = .reading)
      (there : v.wire.read? v.now = some (.close, wire)) :
      Acted config r v [.read v.now .close]
        (stop ⟨r.activity, r.minRtt⟩ { v with wire, connection := v.connection.markPeerClosed })
  | hand {received : Received} {output : Channel Received}
      (emitting : r.activity = .emitting received)
      (sent : v.output.send? received = some (.accepted, output)) :
      Acted config r v [.handed received] ({ r with activity := .reading }, { v with output })
  | halt (reading : r.activity = .reading)
      (halted : v.context.isDone v.now = true ∨ v.connection.closed = true) :
      Acted config r v [] (r.stop v)
  | lose {received : Received} (emitting : r.activity = .emitting received)
      (cut : v.context.isDone v.now = true ∨ v.output.reading = false) :
      Acted config r v [] (r.stop v)

/-- A receiver that reads shows what it has read. -/
theorem shown_of_reading (reading : r.activity = .reading) :
    shown r v next =
      (v.wire.readBetween v.now next.2.wire).map
        (fun (moment, arrival) => .read moment arrival) := by
  rw [shown, emitted_of_reading reading, List.map_nil, List.append_nil]

private theorem shown_stop (r : Receiver) (v : View) : shown r v (r.stop v) = [] := by
  have same : (r.stop v).2.wire = v.wire := rfl
  rw [shown, emitted_stop, same, Wire.readBetween_self]
  rfl

private theorem acted_take {arrival : Arrival} {wire : Wire} (reading : r.activity = .reading)
    (there : v.wire.read? v.now = some (arrival, wire)) :
    Acted config r v [.read v.now arrival] (r.take config { v with wire } arrival) := by
  obtain ⟨means, after⟩ := means_decode config r.minRtt v.now arrival
  unfold take
  generalize decode config.subtest r.minRtt (elapsedSince config.start v.now) arrival = answer
    at means after ⊢
  obtain ⟨meaning, least⟩ := answer
  obtain rfl : least = leastAfter config r.minRtt (v.now, arrival) := after
  cases means with
  | emit goesOn told => exact .hear reading there goesOn told
  | skip goesOn nothing =>
      have skipped := Acted.skip reading there goesOn nothing
      rw [← reading] at skipped
      exact skipped
  | stop last other => exact .refuse reading there last other
  | peerClosed closing =>
      obtain rfl : arrival = .close := closing
      rw [leastAfter_of_no_echo rfl]
      exact .close reading there

/-- Every move of a receiver is one that `Acted` describes. -/
theorem Moved.acted (moved : Moved config r v next) : Acted config r v (shown r v next) next := by
  cases moved with
  | take reading there =>
      rw [shown_of_reading reading, take_wire, Wire.readBetween_of_read? there]
      exact acted_take reading there
  | expire reading nothing late =>
      rw [shown_stop]
      exact .halt reading (.inl (by simp only [Context.isDone, late, decide_true, Bool.or_true]))
  | interrupt reading halted =>
      rw [shown_stop]
      refine .halt reading ?_
      rcases Bool.or_eq_true_iff.mp halted with cancelled | closed
      · exact .inl (by simp only [Context.isDone, cancelled, Bool.true_or])
      · exact .inr closed
  | @emit received output emitting sent =>
      have one : emitted r { r with activity := .reading } = [received] := by
        rw [emitted, emitting]
      have showing : shown r v ({ r with activity := .reading }, { v with output }) =
          [.handed received] := by
        rw [shown, one, Wire.readBetween_self]
        rfl
      rw [showing]
      exact .hand emitting sent
  | @lose _ output emitting gone =>
      rw [shown_stop]
      refine .lose emitting (.inr (Bool.eq_false_iff.mpr fun reading => ?_))
      cases (Channel.send?_eq_some reading gone).1
  | abandon emitting done =>
      rw [shown_stop]
      exact .lose emitting (.inl done)

/-- None of the arrivals is the last one that is read. -/
def Going (config : Config) (reads : List (Nanos × Arrival)) : Prop :=
  ∀ read ∈ reads, stops config read = false

/-- The last arrival is the first one after which nothing is read. -/
def Stopped (config : Config) (reads : List (Nanos × Arrival)) : Prop :=
  ∃ before last, reads = before ++ [last] ∧ Going config before ∧ stops config last = true

variable {reads : List (Nanos × Arrival)} {read : Nanos × Arrival} {said : List Received}

private theorem Going.concat (going : Going config reads) (goesOn : stops config read = false) :
    Going config (reads ++ [read]) := by
  intro other member
  rcases List.mem_append.mp member with early | here
  · exact going other early
  · exact List.mem_singleton.mp here ▸ goesOn

private theorem Stopped.not_going (stopped : Stopped config reads) : ¬ Going config reads := by
  obtain ⟨before, last, rfl, -, stop⟩ := stopped
  intro going
  have goesOn := going last (List.mem_append_right _ (List.mem_singleton_self _))
  exact nomatch stop.symm.trans goesOn

/-- The arrivals before the first one after which nothing is read. -/
def beforeStop (config : Config) (reads : List (Nanos × Arrival)) : List (Nanos × Arrival) :=
  reads.takeWhile (!stops config ·)

/-- Where no arrival stops the receiver, every one is in front of a stop. -/
theorem beforeStop_of_going (going : Going config reads) : beforeStop config reads = reads := by
  refine List.takeWhile_eq_self_iff.mpr fun read member => ?_
  rw [going read member]
  rfl

/-- What stands in front of the first arrival that stops the receiver. -/
theorem beforeStop_concat {before : List (Nanos × Arrival)} {last : Nanos × Arrival}
    (going : Going config before) (stop : stops config last = true) :
    beforeStop config (before ++ [last]) = before := by
  rw [beforeStop, List.takeWhile_append_of_pos, List.takeWhile_cons_of_neg, List.append_nil]
  · rw [stop]
    exact Bool.false_ne_true
  · intro read member
    rw [going read member]
    rfl

/-- Nothing in front of a stop stops the receiver. -/
theorem going_beforeStop (config : Config) (reads : List (Nanos × Arrival)) :
    Going config (beforeStop config reads) := by
  intro read member
  have kept := List.mem_takeWhile_imp member
  rwa [Bool.not_eq_true'] at kept

/-- What has been read and handed on, by what the receiver is doing. -/
inductive Reached (config : Config) (reads : List (Nanos × Arrival)) (said : List Received) :
    Activity → Prop where
  | reading (going : Going config reads) (all : said = decoded config [] reads) :
      Reached config reads said .reading
  | emitting {received : Received} (going : Going config reads)
      (all : said ++ [received] = decoded config [] reads) :
      Reached config reads said (.emitting received)
  | stopped (stopped : Stopped config reads) (all : said = decoded config [] reads) :
      Reached config reads said .finished
  | halted (going : Going config reads) (all : said = decoded config [] reads) :
      Reached config reads said .finished
  /-- The last measurement has not been handed on. -/
  | lost {received : Received} (going : Going config reads)
      (all : said ++ [received] = decoded config [] reads) :
      Reached config reads said .finished

namespace Reached

variable {activity : Activity}

/-- A receiver has read nothing behind what stops it. -/
theorem placed (reached : Reached config reads said activity) :
    Going config reads ∨ Stopped config reads := by
  cases reached with
  | reading going | emitting going | halted going | lost going => exact .inl going
  | stopped stopped => exact .inr stopped

/-- What has been handed on is the beginning of what was decoded. -/
theorem in_order (reached : Reached config reads said activity) :
    said <+: decoded config [] reads := by
  cases reached with
  | reading going all | stopped _ all | halted going all => exact all ▸ List.prefix_refl _
  | emitting going all | lost going all => exact all ▸ List.prefix_append _ _

/-- At most one item is still on its way. -/
theorem all_but_one (reached : Reached config reads said activity) :
    ∃ held : List Received, held.length ≤ 1 ∧ said ++ held = decoded config [] reads := by
  cases reached with
  | reading going all | stopped _ all | halted going all =>
      exact ⟨[], Nat.zero_le 1, (List.append_nil said).trans all⟩
  | @emitting received going all | @lost received going all =>
      exact ⟨[received], Nat.le_refl 1, all⟩

/-- A receiver that has been stopped has finished with everything that was decoded. -/
theorem of_stopped (reached : Reached config reads said activity)
    (stopped : Stopped config reads) :
    activity = .finished ∧ said = decoded config [] reads := by
  cases reached with
  | stopped _ all => exact ⟨rfl, all⟩
  | reading going | emitting going | halted going | lost going =>
      exact absurd going stopped.not_going

end Reached

/-- A receiver knows the shortest round trip in what it has read. -/
structure Reads (config : Config) (reads : List (Nanos × Arrival)) (said : List Received)
    (r : Receiver) : Prop where
  reached : Reached config reads said r.activity
  least : r.minRtt = (roundTrips config reads).min?

namespace Reads

/-- Nothing has been read at first. -/
theorem start (config : Config) : Reads config [] [] {} where
  reached := .reading nofun rfl
  least := rfl

/-- Every move keeps what is handed on in step with what is read. -/
theorem act {events : List Event} (before : Reads config reads said r)
    (acted : Acted config r v events next) :
    Reads config (reads ++ readsOf events) (said ++ handedOf events) next.1 := by
  obtain ⟨reached, least⟩ := before
  cases acted with
  | @hear arrival _ received reading there goesOn told =>
      rw [reading] at reached
      cases reached with
      | reading going all =>
          refine ⟨.emitting (going.concat goesOn) ?_, ?_⟩
          · change said ++ [] ++ [received] = decoded config [] (reads ++ [(v.now, arrival)])
            rw [decoded_concat, List.nil_append, ← received?_min?, ← least, told, List.append_nil,
              all]
            rfl
          · change leastAfter _ _ _ = (roundTrips config (reads ++ [(v.now, arrival)])).min?
            rw [← leastAfter_min?, least]
  | @skip arrival _ reading there goesOn nothing =>
      rw [reading] at reached
      cases reached with
      | reading going all =>
          refine ⟨.reading (going.concat goesOn) ?_, ?_⟩
          · change said ++ [] = decoded config [] (reads ++ [(v.now, arrival)])
            rw [decoded_concat, List.nil_append, ← received?_min?, ← least, nothing, all]
            rfl
          · change leastAfter _ _ _ = (roundTrips config (reads ++ [(v.now, arrival)])).min?
            rw [← leastAfter_min?, least]
  | @refuse arrival _ _ reading there last other =>
      rw [reading] at reached
      cases reached with
      | reading going all =>
          refine ⟨.stopped ⟨reads, (v.now, arrival), rfl, going, last⟩ ?_, ?_⟩
          · change said ++ [] = decoded config [] (reads ++ [(v.now, arrival)])
            rw [decoded_concat, received?_of_stops last, all]
            rfl
          · change leastAfter _ _ _ = (roundTrips config (reads ++ [(v.now, arrival)])).min?
            rw [← leastAfter_min?, least]
  | close reading there =>
      rw [reading] at reached
      cases reached with
      | reading going all =>
          refine ⟨.stopped ⟨reads, (v.now, .close), rfl, going, rfl⟩ ?_, ?_⟩
          · change said ++ [] = decoded config [] (reads ++ [(v.now, .close)])
            rw [decoded_concat, received?_of_stops rfl, all]
            rfl
          · change r.minRtt = (roundTrips config (reads ++ [(v.now, .close)])).min?
            rw [roundTrips_concat, roundTrips_of_no_echo rfl, List.append_nil, least]
  | @hand received _ emitting sent =>
      rw [emitting] at reached
      cases reached with
      | emitting going all =>
          change Reads config (reads ++ []) (said ++ [received]) { r with activity := .reading }
          rw [List.append_nil]
          exact ⟨.reading going all, least⟩
  | halt reading halted =>
      rw [reading] at reached
      cases reached with
      | reading going all =>
          change Reads config (reads ++ []) (said ++ []) { r with activity := .finished }
          rw [List.append_nil, List.append_nil]
          exact ⟨.halted going all, least⟩
  | lose emitting cut =>
      rw [emitting] at reached
      cases reached with
      | emitting going all =>
          change Reads config (reads ++ []) (said ++ []) { r with activity := .finished }
          rw [List.append_nil, List.append_nil]
          exact ⟨.lost going all, least⟩

end Reads

/-- Something cuts a receiver off from its consumer. -/
def CutOff (v : View) : Prop := v.context.isDone v.now = true ∨ v.output.reading = false

/-- A receiver that finishes has handed on everything, unless it is cut off. -/
theorem Acted.whole {events : List Event} (acted : Acted config r v events next)
    (before : Reads config reads said r) (finished : next.1.activity = .finished) :
    said ++ handedOf events = decoded config [] (reads ++ readsOf events) ∨ CutOff v := by
  have after := (before.act acted).reached
  have reached := before.reached
  cases acted with
  | hear | skip | hand => cases finished
  | refuse reading there last =>
      rw [reading] at reached
      cases reached with
      | reading going all => exact .inl (after.of_stopped ⟨reads, _, rfl, going, last⟩).2
  | close reading there =>
      rw [reading] at reached
      cases reached with
      | reading going all => exact .inl (after.of_stopped ⟨reads, _, rfl, going, rfl⟩).2
  | halt reading halted =>
      rw [reading] at reached
      cases reached with
      | reading going all =>
          refine .inl ?_
          rw [readsOf, handedOf, List.filterMap_nil, List.filterMap_nil, List.append_nil,
            List.append_nil]
          exact all
  | lose emitting cut => exact .inr cut

/-- What a receiver hands on stands behind what is in its output. -/
theorem Acted.output {events : List Event} (acted : Acted config r v events next)
    (reading : v.output.reading = true) :
    next.2.output.queue = v.output.queue ++ handedOf events ∧ next.2.output.reading = true := by
  cases acted with
  | hand emitting sent =>
      rw [Channel.eq_of_send?_accepted sent]
      exact ⟨rfl, reading⟩
  | hear | skip | refuse | close | halt | lose => exact ⟨(List.append_nil _).symm, reading⟩

/-- Something interrupts a receiver. -/
def Interrupted (v : View) : Prop := CutOff v ∨ v.connection.closed = true

/-- What is left to do for a receiver. -/
def work (r : Receiver) (v : View) : Nat :=
  2 * v.wire.arrivals.length +
    match r.activity with
    | .reading => 1
    | .emitting _ => 2
    | .finished => 0

/-- Less is left to do after every move. -/
theorem Acted.work_lt {events : List Event} (acted : Acted config r v events next) :
    work next.1 next.2 < work r v := by
  cases acted with
  | hear reading there | skip reading there | refuse reading there | close reading there =>
      obtain ⟨⟨time, -, arrivals⟩, -⟩ := Wire.read?_eq_some there
      simp only [work, stop, arrivals, reading, List.length_cons]
      omega
  | hand active | halt active | lose active =>
      simp only [work, stop, active]
      omega

/-- A receiver that cannot move has finished, or waits for its consumer or for the peer. -/
theorem resting (stuck : r.moves config v = []) :
    r.activity = .finished ∨
      (∃ received, r.activity = .emitting received ∧ v.output.ready = false ∧ ¬ CutOff v) ∨
      (r.activity = .reading ∧ v.wire.read? v.now = none ∧ v.context.isDone v.now = false ∧
        v.connection.closed = false) := by
  have none_moved : ∀ next, ¬ Moved config r v next := by
    intro next moved
    have member := mem_moves_of_moved moved
    rw [stuck] at member
    cases member
  cases active : r.activity with
  | finished => exact .inl rfl
  | emitting received =>
      refine .inr (.inl ⟨received, rfl, ?_, ?_⟩)
      · cases sent : v.output.send? received with
        | none => exact Channel.ready_of_send?_eq_none sent
        | some answer =>
            obtain ⟨delivery, output⟩ := answer
            cases delivery with
            | accepted => exact absurd (.emit active sent) (none_moved _)
            | gone => exact absurd (.lose active sent) (none_moved _)
      · rintro (done | left)
        · exact none_moved _ (.abandon active done)
        · have gone : v.output.send? received = some (.gone, v.output) := by
            rw [Channel.send?, if_pos (by rw [left]; rfl)]
          exact none_moved _ (.lose active gone)
  | reading =>
      have nothing : v.wire.read? v.now = none := by
        cases there : v.wire.read? v.now with
        | none => rfl
        | some answer => exact absurd (.take active there) (none_moved _)
      have going : v.context.cancelled = false ∧ v.connection.closed = false := by
        rw [← Bool.or_eq_false_iff]
        exact Bool.eq_false_iff.mpr fun halted => none_moved _ (.interrupt active halted)
      have early : ¬ v.context.deadline ≤ v.now :=
        fun late => none_moved _ (.expire active nothing late)
      refine .inr (.inr ⟨rfl, nothing, ?_, going.2⟩)
      rw [Context.isDone, going.1, decide_eq_false early, Bool.or_false]

end Receiver

end LinkGauge
