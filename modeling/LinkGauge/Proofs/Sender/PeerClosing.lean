import LinkGauge.Proofs.Sender.Trace

/-!
# When the peer closes first

Beside a sender anything may happen, and at some moment the peer's close may be recorded
(`PeerClosing.Step`). What such a run shows are this record, the writes that begin and fail, and
how the sender stops writing. No write begins once the peer's close is recorded, and a sender that
stops after that, while its own side is open, has no error unless its last write has taken too
long (`PeerClosing.stops_for_peer`). That write is the exception: it is given up with an error
although the peer has closed (`PeerClosing.stalled_after_record`).
-/

namespace LinkGauge.Sender

/-- How a sender has stopped writing, if it has. -/
def Activity.outcome? : Activity → Option (Except SendError Unit)
  | .draining result | .finished result => some result
  | _ => none

namespace PeerClosing

/-- How a sender stops writing: out of what it was doing, with the connection of that moment. -/
structure Stop where
  doing : Activity
  connection : Connection
  moment : Nanos
  result : Except SendError Unit

/-- What happens at a sender. -/
inductive Event where
  /-- The peer's close is recorded. -/
  | recorded
  | began (frame : Frame)
  /-- A write ends badly at a moment. -/
  | failed (reason : String) (moment : Nanos)
  | stopped (stop : Stop)

@[simp] def Event.stop? : Event → Option Stop
  | .stopped stop => some stop
  | _ => none

def stopsOf (events : List Event) : List Stop := events.filterMap Event.stop?

/-- What a sender shows by going on to another activity. -/
def acts (v : View) : Activity → Activity → List Event
  | .choosing, .writing flight _ | .pinging, .writing flight _ => [.began flight.frame]
  | .writing _ _, .grace reason _ => [.failed reason v.now]
  | .draining _, _ | .finished _, _ => []
  | doing, .draining result => [.stopped ⟨doing, v.connection, v.now, result⟩]
  | _, _ => []

/-- Whether the peer's close is recorded between two states of a connection. -/
def records (c next : Connection) : List Event :=
  if next.peerClosed && !c.peerClosed then [.recorded] else []

/-- What happens at a sender between two of its states. -/
def shown (s next : Sender × View) : List Event :=
  acts s.2 s.1.activity next.1.activity ++ records s.2.connection next.2.connection

/-- What can happen at a sender: it moves, or anything but itself changes. A record stays. -/
inductive Step (config : Config) (s : Sender × View) : List Event → Sender × View → Prop where
  | move {next : Sender × View} (moved : next ∈ s.1.moves config s.2) :
      Step config s (shown s next) next
  | outside {v : View} (later : s.2.now ≤ v.now)
      (kept : s.2.connection.peerClosed = true → v.connection.peerClosed = true) :
      Step config s (shown s (s.1, v)) (s.1, v)

/-- The last write has been under way for too long. -/
def TimedOut (config : Config) (stop : Stop) : Prop :=
  stop.result = .error (.timedOut config.ioTimeout) ∧
    ∃ flight begun, stop.doing = .writing flight begun ∧
      flight.ends.any (· ≤ stop.moment) = false ∧ begun + config.ioTimeout ≤ stop.moment

/-- The ways in which a sender stops writing. -/
inductive Lawful (config : Config) (stop : Stop) : Prop where
  | complete {flight : Flight} {begun : Nanos} (writing : stop.doing = .writing flight begun)
      (close : flight.frame = .close) (result : stop.result = .ok ())
  | own (closed : stop.connection.closed = true) (result : stop.result = .error .connectionClosed)
  | peer (peerClosed : stop.connection.peerClosed = true) (result : stop.result = .ok ())
  | late (timedOut : TimedOut config stop)
  | broken {reason : String} {ends : Nanos} (grace : stop.doing = .grace reason ends)
      (overdue : ends ≤ stop.moment) (peerOpen : stop.connection.peerClosed = false)
      (result : stop.result = .error (.writeFailed reason))

/-- The moves of a sender by what they show. -/
inductive Acted (config : Config) (s : Sender) (v : View) : List Event → Activity → Prop where
  | begin {frame : Frame} {flight : Flight} {begun : Nanos}
      (active : s.activity.outcome? = none) (peerOpen : v.connection.peerClosed = false) :
      Acted config s v [.began frame] (.writing flight begun)
  | fail {reason : String} (active : s.activity.outcome? = none) :
      Acted config s v [.failed reason v.now] (.grace reason (v.now + closeGrace))
  | stop {result : Except SendError Unit} (active : s.activity.outcome? = none)
      (lawful : Lawful config ⟨s.activity, v.connection, v.now, result⟩) :
      Acted config s v [.stopped ⟨s.activity, v.connection, v.now, result⟩] (.draining result)
  | rest {activity : Activity} (same : activity.outcome? = s.activity.outcome?)
      (writes : ∀ reason ends, activity ≠ .grace reason ends) : Acted config s v [] activity

variable {config : Config} {s : Sender} {v : View} {next : Sender × View}

private theorem acts_draining (active : s.activity.outcome? = none)
    (result : Except SendError Unit) :
    acts v s.activity (.draining result) =
      [.stopped ⟨s.activity, v.connection, v.now, result⟩] := by
  cases activity : s.activity with
  | draining | finished =>
      rw [activity] at active
      cases active
  | choosing | pinging | writing | grace | echoing => rfl

/-- The result with which a sender stops: a peer that closed first is no error. -/
def excused : Except SendError Unit → Except SendError Unit
  | .error .peerClosed => .ok ()
  | result => result

private theorem stop_activity (s : Sender) (v : View) (result : Except SendError Unit) :
    (s.stop v result).1.activity = .draining (excused result) := by
  rcases result with error | _
  · cases error <;> rfl
  · rfl

private theorem acted_stop {result : Except SendError Unit} (w : View)
    (active : s.activity.outcome? = none)
    (lawful : Lawful config ⟨s.activity, v.connection, v.now, excused result⟩) :
    Acted config s v (acts v s.activity (s.stop w result).1.activity)
      (s.stop w result).1.activity := by
  rw [stop_activity, acts_draining active]
  exact .stop active lawful

private theorem acted_beginWrite (idle : s.activity = .choosing ∨ s.activity = .pinging) {w : View}
    (connection : w.connection = v.connection) (frame : Frame) :
    Acted config s v (acts v s.activity (s.beginWrite w frame).1.activity)
      (s.beginWrite w frame).1.activity := by
  have active : s.activity.outcome? = none := by
    rcases idle with choosing | pinging
    · rw [choosing]
      rfl
    · rw [pinging]
      rfl
  unfold beginWrite
  split
  · next closed =>
      rw [connection] at closed
      exact acted_stop w active (.own closed rfl)
  · split
    · next peerClosed =>
        rw [connection] at peerClosed
        exact acted_stop w active (.peer peerClosed rfl)
    · next opened =>
        rw [connection, Bool.not_eq_true] at opened
        have began : ∀ flight moment,
            acts v s.activity (.writing flight moment) = [.began flight.frame] := by
          intro flight moment
          rcases idle with choosing | pinging
          · rw [choosing]
            rfl
          · rw [pinging]
            rfl
        dsimp only
        rw [began]
        exact .begin active opened

private theorem acted (moved : Moved config s v next) :
    Acted config s v (acts v s.activity next.1.activity) next.1.activity := by
  cases moved with
  | sendNext choosing taken => exact acted_beginWrite (.inl choosing) (by rfl) _
  | sendClose choosing nothing ended => exact acted_beginWrite (.inl choosing) rfl _
  | sendFiller choosing nothing goesOn download => exact acted_beginWrite (.inl choosing) rfl _
  | sendPing pinging => exact acted_beginWrite (.inr pinging) rfl _
  | @land flight begun writing landed whole =>
      have active : s.activity.outcome? = none := by
        rw [writing]
        rfl
      cases frame : flight.frame with
      | close => exact acted_stop _ active (.complete writing frame rfl)
      | text | binary | ping =>
          simp only [written, writing]
          exact .rest active.symm fun _ _ grace => by cases grace
  | fail writing landed broken =>
      rw [writing]
      exact .fail (by rw [writing]; rfl)
  | @expire flight begun writing underWay late =>
      exact acted_stop v (by rw [writing]; rfl)
        (.late ⟨rfl, flight, begun, writing, underWay, late⟩)
  | interrupt writing closed => exact acted_stop v (by rw [writing]; rfl) (.own closed rfl)
  | excuse grace peerClosed => exact acted_stop v (by rw [grace]; rfl) (.peer peerClosed rfl)
  | giveUp grace peerOpen late =>
      exact acted_stop v (by rw [grace]; rfl) (.broken grace late peerOpen rfl)
  | echo echoing sent =>
      rw [echoing]
      dsimp only
      split
      · exact .rest (by rw [echoing]; rfl) fun _ _ grace => by cases grace
      · exact .rest (by rw [echoing]; rfl) fun _ _ grace => by cases grace
  | drain draining taken =>
      rw [draining]
      exact .rest (by rw [draining]) fun _ _ grace => by cases grace
  | finish draining nothing ended =>
      rw [draining]
      exact .rest (by rw [draining]; rfl) fun _ _ grace => by cases grace

/-- A connection that does not change records nothing. -/
theorem records_self (c : Connection) : records c c = [] := by
  rw [records, Bool.and_not_self]
  rfl

/-- Beside the sender nothing but a record is shown. -/
theorem shown_outside (s : Sender) (v w : View) :
    shown (s, v) (s, w) = records v.connection w.connection := by
  have nothing : acts v s.activity s.activity = [] := by
    cases s.activity <;> rfl
  rw [shown, nothing, List.nil_append]

/-- When an event may happen after others. -/
inductive Due (config : Config) (early : List Event) : Event → Prop where
  | recorded : Due config early .recorded
  | began {frame : Frame} (unrecorded : .recorded ∉ early) : Due config early (.began frame)
  | failed {reason : String} {moment : Nanos} : Due config early (.failed reason moment)
  | stopped {stop : Stop} (first : stopsOf early = []) (lawful : Lawful config stop)
      (seen : stop.connection.peerClosed = true ↔ .recorded ∈ early)
      (waited : ∀ reason ends, stop.doing = .grace reason ends →
        ∃ moment, .failed reason moment ∈ early ∧ ends = moment + closeGrace) :
      Due config early (.stopped stop)

/-- What has happened at a sender agrees with its state. -/
structure Books (config : Config) (events : List Event) (s : Sender) (v : View) : Prop where
  timely : Timely (Due config) events
  seen : v.connection.peerClosed = true ↔ .recorded ∈ events
  outcome : (stopsOf events).map (·.result) = s.activity.outcome?.toList
  waited : ∀ reason ends, s.activity = .grace reason ends →
    ∃ moment, .failed reason moment ∈ events ∧ ends = moment + closeGrace

@[simp] private theorem stopsOf_concat (events : List Event) (event : Event) :
    stopsOf (events ++ [event]) = stopsOf events ++ event.stop?.toList :=
  filterMap_concat ..

/-- A run can be cut where the sender has stopped. -/
theorem exists_split {events : List Event} {stop : Stop} (member : stop ∈ stopsOf events) :
    ∃ early late, events = early ++ .stopped stop :: late := by
  obtain ⟨event, shown, same⟩ := List.mem_filterMap.mp member
  cases event with
  | stopped => exact List.append_of_mem (Option.some.inj same ▸ shown)
  | recorded | began | failed => cases same

namespace Books

variable {events : List Event}

private theorem start (config : Config) {v : View} (fresh : v.connection.peerClosed = false) :
    Books config [] (.new config) v where
  timely := .nil
  seen := by
    rw [fresh]
    exact ⟨nofun, nofun⟩
  outcome := by
    unfold new
    dsimp only
    split <;> rfl
  waited := by
    unfold new
    dsimp only
    split <;> nofun

private theorem stopsOf_eq_nil (books : Books config events s v)
    (active : s.activity.outcome? = none) : stopsOf events = [] := by
  have outcome := books.outcome
  rw [active] at outcome
  exact List.map_eq_nil_iff.mp outcome

private theorem seen_concat {w : View} {event : Event} (books : Books config events s v)
    (same : w.connection.peerClosed = v.connection.peerClosed) (other : event ≠ .recorded) :
    w.connection.peerClosed = true ↔ .recorded ∈ events ++ [event] := by
  rw [same, books.seen, List.mem_append]
  exact ⟨.inl, fun member => member.resolve_right fun last =>
    other (List.mem_singleton.mp last).symm⟩

private theorem act {more : List Event} {t : Sender} {w : View} (books : Books config events s v)
    (acted : Acted config s v more t.activity)
    (same : w.connection.peerClosed = v.connection.peerClosed) :
    Books config (events ++ more) t w := by
  obtain ⟨activity, filler⟩ := t
  dsimp only at acted
  cases acted with
  | begin active peerOpen =>
      have unrecorded : .recorded ∉ events := by
        rw [← books.seen, peerOpen]
        exact Bool.false_ne_true
      refine ⟨books.timely.concat (.began unrecorded), books.seen_concat same nofun, ?_, nofun⟩
      rw [stopsOf_concat, books.stopsOf_eq_nil active]
      rfl
  | fail active =>
      refine ⟨books.timely.concat .failed, books.seen_concat same nofun, ?_, ?_⟩
      · rw [stopsOf_concat, books.stopsOf_eq_nil active]
        rfl
      · intro reason ends grace
        obtain ⟨rfl, rfl⟩ := Activity.grace.inj grace
        exact ⟨v.now, List.mem_append_right _ (List.mem_singleton_self _), rfl⟩
  | stop active lawful =>
      have none := books.stopsOf_eq_nil active
      have due := Due.stopped none lawful books.seen books.waited
      refine ⟨books.timely.concat due, books.seen_concat same nofun, ?_, nofun⟩
      rw [stopsOf_concat, none]
      rfl
  | rest outcome writes =>
      rw [List.append_nil]
      refine ⟨books.timely, ?_, ?_, ?_⟩
      · rw [same]
        exact books.seen
      · rw [books.outcome, outcome]
      · intro reason ends grace
        exact absurd grace (writes reason ends)

private theorem record {w : View} (books : Books config events s v)
    (kept : v.connection.peerClosed = true → w.connection.peerClosed = true) :
    Books config (events ++ records v.connection w.connection) s w := by
  unfold records
  split
  · next new =>
      obtain ⟨here, -⟩ := Bool.and_eq_true_iff.mp new
      refine ⟨books.timely.concat .recorded, ?_, ?_, ?_⟩
      · exact iff_of_true here (List.mem_append_right _ (List.mem_singleton_self _))
      · rw [stopsOf_concat]
        exact (congrArg _ (List.append_nil _)).trans books.outcome
      · intro reason ends grace
        obtain ⟨moment, failed, due⟩ := books.waited reason ends grace
        exact ⟨moment, List.mem_append_left _ failed, due⟩
  · next old =>
      rw [List.append_nil]
      refine ⟨books.timely, ?_, books.outcome, books.waited⟩
      rw [← books.seen]
      refine ⟨fun here => ?_, kept⟩
      cases before : v.connection.peerClosed with
      | true => rfl
      | false => exact absurd (by rw [here, before]; rfl) old

private theorem step {more : List Event} {t : Sender × View} (books : Books config events s v)
    (step : Step config (s, v) more t) : Books config (events ++ more) t.1 t.2 := by
  cases step with
  | move moved =>
      have move := mem_moves_iff.mp moved
      have same : t.2.connection = v.connection := move.acted.keeps.connection
      rw [shown, same, records_self, List.append_nil]
      exact books.act (acted move) (by rw [same])
  | outside later kept =>
      rw [shown_outside]
      exact books.record kept

end Books

private theorem books_of_run {first w : View} {events : List Event}
    (fresh : first.connection.peerClosed = false)
    (run : Run (Step config) (.new config, first) events (s, w)) : Books config events s w :=
  run.keeps (fun events s => Books config events s.1 s.2) (.start config fresh)
    fun books step => books.step step

/-- The write that stops a sender has failed, and its peer's close has not been recorded before
the grace was over. -/
def Unexcused (early : List Event) (stop : Stop) : Prop :=
  .recorded ∉ early ∧ ∃ reason moment, stop.result = .error (.writeFailed reason) ∧
    .failed reason moment ∈ early ∧ moment + closeGrace ≤ stop.moment

/-- **A peer that closes first.** In every mode, beside whatever else happens, no write begins
after the peer's close is recorded. A sender that has finished has stopped writing once, with that
result. If its own side was open then, it has no error unless its last write has taken too long,
or has failed without a record before the end of the grace. -/
theorem stops_for_peer {first w : View} {events : List Event}
    (fresh : first.connection.peerClosed = false)
    (run : Run (Step config) (.new config, first) events (s, w)) :
    (∀ early frame late, events = early ++ .began frame :: late → .recorded ∉ early) ∧
      (∀ result, s.result? = some result → (stopsOf events).map (·.result) = [result]) ∧
      ∀ early stop late, events = early ++ .stopped stop :: late →
        (stop.connection.peerClosed = true ↔ .recorded ∈ early) ∧
          (stop.connection.closed = false →
            stop.result = .ok () ∨ TimedOut config stop ∨ Unexcused early stop) := by
  have books := books_of_run fresh run
  refine ⟨?_, ?_, ?_⟩
  · intro early frame late split
    cases books.timely early _ late split with
    | began unrecorded => exact unrecorded
  · intro result finished
    have activity : s.activity = .finished result := by
      unfold result? at finished
      split at finished
      · next own =>
          rw [own, Option.some.inj finished]
      · cases finished
    rw [books.outcome, activity]
    rfl
  · intro early stop late split
    cases books.timely early _ late split with
    | stopped first lawful seen waited =>
        refine ⟨seen, fun opened => ?_⟩
        cases lawful with
        | complete writing close result => exact .inl result
        | own closed => exact nomatch opened.symm.trans closed
        | peer peerClosed result => exact .inl result
        | late timedOut => exact .inr (.inl timedOut)
        | @broken reason ends grace overdue peerOpen result =>
            obtain ⟨moment, failed, rfl⟩ := waited reason ends grace
            have unrecorded : .recorded ∉ early := by
              rw [← seen, peerOpen]
              exact Bool.false_ne_true
            exact .inr (.inr ⟨unrecorded, reason, moment, result, failed, overdue⟩)

/-- An upload in which a write may take half a second. -/
def impatient : Config where
  subtest := .upload
  ioTimeout := millis 500

/-- A measurement that is to be sent on a wire on which no write ends. -/
def stalling : View where
  now := millis 5
  connection := {}
  source := { queue := [{}] }
  echo := {}
  wire := { rules := fun _ => { outcome := .stalled } }
  log := []

/-- The write that is under way when the peer's close is recorded takes too long, and the sender
ends with an error. -/
theorem stalled_after_record : ∃ early stop s w,
    Run (Step impatient) (.new impatient, stalling) (early ++ [.stopped stop]) (s, w) ∧
      .recorded ∈ early ∧ stop.connection.closed = false ∧
      s.result? = some (.error (.timedOut (millis 500))) := by
  let flight : Flight := { frame := .text {}, ends := none, failure := none }
  let writing : Sender := ⟨.writing flight (millis 5), .new {}⟩
  let begun : View := { stalling with source := {}, wire := { stalling.wire with begun := 1 } }
  let recorded : View := { begun with now := millis 33, connection := { peerClosed := true } }
  let late : View := { recorded with now := millis 505, source := { writers := 0 } }
  let stopped := writing.stop late (.error (.timedOut (millis 500)))
  let finished : Sender := ⟨.finished (.error (.timedOut (millis 500))), .new {}⟩
  have begins : (writing, begun) ∈ (Sender.new impatient).moves impatient stalling :=
    List.mem_singleton_self _
  have expires : stopped ∈ writing.moves impatient late := List.mem_singleton_self _
  have finishes : (finished, stopped.2) ∈ stopped.1.moves impatient stopped.2 :=
    List.mem_singleton_self _
  have start : Run (Step impatient) (.new impatient, stalling) [] (.new impatient, stalling) :=
    .stay
  have run := start.next (.move begins)
    |>.next (.outside (v := recorded) (by decide) fun _ => rfl)
    |>.next (.outside (v := late) (by decide) fun _ => rfl)
    |>.next (.move expires) |>.next (.move finishes)
  refine ⟨[.began (.text {}), .recorded], ⟨_, late.connection, _, _⟩, _, _, run, ?_, rfl, rfl⟩
  exact List.mem_cons_of_mem _ List.mem_cons_self

end PeerClosing

end LinkGauge.Sender
