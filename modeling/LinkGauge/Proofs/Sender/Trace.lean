import LinkGauge.Proofs.Channel
import LinkGauge.Proofs.Run
import LinkGauge.Proofs.Sender

/-!
# Runs of a sender

A sender runs beside the writers of its source, the reader of what it hands on and the other
holders of its connection, any of which may act at any moment (`Sender.Step`). What such a run
shows are the measurements that arrive, the frames that the sender chooses, writes or fails to
write, and the measurements that it hands on. Seen by what they show, its moves fall into five
kinds (`Sender.Acted`).
-/

namespace LinkGauge

/-- The bytes of filler in a frame. -/
def Frame.filler : Frame → Nat
  | .binary size => size
  | _ => 0

/-- The frames that were sent, oldest first. -/
def Wire.frames (w : Wire) : List Frame := w.sent.reverse.map (·.2)

/-- The frames on a wire depend only on what was sent. -/
theorem Wire.frames_congr {w other : Wire} (same : w.sent = other.sent) :
    w.frames = other.frames := by
  rw [frames, same, frames]

/-- A frame that is delivered stands last on the wire. -/
theorem Wire.frames_deliver (w : Wire) (frame : Frame) (now : Nanos) :
    (w.deliver frame now).frames = w.frames ++ [frame] := by
  have sent : (w.deliver frame now).sent = (now, frame) :: w.sent := rfl
  rw [frames, sent, List.reverse_cons, List.map_append, ← frames]
  rfl

namespace Sender

/-- What happens at a sender. -/
inductive Event where
  /-- A measurement arrives at the source. -/
  | arrived (measurement : Measurement)
  /-- The write of a frame begins, which was chosen at that moment and from that source. -/
  | began (frame : Frame) (moment : Nanos) (source : Channel Measurement)
  | wrote (frame : Frame)
  /-- A write is refused or ends badly. -/
  | failed
  | handed (measurement : Measurement)
  /-- A measurement that was handed on is taken by its reader. -/
  | read (measurement : Measurement)

section Projections

@[simp] def Event.arrived? : Event → Option Measurement
  | .arrived m => some m
  | _ => none

@[simp] def Event.began? : Event → Option (Frame × Nanos × Channel Measurement)
  | .began frame moment source => some (frame, moment, source)
  | _ => none

@[simp] def Event.wrote? : Event → Option Frame
  | .wrote frame => some frame
  | _ => none

@[simp] def Event.handed? : Event → Option Measurement
  | .handed m => some m
  | _ => none

@[simp] def Event.read? : Event → Option Measurement
  | .read m => some m
  | _ => none

def arrivedOf (events : List Event) : List Measurement := events.filterMap Event.arrived?

def writtenOf (events : List Event) : List Frame := events.filterMap Event.wrote?

def textsOf (events : List Event) : List Measurement := (writtenOf events).filterMap Frame.text?

/-- The bytes of filler that were written. -/
def fillerOf (events : List Event) : Nat :=
  (writtenOf events).foldl (fun total frame => total + frame.filler) 0

def handedOf (events : List Event) : List Measurement := events.filterMap Event.handed?

def readOf (events : List Event) : List Measurement := events.filterMap Event.read?

/-- The last frame whose write has begun, with the moment and the source of its choice. -/
def chosen? (events : List Event) : Option (Frame × Nanos × Channel Measurement) :=
  (events.filterMap Event.began?).getLast?

/-- No write has failed, and no close frame has been written. -/
def Ongoing (events : List Event) : Prop := .failed ∉ events ∧ .wrote .close ∉ events

variable (events : List Event) (event : Event)

/-- What arrives with one more event comes last. -/
@[simp] theorem arrivedOf_concat :
    arrivedOf (events ++ [event]) = arrivedOf events ++ event.arrived?.toList :=
  filterMap_concat ..

/-- What one more event writes comes last. -/
@[simp] theorem writtenOf_concat :
    writtenOf (events ++ [event]) = writtenOf events ++ event.wrote?.toList :=
  filterMap_concat ..

/-- The text that one more event writes comes last. -/
@[simp] theorem textsOf_concat :
    textsOf (events ++ [event]) = textsOf events ++ (event.wrote?.bind Frame.text?).toList := by
  rw [textsOf, writtenOf_concat, List.filterMap_append, ← textsOf]
  rcases event with _ | _ | frame | _ | _ | _
  case wrote => cases frame <;> rfl
  all_goals rfl

/-- The filler that one more event writes is counted. -/
@[simp] theorem fillerOf_concat :
    fillerOf (events ++ [event]) = fillerOf events + (event.wrote?.elim 0 Frame.filler) := by
  rw [fillerOf, writtenOf_concat, List.foldl_append, ← fillerOf]
  cases event <;> rfl

/-- What one more event hands on comes last. -/
@[simp] theorem handedOf_concat :
    handedOf (events ++ [event]) = handedOf events ++ event.handed?.toList :=
  filterMap_concat ..

/-- What one more event reads comes last. -/
@[simp] theorem readOf_concat :
    readOf (events ++ [event]) = readOf events ++ event.read?.toList :=
  filterMap_concat ..

/-- One more event that begins a write tells the frame that was chosen last. -/
@[simp] theorem chosen?_concat :
    chosen? (events ++ [event]) = event.began?.or (chosen? events) := by
  rw [chosen?, List.filterMap_append, List.getLast?_append, ← chosen?]
  cases event <;> rfl

@[simp] private theorem ongoing_concat :
    Ongoing (events ++ [event]) ↔ Ongoing events ∧ event ≠ .failed ∧ event ≠ .wrote .close := by
  simp only [Ongoing, List.mem_append, List.mem_singleton, not_or, ne_eq, eq_comm (b := event)]
  exact and_and_and_comm

end Projections

/-- Whether a sender still writes. -/
def Activity.ongoing : Activity → Bool
  | .choosing | .pinging | .writing _ _ | .echoing _ => true
  | .grace _ _ | .draining _ | .finished _ => false

/-- What a sender shows by going on to `next`. -/
def shown (s : Sender) (v : View) (next : Sender × View) : List Event :=
  match s.activity, next.1.activity with
  | .choosing, .writing flight _ | .pinging, .writing flight _ =>
    [.began flight.frame v.now v.source]
  | .choosing, .draining _ | .pinging, .draining _ => [.failed]
  | .writing flight _, .choosing | .writing flight _, .echoing _
  | .writing flight _, .draining (.ok ()) => [.wrote flight.frame]
  | .writing _ _, .grace _ _ | .writing _ _, .draining (.error _) => [.failed]
  | .echoing m, .choosing | .echoing m, .pinging => [.handed m]
  | _, _ => []

private theorem shown_of_activity_eq {s : Sender} {v : View} {next : Sender × View}
    (same : next.1.activity = s.activity) : shown s v next = [] := by
  unfold shown
  rw [same]
  split <;> simp_all

/-- A move of the sender shows no arrival. -/
theorem arrivedOf_shown (s : Sender) (v : View) (next : Sender × View) :
    arrivedOf (shown s v next) = [] := by
  unfold shown
  split <;> rfl

variable {config : Config} {s : Sender} {v : View} {next : Sender × View}

/-- The frame that a sender writes next, and what is left of its source. -/
inductive Choice (config : Config) (s : Sender) (v : View) :
    Frame → Channel Measurement → Prop where
  | text {m : Measurement} {source : Channel Measurement} (choosing : s.activity = .choosing)
      (taken : v.source.take? = some (m, source)) :
      Choice config s v
        (.text (if config.subtest = .download then s.counted config v.now m else m)) source
  | close (choosing : s.activity = .choosing) (ended : v.source.ended = true) :
      Choice config s v .close v.source
  | filler (choosing : s.activity = .choosing) (nothing : v.source.take? = none)
      (goesOn : v.source.ended = false) (download : config.subtest = .download) :
      Choice config s v (.binary s.filler.size) v.source
  | ping (pinging : s.activity = .pinging) :
      Choice config s v (.ping (.ofElapsed (elapsedSince config.start v.now))) v.source

/-- The channel is the other one without its oldest values. -/
structure LeftOf (source other : Channel Measurement) : Prop where
  queue : source.queue <:+ other.queue
  same : ∃ queue, source = { other with queue }

private theorem LeftOf.refl (source : Channel Measurement) : LeftOf source source :=
  ⟨List.suffix_refl _, _, rfl⟩

private theorem LeftOf.of_take? {source other : Channel Measurement} {m : Measurement}
    (taken : other.take? = some (m, source)) : LeftOf source other := by
  obtain ⟨queued, same⟩ := Channel.take?_eq_some taken
  refine ⟨?_, _, same⟩
  rw [queued]
  exact List.suffix_cons m source.queue

/-- What is left of a source has ended only if the source has. -/
theorem LeftOf.ended {source other : Channel Measurement} (left : LeftOf source other)
    (ended : other.ended = true) : source.ended = true := by
  obtain ⟨empty, closed⟩ := Channel.ended_iff.mp ended
  have nothing := left.queue
  obtain ⟨queue, rfl⟩ := left.same
  rw [empty, List.suffix_nil] at nothing
  exact Channel.ended_iff.mpr ⟨nothing, closed⟩

private theorem Choice.leftOf {frame : Frame} {source : Channel Measurement}
    (choice : Choice config s v frame source) : LeftOf source v.source := by
  cases choice with
  | text choosing taken => exact .of_take? taken
  | close | filler | ping => exact .refl _

/-- Two channels differ at most in their writers. -/
structure SameQueue (echo other : Channel Measurement) : Prop where
  queue : echo.queue = other.queue
  reading : echo.reading = other.reading
  capacity : echo.capacity = other.capacity

/-- The moves of a sender by what they show. -/
inductive Acted (config : Config) (s : Sender) (v : View) : List Event → Sender × View → Prop where
  | begin {frame : Frame} {source : Channel Measurement} {flight : Flight} {wire : Wire}
      (choice : Choice config s v frame source) (own : flight.frame = frame)
      (same : wire.sent = v.wire.sent) :
      Acted config s v [.began frame v.now v.source]
        ({ s with activity := .writing flight v.now }, { v with source, wire })
  | land {flight : Flight} {begun : Nanos} (writing : s.activity = .writing flight begun) :
      Acted config s v [.wrote flight.frame]
        (s.written { v with wire := v.wire.deliver flight.frame v.now } flight.frame)
  | fail {activity : Activity} {source echo : Channel Measurement} {log : Log}
      (ongoing : s.activity.ongoing = true) (unechoed : s.unechoed = [])
      (stopped : activity.ongoing = false) (unfinished : ∀ result, activity ≠ .finished result)
      (left : LeftOf source v.source) (kept : SameQueue echo v.echo) :
      Acted config s v [.failed] ({ s with activity }, { v with source, echo, log })
  | hand {m : Measurement} {delivery : Delivery} {echo : Channel Measurement}
      (echoing : s.activity = .echoing m) (sent : v.echo.send? m = some (delivery, echo)) :
      Acted config s v [.handed m]
        ({ s with activity := if config.subtest = .ping then .pinging else .choosing },
          { v with echo })
  | rest {activity : Activity} {source echo : Channel Measurement} {log : Log}
      (before : s.activity.ongoing = false) (after : activity.ongoing = false)
      (left : LeftOf source v.source) (kept : SameQueue echo v.echo)
      (ended : ∀ result, activity = .finished result → source.ended = true) :
      Acted config s v [] ({ s with activity }, { v with source, echo, log })

/-- A frame is chosen by a sender that goes on and has nothing to hand on. -/
theorem Choice.ongoing {frame : Frame} {source : Channel Measurement}
    (choice : Choice config s v frame source) :
    s.activity.ongoing = true ∧ s.unechoed = [] ∧
      ∀ next, (∀ flight moment, next.1.activity = .writing flight moment →
          shown s v next = [.began flight.frame v.now v.source]) ∧
        (∀ result, next.1.activity = .draining result → shown s v next = [.failed]) := by
  have starts : s.activity = .choosing ∨ s.activity = .pinging := by
    cases choice with
    | text choosing | close choosing | filler choosing => exact .inl choosing
    | ping pinging => exact .inr pinging
  rcases starts with start | start
  all_goals
    refine ⟨by rw [start]; rfl, by rw [unechoed, start], fun next => ⟨?_, ?_⟩⟩
    · intro flight moment writing
      rw [shown, start, writing]
    · intro result draining
      rw [shown, start, draining]

/-- A sender that stops drains its source, and hangs up its echo. -/
theorem exists_stop (s : Sender) (v : View) (result : Except SendError Unit) :
    ∃ outcome log, s.stop v result =
      ({ s with activity := .draining outcome }, { v with echo := v.echo.hangUp, log }) := by
  unfold stop
  split <;> exact ⟨_, _, rfl⟩

private theorem acted_beginWrite {frame : Frame} {source : Channel Measurement}
    (choice : Choice config s v frame source) :
    Acted config s v (shown s v (s.beginWrite { v with source } frame))
      (s.beginWrite { v with source } frame) := by
  obtain ⟨ongoing, unechoed, showing⟩ := choice.ongoing
  have refused : ∀ error, Acted config s v (shown s v (s.stop { v with source } error))
      (s.stop { v with source } error) := by
    intro error
    obtain ⟨outcome, log, stopped⟩ := exists_stop s { v with source } error
    rw [stopped, (showing _).2 outcome rfl]
    exact .fail ongoing unechoed rfl nofun choice.leftOf ⟨rfl, rfl, rfl⟩
  unfold beginWrite
  split
  · exact refused _
  · split
    · exact refused _
    · rw [(showing _).1 _ _ rfl]
      rw [Wire.startWrite_frame]
      exact .begin choice (Wire.startWrite_frame _ _ _) rfl

private theorem acted_land {flight : Flight} {begun : Nanos}
    (writing : s.activity = .writing flight begun) (next : Sender × View)
    (written : next = s.written { v with wire := v.wire.deliver flight.frame v.now } flight.frame) :
    Acted config s v (shown s v next) next := by
  have showing : shown s v next = [.wrote flight.frame] := by
    subst written
    obtain ⟨frame, ends, failure⟩ := flight
    cases frame <;> simp only [shown, writing, Sender.written, stop]
  rw [showing, written]
  exact .land writing

private theorem acted_stop {flight : Flight} {begun : Nanos}
    (writing : s.activity = .writing flight begun) {error : SendError} (own : error ≠ .peerClosed) :
    Acted config s v (shown s v (s.stop v (.error error))) (s.stop v (.error error)) := by
  have showing : shown s v (s.stop v (.error error)) = [.failed] := by
    unfold stop
    split
    · next same => exact absurd (Except.error.inj same) own
    · simp only [shown, writing]
    · contradiction
  obtain ⟨outcome, log, stopped⟩ := exists_stop s v (.error error)
  rw [showing, stopped]
  exact .fail (by rw [writing]; rfl) (by rw [unechoed, writing]) rfl nofun (.refl _) ⟨rfl, rfl, rfl⟩

private theorem acted_rest (before : s.activity.ongoing = false) (result : Except SendError Unit) :
    Acted config s v (shown s v (s.stop v result)) (s.stop v result) := by
  obtain ⟨outcome, log, stopped⟩ := exists_stop s v result
  have showing : shown s v (s.stop v result) = [] := by
    rw [stopped]
    unfold shown
    split <;> simp_all [Activity.ongoing]
  rw [showing, stopped]
  exact .rest before rfl (.refl _) ⟨rfl, rfl, rfl⟩ nofun

/-- Every move of a sender is one that `Acted` describes. -/
theorem Moved.acted (moved : Moved config s v next) : Acted config s v (shown s v next) next := by
  cases moved with
  | sendNext choosing taken => exact acted_beginWrite (.text choosing taken)
  | sendClose choosing nothing ended => exact acted_beginWrite (.close choosing ended)
  | sendFiller choosing nothing goesOn download =>
      exact acted_beginWrite (.filler choosing nothing goesOn download)
  | sendPing pinging => exact acted_beginWrite (.ping pinging)
  | land writing landed whole => exact acted_land writing _ rfl
  | fail writing landed broken =>
      have showing : ∀ reason ends, shown s v ({ s with activity := .grace reason ends }, v) =
          [.failed] := by
        intro reason ends
        simp only [shown, writing]
      rw [showing]
      have nothing : s.unechoed = [] := by rw [unechoed, writing]
      exact .fail (by rw [writing]; rfl) nothing rfl nofun (.refl _) ⟨rfl, rfl, rfl⟩
  | expire writing underWay late => exact acted_stop writing nofun
  | interrupt writing closed => exact acted_stop writing nofun
  | excuse grace peerClosed => exact acted_rest (by rw [grace]; rfl) _
  | giveUp grace peerOpen late => exact acted_rest (by rw [grace]; rfl) _
  | @echo m _ _ echoing sent =>
      have showing : ∀ ping : Prop, [Decidable ping] → ∀ echo,
          shown s v ({ s with activity := if ping then .pinging else .choosing }, { v with echo }) =
            [.handed m] := by
        intro ping _ echo
        split <;> simp only [shown, echoing]
      rw [showing]
      exact .hand echoing sent
  | drain draining taken =>
      rw [shown_of_activity_eq (by rfl)]
      have resting : s.activity.ongoing = false := by rw [draining]; rfl
      refine .rest resting resting (.of_take? taken) ⟨rfl, rfl, rfl⟩ ?_
      intro result finished
      rw [draining] at finished
      cases finished
  | finish draining nothing ended =>
      have showing : ∀ result, shown s v ({ s with activity := .finished result }, v) = [] := by
        intro result
        simp only [shown, draining]
      rw [showing]
      exact .rest (by rw [draining]; rfl) rfl (.refl _) ⟨rfl, rfl, rfl⟩ fun _ _ => ended

/-- What a move of a sender leaves as it is. -/
structure Keeps (v after : View) : Prop where
  now : after.now = v.now
  connection : after.connection = v.connection
  source : ∃ queue, after.source = { v.source with queue }
  room : after.echo.capacity = v.echo.capacity
  handed : after.echo.queue.length ≤ v.echo.queue.length + 1

/-- A move takes only from the source, and adds only to the echo and the wire. -/
theorem Acted.keeps {more : List Event} (acted : Acted config s v more next) : Keeps v next.2 := by
  cases acted with
  | begin choice own same => exact ⟨rfl, rfl, choice.leftOf.same, rfl, Nat.le_succ _⟩
  | @land flight begun writing =>
      obtain ⟨frame, ends, failure⟩ := flight
      cases frame <;> exact ⟨rfl, rfl, ⟨_, rfl⟩, rfl, Nat.le_succ _⟩
  | fail ongoing unechoed stopped unfinished left kept | rest before after left kept ended =>
      exact ⟨rfl, rfl, left.same, kept.capacity, kept.queue ▸ Nat.le_succ _⟩
  | hand echoing sent =>
      refine ⟨rfl, rfl, ⟨_, rfl⟩, by rw [Channel.eq_of_send? sent], ?_⟩
      exact Channel.length_of_send? sent

/-- What can happen at a sender. -/
inductive Step (config : Config) : Sender × View → List Event → Sender × View → Prop where
  | move {s : Sender} {v : View} {next : Sender × View} (moved : next ∈ s.moves config v) :
      Step config (s, v) (shown s v next) next
  | arrive {s : Sender} {v : View} {m : Measurement} {source : Channel Measurement}
      (writers : v.source.writers ≠ 0) (sent : v.source.send? m = some (.accepted, source)) :
      Step config (s, v) [.arrived m] (s, { v with source })
  | hangUp {s : Sender} {v : View} :
      Step config (s, v) [] (s, { v with source := v.source.hangUp })
  | read {s : Sender} {v : View} {m : Measurement} {echo : Channel Measurement}
      (taken : v.echo.take? = some (m, echo)) : Step config (s, v) [.read m] (s, { v with echo })
  /-- The reader of what is handed on leaves. -/
  | leave {s : Sender} {v : View} :
      Step config (s, v) [] (s, { v with echo := v.echo.stopReading })
  /-- Time passes, the other end acts, or another holder of the connection does. -/
  | outside {s : Sender} {v : View} {now : Nanos} {connection : Connection} {wire : Wire}
      {log : Log} (later : v.now ≤ now) (sent : wire.sent = v.wire.sent) :
      Step config (s, v) [] (s, { v with now, connection, wire, log })

end Sender

end LinkGauge
