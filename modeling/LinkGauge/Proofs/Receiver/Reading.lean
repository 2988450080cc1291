import LinkGauge.Proofs.Receiver.Acting
import LinkGauge.Proofs.Run

/-!
# Runs of a receiver

A receiver runs beside the consumer of its output and whoever ends its context, closes the
connection or sends on it, any of whom may act at any moment (`Receiver.Step`). It hands on what
the arrivals say, in their order, and the peer's close is recorded exactly when everything before
it has been handed on (`Receiver.hands_on_what_is_read`).
-/

namespace LinkGauge.Receiver

variable {config : Config} {r : Receiver} {v : View} {next : Receiver × View}
  {reads : List (Nanos × Arrival)}

/-- What can happen at a receiver. -/
inductive Step (config : Config) (s : Receiver × View) : List Event → Receiver × View → Prop where
  | move {next : Receiver × View} (moved : next ∈ s.1.moves config s.2) :
      Step config s (shown s.1 s.2 next) next
  | take {received : Received} {output : Channel Received}
      (taken : s.2.output.take? = some (received, output)) :
      Step config s [.taken received] (s.1, { s.2 with output })
  /-- The consumer leaves. -/
  | leave : Step config s [] (s.1, { s.2 with output := s.2.output.stopReading })
  /-- Time passes, the context is cancelled, the connection is closed, somebody else requests the
  stop, or something is sent. -/
  | outside {now : Nanos} {context : Context} {connection : Connection} {wire : Wire}
      {stopRequested : Bool} {log : Log} (later : s.2.now ≤ now)
      (bound : context.deadline = s.2.context.deadline)
      (cancelled : s.2.context.cancelled = true → context.cancelled = true)
      (closed : s.2.connection.closed = true → connection.closed = true)
      (record : connection.peerClosed = s.2.connection.peerClosed)
      (schedule : wire.arrivals = s.2.wire.arrivals)
      (requested : s.2.stopRequested = true → stopRequested = true) :
      Step config s [] (s.1, { s.2 with now, context, connection, wire, stopRequested, log })
  /-- The peer sends something else, or at other moments. -/
  | reschedule {wire : Wire} : Step config s [.rescheduled] (s.1, { s.2 with wire })

/-- A run of a receiver and what is left of it. -/
structure Books (config : Config) (first : View) (events : List Event) (r : Receiver) (v : View) :
    Prop where
  reads : Reads config (readsOf events) (handedOf events) r
  opened : r.activity ≠ .finished → v.output.writers = 1
  ended : r.activity = .finished → v.output.writers = 0 ∧ v.stopRequested = true
  recorded : v.connection.peerClosed = true ↔ ∃ moment, (moment, Arrival.close) ∈ readsOf events
  interrupted : r.activity = .finished → Stopped config (readsOf events) ∨ Interrupted v
  whole : r.activity = .finished →
    handedOf events = decoded config [] (readsOf events) ∨ CutOff v
  delivered : v.output.reading = true →
    first.output.queue ++ handedOf events = takenOf events ++ v.output.queue
  inbound : .rescheduled ∉ events →
    first.wire.arrivals.map (·.2) = (readsOf events).map (·.2) ++ v.wire.arrivals.map (·.2)

namespace Books

variable {first : View} {events more : List Event}

private theorem start {v : View} (own : v.output.writers = 1)
    (fresh : v.connection.peerClosed = false) : Books config v [] {} v where
  reads := .start config
  opened _ := own
  ended := nofun
  recorded := by
    rw [fresh]
    exact ⟨nofun, nofun⟩
  interrupted := nofun
  whole := nofun
  delivered _ := List.append_nil _
  inbound _ := rfl

private theorem inbound_read {arrival : Arrival} {wire : Wire}
    (books : Books config first events r v) (there : v.wire.read? v.now = some (arrival, wire))
    (same : .rescheduled ∉ events ++ [.read v.now arrival]) :
    first.wire.arrivals.map (·.2) =
      (readsOf (events ++ [.read v.now arrival])).map (·.2) ++ wire.arrivals.map (·.2) := by
  obtain ⟨⟨time, -, arrivals⟩, -⟩ := Wire.read?_eq_some there
  have before := books.inbound fun early => same (List.mem_append_left _ early)
  rw [arrivals] at before
  rw [before, readsOf_concat, List.map_append, List.append_assoc]
  rfl

private theorem delivered_read {arrival : Arrival} (books : Books config first events r v)
    (there : v.output.reading = true) :
    first.output.queue ++ handedOf (events ++ [.read v.now arrival]) =
      takenOf (events ++ [.read v.now arrival]) ++ v.output.queue := by
  simpa using books.delivered there

private theorem recorded_read {arrival : Arrival} (books : Books config first events r v)
    (other : arrival ≠ .close) :
    v.connection.peerClosed = true ↔
      ∃ moment, (moment, Arrival.close) ∈ readsOf (events ++ [.read v.now arrival]) := by
  rw [books.recorded]
  refine exists_congr fun moment => ?_
  rw [readsOf_concat, List.mem_append]
  refine ⟨.inl, fun member => member.resolve_right fun last => ?_⟩
  exact other (Prod.mk.inj (List.mem_singleton.mp last)).2.symm

private theorem ne_close_of_goesOn {moment : Nanos} {arrival : Arrival}
    (goesOn : stops config (moment, arrival) = false) : arrival ≠ .close := by
  rintro rfl
  exact nomatch goesOn

private theorem stopped_of_read {arrival : Arrival} (books : Books config first events r v)
    (reading : r.activity = .reading) (last : stops config (v.now, arrival) = true) :
    Stopped config (readsOf (events ++ [.read v.now arrival])) := by
  have reached := books.reads.reached
  rw [reading] at reached
  cases reached with
  | reading going all => exact ⟨_, _, readsOf_concat _ _, going, last⟩

private theorem running_of_reading (reading : r.activity = .reading) : r.activity ≠ .finished := by
  rw [reading]
  exact nofun

private theorem running_of_emitting {received : Received}
    (emitting : r.activity = .emitting received) : r.activity ≠ .finished := by
  rw [emitting]
  exact nofun

private theorem act (books : Books config first events r v) (acted : Acted config r v more next) :
    Books config first (events ++ more) next.1 next.2 := by
  have reads := books.reads.act acted
  have whole := acted.whole books.reads
  rw [readsOf, handedOf, readsOf, handedOf, ← List.filterMap_append, ← List.filterMap_append,
    ← readsOf, ← handedOf] at reads whole
  cases acted with
  | hear reading there goesOn told =>
      have running := running_of_reading reading
      exact
        { reads
          opened := fun _ => books.opened running
          ended := fun finished => by cases finished
          recorded := books.recorded_read (ne_close_of_goesOn goesOn)
          interrupted := fun finished => by cases finished
          whole := fun finished => by cases finished
          delivered := books.delivered_read
          inbound := books.inbound_read there }
  | skip reading there goesOn nothing =>
      have running := running_of_reading reading
      exact
        { reads
          opened := fun _ => books.opened running
          ended := fun finished => by cases finished
          recorded := books.recorded_read (ne_close_of_goesOn goesOn)
          interrupted := fun finished => by cases finished
          whole := fun finished => by cases finished
          delivered := books.delivered_read
          inbound := books.inbound_read there }
  | refuse reading there last other =>
      have writers := books.opened (running_of_reading reading)
      exact
        { reads
          opened := fun running => absurd rfl running
          ended := fun _ => ⟨congrArg (· - 1) writers, rfl⟩
          recorded := books.recorded_read other
          interrupted := fun _ => .inl (books.stopped_of_read reading last)
          whole
          delivered := books.delivered_read
          inbound := books.inbound_read there }
  | close reading there =>
      have writers := books.opened (running_of_reading reading)
      have last : (v.now, Arrival.close) ∈ readsOf (events ++ [.read v.now .close]) := by
        rw [readsOf_concat]
        exact List.mem_append_right _ (List.mem_singleton_self _)
      exact
        { reads
          opened := fun running => absurd rfl running
          ended := fun _ => ⟨congrArg (· - 1) writers, rfl⟩
          recorded := ⟨fun _ => ⟨_, last⟩, fun _ => rfl⟩
          interrupted := fun _ => .inl (books.stopped_of_read reading rfl)
          whole
          delivered := books.delivered_read
          inbound := books.inbound_read there }
  | @hand received output emitting sent =>
      obtain rfl := Channel.eq_of_send?_accepted sent
      have running := running_of_emitting emitting
      exact
        { reads
          opened := fun _ => books.opened running
          ended := fun finished => by cases finished
          recorded := by simpa using books.recorded
          interrupted := fun finished => by cases finished
          whole := fun finished => by cases finished
          delivered := fun there => by
            have before := books.delivered there
            simp only [handedOf_concat, takenOf_concat, Event.handed?, Event.taken?,
              Option.toList_some, Option.toList_none, List.append_nil]
            rw [← List.append_assoc, before, List.append_assoc]
          inbound := fun same => by
            have before := books.inbound fun early => same (List.mem_append_left _ early)
            simpa using before }
  | halt reading halted =>
      have writers := books.opened (running_of_reading reading)
      rw [List.append_nil] at reads whole ⊢
      exact
        { reads
          opened := fun running => absurd rfl running
          ended := fun _ => ⟨congrArg (· - 1) writers, rfl⟩
          recorded := books.recorded
          interrupted := fun _ => .inr (halted.imp .inl id)
          whole
          delivered := books.delivered
          inbound := books.inbound }
  | lose emitting cut =>
      have writers := books.opened (running_of_emitting emitting)
      rw [List.append_nil] at reads whole ⊢
      exact
        { reads
          opened := fun running => absurd rfl running
          ended := fun _ => ⟨congrArg (· - 1) writers, rfl⟩
          recorded := books.recorded
          interrupted := fun _ => .inr (.inl cut)
          whole
          delivered := books.delivered
          inbound := books.inbound }

private theorem cutOff_mono {v w : View} (deadline : w.context.deadline = v.context.deadline)
    (later : v.now ≤ w.now) (cancelled : v.context.cancelled = true → w.context.cancelled = true)
    (gone : v.output.reading = false → w.output.reading = false) (cut : CutOff v) : CutOff w := by
  exact cut.imp (Context.isDone_mono deadline later cancelled) gone

private theorem aside {w : View} (books : Books config first events r v)
    (noReads : readsOf more = [])
    (nothing : handedOf more = []) (writers : w.output.writers = v.output.writers)
    (requested : v.stopRequested = true → w.stopRequested = true)
    (record : w.connection.peerClosed = v.connection.peerClosed) (cut : CutOff v → CutOff w)
    (closed : v.connection.closed = true → w.connection.closed = true)
    (delivered : w.output.reading = true →
      first.output.queue ++ handedOf events = takenOf (events ++ more) ++ w.output.queue)
    (inbound : .rescheduled ∉ events ++ more →
      first.wire.arrivals.map (·.2) = (readsOf events).map (·.2) ++ w.wire.arrivals.map (·.2)) :
    Books config first (events ++ more) r w := by
  have reads : readsOf (events ++ more) = readsOf events := by
    rw [readsOf, List.filterMap_append, ← readsOf, ← readsOf, noReads, List.append_nil]
  have handed : handedOf (events ++ more) = handedOf events := by
    rw [handedOf, List.filterMap_append, ← handedOf, ← handedOf, nothing, List.append_nil]
  constructor
  · rw [reads, handed]
    exact books.reads
  · rw [writers]
    exact books.opened
  · rw [writers]
    exact fun finished => (books.ended finished).imp_right requested
  · rw [reads, record]
    exact books.recorded
  · rw [reads]
    exact fun finished => (books.interrupted finished).imp_right (Or.imp cut closed)
  · rw [reads, handed]
    exact fun finished => (books.whole finished).imp_right cut
  · rw [handed]
    exact delivered
  · rw [reads]
    exact inbound

private theorem step {s : Receiver × View} (books : Books config first events r v)
    (step : Step config (r, v) more s) : Books config first (events ++ more) s.1 s.2 := by
  have early : ∀ {event}, event ∉ events ++ more → event ∉ events :=
    fun missing member => missing (List.mem_append_left _ member)
  cases step with
  | move moved => exact books.act (mem_moves_iff.mp moved).acted
  | @take received output taken =>
      obtain ⟨queued, same⟩ := Channel.take?_eq_some taken
      dsimp only at queued same
      refine books.aside rfl rfl (by rw [same]) id rfl
        (Or.imp_right fun left => by rw [same]; exact left) id (fun there => ?_)
        fun kept => books.inbound (early kept)
      have before := books.delivered (by rw [same] at there; exact there)
      rw [takenOf_concat, List.append_assoc, before, queued]
      rfl
  | leave =>
      exact books.aside rfl rfl rfl id rfl (fun _ => .inr rfl) id nofun
        fun kept => books.inbound (early kept)
  | outside later bound cancelled closed record schedule requested =>
      refine books.aside rfl rfl rfl requested record (cutOff_mono bound later cancelled id) closed
        (fun there => ?_) fun kept => ?_
      · rw [List.append_nil]
        exact books.delivered there
      · rw [schedule]
        exact books.inbound (early kept)
  | reschedule =>
      refine books.aside rfl rfl rfl id rfl id id (fun there => ?_) fun kept => ?_
      · simpa using books.delivered there
      · exact absurd (List.mem_append_right _ (List.mem_singleton_self _)) kept

end Books

private theorem books_of_run {first w : View} {events : List Event} (own : first.output.writers = 1)
    (fresh : first.connection.peerClosed = false)
    (run : Run (Step config) ({}, first) events (r, w)) : Books config first events r w :=
  run.keeps (fun events s => Books config first events s.1 s.2) (.start own fresh)
    fun books step => books.step step

private theorem decoded_beforeStop (placed : Going config reads ∨ Stopped config reads) :
    decoded config [] (beforeStop config reads) = decoded config [] reads := by
  rcases placed with going | ⟨before, last, rfl, going, stop⟩
  · rw [beforeStop_of_going going]
  · rw [beforeStop_concat going stop, decoded_concat, received?_of_stops stop]
    exact (List.append_nil _).symm

/-- **What a receiver hands on.** At every moment of every run, nothing is read after the first
arrival that stops the receiver, and a beginning of what the arrivals before it say has been
handed on, in their order; it is the whole of it once that arrival is read, and unless something
interrupts the receiver, it is read before the receiver finishes. The peer's close is recorded
exactly when the last arrival read is a close frame. A receiver that has finished has ended its
output and requested the stop, and one that has not can move or waits for its consumer or the
peer, with less to do after every move. -/
theorem hands_on_what_is_read {first w : View} {events : List Event}
    (own : first.output.writers = 1) (fresh : first.connection.peerClosed = false)
    (run : Run (Step config) ({}, first) events (r, w)) :
    (readsOf events = beforeStop config (readsOf events) ∨
        ∃ last, stops config last = true ∧
          readsOf events = beforeStop config (readsOf events) ++ [last]) ∧
      handedOf events <+: decoded config [] (beforeStop config (readsOf events)) ∧
      (Stopped config (readsOf events) →
        r.activity = .finished ∧
          handedOf events = decoded config [] (beforeStop config (readsOf events))) ∧
      (r.activity = .finished →
        (Stopped config (readsOf events) ∨ Interrupted w) ∧
          (handedOf events = decoded config [] (beforeStop config (readsOf events)) ∨
            CutOff w) ∧
          w.output.writers = 0 ∧ w.stopRequested = true) ∧
      (w.connection.peerClosed = true ↔
        ∃ moment, readsOf events = beforeStop config (readsOf events) ++ [(moment, .close)]) ∧
      (w.output.reading = true →
        first.output.queue ++ handedOf events = takenOf events ++ w.output.queue) ∧
      (.rescheduled ∉ events →
        first.wire.arrivals.map (·.2) =
          (readsOf events).map (·.2) ++ w.wire.arrivals.map (·.2)) ∧
      (r.moves config w = [] → r.activity = .finished ∨
        (∃ received, r.activity = .emitting received ∧ w.output.ready = false) ∨
        (r.activity = .reading ∧ w.wire.read? w.now = none)) ∧
      ∀ next ∈ r.moves config w, work next.1 next.2 < work r w := by
  have books := books_of_run own fresh run
  have reached := books.reads.reached
  have placed := reached.placed
  rw [decoded_beforeStop placed]
  refine ⟨?_, reached.in_order, reached.of_stopped, fun finished => ?_, ?_, books.delivered,
    books.inbound, fun stuck => ?_, fun next moved => (mem_moves_iff.mp moved).acted.work_lt⟩
  · rcases placed with going | ⟨before, last, split, going, stop⟩
    · exact .inl (beforeStop_of_going going).symm
    · refine .inr ⟨last, stop, ?_⟩
      rw [split, beforeStop_concat going stop]
  · exact ⟨books.interrupted finished, books.whole finished, books.ended finished⟩
  · rw [books.recorded]
    refine exists_congr fun moment => ⟨fun member => ?_, fun split => ?_⟩
    · rcases placed with going | ⟨before, last, split, going, stop⟩
      · exact nomatch going _ member
      · rw [split] at member ⊢
        rw [beforeStop_concat going stop]
        rcases List.mem_append.mp member with early | here
        · exact nomatch going _ early
        · rw [List.mem_singleton.mp here]
    · rw [split]
      exact List.mem_append_right _ (List.mem_singleton_self _)
  · rcases resting stuck with finished | ⟨received, emitting, full, -⟩ | ⟨reading, nothing, -⟩
    · exact .inl finished
    · exact .inr (.inl ⟨received, emitting, full⟩)
    · exact .inr (.inr ⟨reading, nothing⟩)

/-- A receiver whose peer sends an empty measurement and closes. -/
def briefPeer : View where
  now := 0
  context := ⟨seconds 1, false⟩
  connection := {}
  wire := { arrivals := [(0, .text "\x7b\x7d"), (0, .close)] }
  output := {}
  stopRequested := false
  log := []

/-- A receiver that moves while it can. -/
def alone (config : Config) : Machine (Receiver × View) where
  step? s := (s.1.moves config s.2).head?
  alarms _ := []
  now s := s.2.now
  advance s now := (s.1, { s.2 with now })

/-- The close of the peer is recorded, and everything before it is handed on. -/
theorem hands_on_what_is_read_briefPeer : ∃ events r w,
    briefPeer.output.writers = 1 ∧ briefPeer.connection.peerClosed = false ∧
      Run (Step { subtest := .download }) ({}, briefPeer) events (r, w) ∧
      ∃ before moment, readsOf events = before ++ [(moment, .close)] ∧
        handedOf events = decoded { subtest := .download } [] before := by
  let config : Config := { subtest := .download }
  obtain ⟨events, run⟩ : ∃ events,
      Run (Step config) ({}, briefPeer) events ((alone config).settle 3 ({}, briefPeer)) :=
    Run.stay.settle (alone config) (fun _ moved => ⟨_, .move (List.mem_of_mem_head? moved)⟩) 3
  obtain ⟨-, -, whole, -, recorded, -⟩ := hands_on_what_is_read rfl rfl run
  have closed : ((alone config).settle 3 ({}, briefPeer)).2.connection.peerClosed = true := by
    decide +kernel
  obtain ⟨moment, split⟩ := recorded.mp closed
  have stopped : Stopped config (readsOf events) := ⟨_, _, split, going_beforeStop _ _, rfl⟩
  exact ⟨events, _, _, rfl, rfl, run, _, moment, split, (whole stopped).2⟩

end LinkGauge.Receiver
