import LinkGauge.Proofs.Sender.Trace

/-!
# What a sender writes

Every frame that a sender writes is due after what happened before it (`Sender.Due`): the
measurements come in the order of the source, none left out, and the close frame comes behind the
last of them. Nothing is written after the close frame or after a failed write
(`Sender.Lawful`). The books that lead to this hold along every run (`Sender.books_of_run`).
-/

namespace LinkGauge.Sender

/-- The measurement as it is written: a download puts in the bytes of filler sent before it. -/
def Config.framed (config : Config) (sent : Nat) (moment : Nanos) (m : Measurement) :
    Measurement :=
  if config.subtest = .download then
    { m with
      appInfo := some
        { numBytes := Int64.ofInt sent
          elapsedTime := micros (elapsedSince config.start moment) } }
  else m

/-- When a frame may be written that was chosen at that moment and from that source; `first` is
what the source held at the start. -/
def Due (config : Config) (first : List Measurement) (early : List Event) (moment : Nanos)
    (source : Channel Measurement) : Frame → Prop
  | .text m => ∃ original,
      (first ++ arrivedOf early)[(textsOf early).length]? = some original ∧
        m = config.framed (fillerOf early) moment original
  | .binary _ => config.subtest = .download ∧ source.queue = [] ∧ source.writers ≠ 0
  | .ping _ => config.subtest = .ping
  | .close => source.ended = true ∧ (textsOf early).length = (first ++ arrivedOf early).length

/-- When an event may happen. -/
def Lawful (config : Config) (first : List Measurement) (early : List Event) : Event → Prop
  | .began _ _ _ | .failed | .handed _ => Ongoing early
  | .wrote frame => Ongoing early ∧ ∃ moment source,
      chosen? early = some (frame, moment, source) ∧ Due config first early moment source frame
  | .arrived _ | .read _ => True

/-- The measurement whose write is under way. -/
def inFlight (s : Sender) : List Measurement :=
  match s.activity with
  | .writing flight _ => flight.frame.text?.toList
  | _ => []

/-- What has happened, against where the sender stands. -/
structure Books (config : Config) (first : View) (events : List Event) (s : Sender) (v : View) :
    Prop where
  timely : Timely (Lawful config first.source.queue) events
  frames : v.wire.frames = first.wire.frames ++ writtenOf events
  handed : textsOf events = handedOf events ++ s.unechoed
  echoed : v.echo.reading = true →
    first.echo.queue ++ handedOf events = readOf events ++ v.echo.queue
  ongoing : s.activity.ongoing = true ↔ Ongoing events
  total : s.filler.total = fillerOf events
  /-- What was taken from the source has been written or is being written, until writing stops. -/
  taken : ∃ taken, first.source.queue ++ arrivedOf events = taken ++ v.source.queue ∧
    (textsOf events).length + s.inFlight.length ≤ taken.length ∧
    (s.activity.ongoing = true → (textsOf events).length + s.inFlight.length = taken.length)
  writing : ∀ flight begun, s.activity = .writing flight begun →
    (∃ source, chosen? events = some (flight.frame, begun, source) ∧
      Due config first.source.queue events begun source flight.frame) ∧
    (∀ size, flight.frame = .binary size → size = s.filler.size) ∧
    (flight.frame = .close → v.source.ended = true)
  pinging : s.activity = .pinging → config.subtest = .ping
  closed : .wrote .close ∈ events → v.source.ended = true ∧
    (textsOf events).length = (first.source.queue ++ arrivedOf events).length
  finished : ∀ result, s.activity = .finished result → v.source.ended = true

/-- What has happened once a frame has been written, before the sender goes on. -/
structure Landed (config : Config) (first : View) (events : List Event) (frame : Frame)
    (v : View) : Prop where
  going : Ongoing events
  timely : Timely (Lawful config first.source.queue) (events ++ [.wrote frame])
  frames : (v.wire.deliver frame v.now).frames =
    first.wire.frames ++ writtenOf (events ++ [.wrote frame])
  handed : textsOf (events ++ [.wrote frame]) =
    handedOf (events ++ [.wrote frame]) ++ frame.text?.toList
  echoed : v.echo.reading = true →
    first.echo.queue ++ handedOf (events ++ [.wrote frame]) =
      readOf (events ++ [.wrote frame]) ++ v.echo.queue
  taken : ∃ taken,
    first.source.queue ++ arrivedOf (events ++ [.wrote frame]) = taken ++ v.source.queue ∧
      (textsOf (events ++ [.wrote frame])).length = taken.length

variable {config : Config} {first v : View} {s : Sender} {events : List Event}

private theorem Due.later {before : List Measurement} {early : List Event} {event : Event}
    {moment : Nanos} {source : Channel Measurement} {frame : Frame}
    (due : Due config before early moment source frame) (silent : event.wrote? = none)
    (closed : frame = .close → event.arrived? = none) :
    Due config before (early ++ [event]) moment source frame := by
  have texts : textsOf (early ++ [event]) = textsOf early := by
    rw [textsOf_concat, silent, Option.bind_none, Option.toList_none, List.append_nil]
  have filler : fillerOf (early ++ [event]) = fillerOf early := by
    rw [fillerOf_concat, silent, Option.elim_none, Nat.add_zero]
  cases frame with
  | text m =>
      obtain ⟨original, there, framed⟩ := due
      obtain ⟨inside, -⟩ := List.getElem?_eq_some_iff.mp there
      refine ⟨original, ?_, filler ▸ framed⟩
      rw [texts, arrivedOf_concat, ← List.append_assoc, List.getElem?_append_left inside, there]
  | binary size => exact due
  | ping stamp => exact due
  | close =>
      obtain ⟨ended, all⟩ := due
      refine ⟨ended, ?_⟩
      rw [texts, arrivedOf_concat, closed rfl, Option.toList_none, List.append_nil, all]

private theorem activity_new (config : Config) :
    (new config).activity = .choosing ∨
      (new config).activity = .pinging ∧ config.subtest = .ping := by
  rw [new]
  dsimp only
  split
  · next ping => exact .inr ⟨rfl, ping⟩
  · exact .inl rfl

/-- A sender that begins has its books. -/
theorem books_new (config : Config) (v : View) : Books config v [] (new config) v := by
  have starts := activity_new config
  have nothing : (new config).unechoed = [] ∧ (new config).inFlight = [] ∧
      (new config).activity.ongoing = true := by
    rcases starts with choosing | ⟨pinging, -⟩ <;> simp [unechoed, inFlight, Activity.ongoing, *]
  obtain ⟨unechoed, landed, ongoing⟩ := nothing
  exact
    { timely := .nil
      frames := (List.append_nil _).symm
      handed := by rw [unechoed]; rfl
      echoed := fun _ => List.append_nil _
      ongoing := ⟨fun _ => ⟨List.not_mem_nil, List.not_mem_nil⟩, fun _ => ongoing⟩
      total := rfl
      taken := ⟨[], List.append_nil _, by rw [landed]; exact ⟨Nat.le_refl _, fun _ => rfl⟩⟩
      writing := fun flight begun writing => by simp [writing] at starts
      pinging := fun pinging => by simp [pinging] at starts; exact starts
      closed := fun wrote => absurd wrote List.not_mem_nil
      finished := fun result finished => by simp [finished] at starts }

private theorem Choice.inFlight_eq_nil {frame : Frame} {source : Channel Measurement}
    (choice : Choice config s v frame source) : s.inFlight = [] := by
  cases choice <;> simp only [inFlight, *]

private theorem Choice.taken {frame : Frame} {source : Channel Measurement}
    (choice : Choice config s v frame source) :
    ∃ taken, v.source.queue = taken ++ source.queue ∧ taken.length = frame.text?.toList.length := by
  cases choice with
  | text choosing takes => exact ⟨[_], (Channel.take?_eq_some takes).1, rfl⟩
  | close | filler | ping => exact ⟨[], rfl, rfl⟩

private theorem Choice.of_binary {size : Nat} {source : Channel Measurement}
    (choice : Choice config s v (.binary size) source) : size = s.filler.size := by
  cases choice
  rfl

private theorem Choice.of_close {source : Channel Measurement}
    (choice : Choice config s v .close source) : source.ended = true := by
  cases choice with
  | close choosing ended => exact ended

private theorem nothing_of_stopped {activity : Activity} (stopped : activity.ongoing = false)
    (filler : Filler) :
    (⟨activity, filler⟩ : Sender).unechoed = [] ∧ (⟨activity, filler⟩ : Sender).inFlight = [] := by
  cases activity <;> simp_all [Activity.ongoing, unechoed, inFlight]

namespace Books

private theorem due_of_choice (books : Books config first events s v) {frame : Frame}
    {source : Channel Measurement} (choice : Choice config s v frame source) :
    Due config first.source.queue events v.now v.source frame := by
  have ongoing := choice.ongoing.1
  obtain ⟨taken, conserved, -, all⟩ := books.taken
  have all := all ongoing
  rw [choice.inFlight_eq_nil, List.length_nil, Nat.add_zero] at all
  cases choice with
  | @text m source choosing takes =>
      refine ⟨m, ?_, ?_⟩
      · rw [conserved, (Channel.take?_eq_some takes).1, all]
        simp
      · rw [← books.total]
        rfl
  | close choosing ended =>
      refine ⟨ended, ?_⟩
      rw [conserved, (Channel.ended_iff.mp ended).1, List.append_nil, all]
  | filler choosing nothing goesOn download =>
      have empty := Channel.take?_eq_none_iff.mp nothing
      refine ⟨download, empty, fun closed => ?_⟩
      rw [Channel.ended_iff.mpr ⟨empty, closed⟩] at goesOn
      cases goesOn
  | ping pinging => exact books.pinging pinging

private theorem begin (books : Books config first events s v) {frame : Frame}
    {source : Channel Measurement} {flight : Flight} {wire : Wire}
    (choice : Choice config s v frame source) (own : flight.frame = frame)
    (same : wire.sent = v.wire.sent) :
    Books config first (events ++ [.began frame v.now v.source])
      { s with activity := .writing flight v.now } { v with source, wire } := by
  subst own
  have due := books.due_of_choice choice
  obtain ⟨ongoing, nothing, -⟩ := choice.ongoing
  have going := books.ongoing.mp ongoing
  exact
    { timely := books.timely.concat going
      frames := by
        rw [Wire.frames_congr same, books.frames]
        simp
      handed := by
        have handed := books.handed
        rw [nothing] at handed
        simpa [unechoed] using handed
      echoed := by simpa using books.echoed
      ongoing := by simpa [Activity.ongoing] using going
      total := by simpa using books.total
      taken := by
        obtain ⟨taken, conserved, -, all⟩ := books.taken
        obtain ⟨one, queued, length⟩ := choice.taken
        have all := all ongoing
        rw [choice.inFlight_eq_nil, List.length_nil, Nat.add_zero] at all
        have whole : (taken ++ one).length =
            (textsOf events).length + flight.frame.text?.toList.length := by
          rw [List.length_append, length, all]
        refine ⟨taken ++ one, ?_, ?_⟩
        · rw [List.append_assoc, ← queued, ← conserved]
          simp
        · simp [inFlight, whole]
      writing := by
        rintro _ _ ⟨⟩
        refine ⟨⟨v.source, ?_, due.later rfl fun _ => rfl⟩, fun size binary => ?_, fun close => ?_⟩
        · simp
        · rw [binary] at choice
          exact choice.of_binary
        · rw [close] at choice
          exact choice.of_close
      pinging := nofun
      closed := fun wrote => absurd wrote (by simpa using going.2)
      finished := nofun }

private theorem landed (books : Books config first events s v) {flight : Flight} {begun : Nanos}
    (writing : s.activity = .writing flight begun) :
    Landed config first events flight.frame v where
  going := books.ongoing.mp (by rw [writing]; rfl)
  timely := by
    obtain ⟨⟨source, chosen, due⟩, -⟩ := books.writing flight begun writing
    have going := books.ongoing.mp (by rw [writing]; rfl)
    exact books.timely.concat ⟨going, begun, source, chosen, due⟩
  frames := by
    rw [Wire.frames_deliver, books.frames]
    simp
  handed := by
    have handed := books.handed
    simp only [unechoed, writing, List.append_nil] at handed
    simp [handed]
  echoed := by simpa using books.echoed
  taken := by
    obtain ⟨taken, conserved, -, all⟩ := books.taken
    have all := all (by rw [writing]; rfl)
    simp only [inFlight, writing] at all
    exact ⟨taken, by simpa using conserved, by simpa using all⟩

end Books

private theorem Landed.goesOn {frame : Frame} (landed : Landed config first events frame v)
    (other : frame ≠ .close) (ongoing : s.activity.ongoing = true) (nothing : s.inFlight = [])
    (unechoed : s.unechoed = frame.text?.toList)
    (total : s.filler.total = fillerOf (events ++ [.wrote frame]))
    (notWriting : ∀ flight begun, s.activity ≠ .writing flight begun)
    (notPinging : s.activity ≠ .pinging) :
    Books config first (events ++ [.wrote frame]) s
      { v with wire := v.wire.deliver frame v.now } where
  timely := landed.timely
  frames := landed.frames
  handed := by rw [unechoed, landed.handed]
  echoed := landed.echoed
  ongoing := iff_of_true ongoing (by simp [landed.going, other])
  total := total
  taken := by
    obtain ⟨taken, conserved, all⟩ := landed.taken
    refine ⟨taken, conserved, ?_⟩
    rw [nothing, List.length_nil, Nat.add_zero]
    exact ⟨Nat.le_of_eq all, fun _ => all⟩
  writing flight begun writing := absurd writing (notWriting flight begun)
  pinging pinging := absurd pinging notPinging
  closed wrote := absurd wrote (by simpa [eq_comm, other] using landed.going.2)
  finished result finished := by
    rw [finished] at ongoing
    cases ongoing

private theorem Landed.stops (landed : Landed config first events .close v)
    (total : s.filler.total = fillerOf events) (closed : v.source.ended = true) :
    Books config first (events ++ [.wrote .close]) { s with activity := .draining (.ok ()) }
      { v with wire := v.wire.deliver .close v.now, echo := v.echo.hangUp } := by
  obtain ⟨taken, conserved, all⟩ := landed.taken
  obtain ⟨empty, -⟩ := Channel.ended_iff.mp closed
  exact
    { timely := landed.timely
      frames := landed.frames
      handed := landed.handed
      echoed := landed.echoed
      ongoing := by simp [Activity.ongoing]
      total := by simpa [Frame.filler] using total
      taken := ⟨taken, conserved, Nat.le_of_eq all, fun _ => all⟩
      writing := by simp
      pinging := by simp
      closed := fun _ => by
        refine ⟨closed, ?_⟩
        rw [conserved, empty, List.append_nil, all]
      finished := by simp }

namespace Books

private theorem land (books : Books config first events s v) {flight : Flight} {begun : Nanos}
    (writing : s.activity = .writing flight begun) :
    let next := s.written { v with wire := v.wire.deliver flight.frame v.now } flight.frame
    Books config first (events ++ [.wrote flight.frame]) next.1 next.2 := by
  have landed := books.landed writing
  obtain ⟨-, sized, ended⟩ := books.writing flight begun writing
  obtain ⟨frame, ends, failure⟩ := flight
  dsimp only at *
  cases frame with
  | text m =>
      refine landed.goesOn (by simp) rfl rfl rfl ?_ (by simp [written]) (by simp [written])
      simp [written, books.total, Frame.filler]
  | binary size =>
      refine landed.goesOn (by simp) rfl rfl rfl ?_ (by simp [written]) (by simp [written])
      rw [fillerOf_concat, ← books.total, sized size rfl]
      simp only [written, Filler.sent]
      split
      · rfl
      · split <;> rfl
  | ping stamp =>
      refine landed.goesOn (by simp) rfl rfl rfl ?_ (by simp [written]) (by simp [written])
      simp [written, books.total, Frame.filler]
  | close => exact landed.stops books.total (ended rfl)

private theorem left (books : Books config first events s v) {source : Channel Measurement}
    (left : LeftOf source v.source) :
    ∃ taken, first.source.queue ++ arrivedOf events = taken ++ source.queue ∧
      (textsOf events).length ≤ taken.length := by
  obtain ⟨taken, conserved, enough, -⟩ := books.taken
  obtain ⟨lost, queued⟩ := left.queue
  refine ⟨taken ++ lost, ?_, ?_⟩
  · rw [conserved, ← queued, List.append_assoc]
  · rw [List.length_append]
    omega

private theorem fail (books : Books config first events s v) {activity : Activity}
    {source echo : Channel Measurement} {log : Log} (ongoing : s.activity.ongoing = true)
    (unechoed : s.unechoed = []) (stopped : activity.ongoing = false)
    (unfinished : ∀ result, activity ≠ .finished result) (left : LeftOf source v.source)
    (kept : SameQueue echo v.echo) :
    Books config first (events ++ [.failed]) { s with activity } { v with source, echo, log } := by
  have going := books.ongoing.mp ongoing
  obtain ⟨nothing, landed⟩ := nothing_of_stopped stopped s.filler
  exact
    { timely := books.timely.concat going
      frames := by simpa using books.frames
      handed := by
        have handed := books.handed
        rw [unechoed] at handed
        rw [nothing]
        simpa using handed
      echoed := by simpa [kept.queue, kept.reading] using books.echoed
      ongoing := by simp [stopped]
      total := by simpa using books.total
      taken := by
        obtain ⟨taken, conserved, enough⟩ := books.left left
        refine ⟨taken, by simpa using conserved, ?_, by simp [stopped]⟩
        rw [landed]
        simpa using enough
      writing := fun flight begun writing =>
        nomatch stopped.symm.trans (congrArg Activity.ongoing writing)
      pinging := fun pinging => nomatch stopped.symm.trans (congrArg Activity.ongoing pinging)
      closed := fun wrote => absurd wrote (by simpa using going.2)
      finished := fun result finished => absurd finished (unfinished result) }

private theorem rest (books : Books config first events s v) {activity : Activity}
    {source echo : Channel Measurement} {log : Log} (before : s.activity.ongoing = false)
    (after : activity.ongoing = false) (left : LeftOf source v.source)
    (kept : SameQueue echo v.echo)
    (ended : ∀ result, activity = .finished result → source.ended = true) :
    Books config first events { s with activity } { v with source, echo, log } := by
  obtain ⟨nothing, landed⟩ := nothing_of_stopped after s.filler
  exact
    { timely := books.timely
      frames := books.frames
      handed := by
        rw [nothing, books.handed, (nothing_of_stopped before s.filler).1]
      echoed := by simpa only [kept.queue, kept.reading] using books.echoed
      ongoing := by simp only [after, ← books.ongoing, before]
      total := books.total
      taken := by
        obtain ⟨taken, conserved, enough⟩ := books.left left
        refine ⟨taken, conserved, ?_, by simp [after]⟩
        rw [landed]
        simpa using enough
      writing := fun flight begun writing =>
        nomatch after.symm.trans (congrArg Activity.ongoing writing)
      pinging := fun pinging => nomatch after.symm.trans (congrArg Activity.ongoing pinging)
      closed := fun wrote => by
        obtain ⟨closed, all⟩ := books.closed wrote
        exact ⟨left.ended closed, all⟩
      finished := ended }

/-- What has been written is handed on, and the sender goes on to its next frame. -/
private theorem handTo (books : Books config first events s v) {m : Measurement}
    {delivery : Delivery}
    {echo : Channel Measurement} {activity : Activity} (echoing : s.activity = .echoing m)
    (sent : v.echo.send? m = some (delivery, echo))
    (next : activity = .choosing ∨ activity = .pinging ∧ config.subtest = .ping) :
    Books config first (events ++ [.handed m]) { s with activity } { v with echo } := by
  have going := books.ongoing.mp (by rw [echoing]; rfl)
  have facts : activity.ongoing = true ∧ (⟨activity, s.filler⟩ : Sender).unechoed = [] ∧
      (⟨activity, s.filler⟩ : Sender).inFlight = [] ∧
      (∀ flight begun, activity ≠ .writing flight begun) ∧
      ∀ result, activity ≠ .finished result := by
    rcases next with rfl | ⟨rfl, -⟩ <;> simp [Activity.ongoing, unechoed, inFlight]
  obtain ⟨ongoing, nothing, landed, notWriting, unfinished⟩ := facts
  exact
    { timely := books.timely.concat going
      frames := by simpa using books.frames
      handed := by
        have handed := books.handed
        simp only [unechoed, echoing] at handed
        rw [nothing]
        simpa using handed
      echoed := fun reading => by
        have before : v.echo.reading = true := by
          rw [Channel.eq_of_send? sent] at reading
          exact reading
        obtain ⟨-, -, rfl⟩ := Channel.send?_eq_some before sent
        simp [← List.append_assoc, books.echoed before]
      ongoing := by simpa [ongoing] using going
      total := by simpa using books.total
      taken := by
        obtain ⟨taken, conserved, -, all⟩ := books.taken
        have all := all (by rw [echoing]; rfl)
        simp only [inFlight, echoing, List.length_nil, Nat.add_zero] at all
        refine ⟨taken, by simpa using conserved, ?_⟩
        rw [landed]
        simp [all]
      writing := fun flight begun writing => absurd writing (notWriting flight begun)
      pinging := fun pinging => by
        rcases next with choosing | ⟨-, ping⟩
        · cases choosing.symm.trans pinging
        · exact ping
      closed := fun wrote => absurd wrote (by simpa using going.2)
      finished := fun result finished => absurd finished (unfinished result) }

private theorem hand (books : Books config first events s v) {m : Measurement} {delivery : Delivery}
    {echo : Channel Measurement} (echoing : s.activity = .echoing m)
    (sent : v.echo.send? m = some (delivery, echo)) :
    Books config first (events ++ [.handed m])
      { s with activity := if config.subtest = .ping then .pinging else .choosing }
      { v with echo } := by
  by_cases ping : config.subtest = .ping
  · rw [if_pos ping]
    exact books.handTo echoing sent (.inr ⟨rfl, ping⟩)
  · rw [if_neg ping]
    exact books.handTo echoing sent (.inl rfl)

private theorem act (books : Books config first events s v) {more : List Event}
    {next : Sender × View}
    (acted : Acted config s v more next) : Books config first (events ++ more) next.1 next.2 := by
  cases acted with
  | begin choice own same => exact books.begin choice own same
  | land writing => exact books.land writing
  | fail ongoing unechoed stopped unfinished left kept =>
      exact books.fail ongoing unechoed stopped unfinished left kept
  | hand echoing sent => exact books.hand echoing sent
  | rest before after left kept ended =>
      rw [List.append_nil]
      exact books.rest before after left kept ended

private theorem arrive (books : Books config first events s v) {m : Measurement}
    {source : Channel Measurement} (writers : v.source.writers ≠ 0)
    (sent : v.source.send? m = some (.accepted, source)) :
    Books config first (events ++ [.arrived m]) s { v with source } := by
  have unended : v.source.ended ≠ true := fun ended => writers (Channel.ended_iff.mp ended).2
  obtain ⟨taken, conserved, enough, all⟩ := books.taken
  have queued : source.queue = v.source.queue ++ [m] := by
    rw [Channel.eq_of_send?_accepted sent]
  exact
    { timely := books.timely.concat trivial
      frames := by simpa using books.frames
      handed := by simpa using books.handed
      echoed := by simpa using books.echoed
      ongoing := by simpa using books.ongoing
      total := by simpa using books.total
      taken := by
        refine ⟨taken, ?_, by simpa using enough, by simpa using all⟩
        rw [queued, arrivedOf_concat, ← List.append_assoc, conserved, List.append_assoc]
        rfl
      writing := fun flight begun writing => by
        obtain ⟨⟨chosenFrom, chosen, due⟩, sized, ended⟩ := books.writing flight begun writing
        refine ⟨⟨chosenFrom, by simpa using chosen, due.later rfl fun close => ?_⟩, sized, ?_⟩
        · exact absurd (ended close) unended
        · exact fun close => absurd (ended close) unended
      pinging := books.pinging
      closed := fun wrote => absurd (books.closed (by simpa using wrote)).1 unended
      finished := fun result finished => absurd (books.finished result finished) unended }

private theorem around (books : Books config first events s v) {other : View}
    (frames : other.wire.frames = v.wire.frames) (queue : other.source.queue = v.source.queue)
    (ended : v.source.ended = true → other.source.ended = true)
    (echoed : other.echo.reading = true →
      v.echo.reading = true ∧ other.echo.queue = v.echo.queue) :
    Books config first events s other where
  timely := books.timely
  frames := frames.trans books.frames
  handed := books.handed
  echoed reading := by
    obtain ⟨before, same⟩ := echoed reading
    rw [same, books.echoed before]
  ongoing := books.ongoing
  total := books.total
  taken := by
    rw [queue]
    exact books.taken
  writing flight begun writing := by
    obtain ⟨due, sized, closing⟩ := books.writing flight begun writing
    exact ⟨due, sized, fun close => ended (closing close)⟩
  pinging := books.pinging
  closed wrote := by
    obtain ⟨closed, all⟩ := books.closed wrote
    exact ⟨ended closed, all⟩
  finished result finished := ended (books.finished result finished)

private theorem read (books : Books config first events s v) {m : Measurement}
    {echo : Channel Measurement} (taken : v.echo.take? = some (m, echo)) :
    Books config first (events ++ [.read m]) s { v with echo } := by
  obtain ⟨queued, same⟩ := Channel.take?_eq_some taken
  exact
    { timely := books.timely.concat trivial
      frames := by simpa using books.frames
      handed := by simpa using books.handed
      echoed := fun reading => by
        rw [same] at reading
        have echoed := books.echoed reading
        rw [queued] at echoed
        simpa using echoed
      ongoing := by simpa using books.ongoing
      total := by simpa using books.total
      taken := by simpa using books.taken
      writing := fun flight begun writing => by
        obtain ⟨⟨chosenFrom, chosen, due⟩, sized, ended⟩ := books.writing flight begun writing
        exact ⟨⟨chosenFrom, by simpa using chosen, due.later rfl fun _ => rfl⟩, sized, ended⟩
      pinging := books.pinging
      closed := by simpa using books.closed
      finished := books.finished }

/-- Every step keeps the books. -/
theorem step (books : Books config first events s v) {more : List Event} {next : Sender × View}
    (step : Step config (s, v) more next) :
    Books config first (events ++ more) next.1 next.2 := by
  cases step with
  | move moved => exact books.act (mem_moves_iff.mp moved).acted
  | arrive writers sent => exact books.arrive writers sent
  | hangUp =>
      rw [List.append_nil]
      exact books.around rfl rfl Channel.ended_hangUp fun reading => ⟨reading, rfl⟩
  | read taken => exact books.read taken
  | leave =>
      rw [List.append_nil]
      exact books.around rfl rfl id nofun
  | outside later sent =>
      rw [List.append_nil]
      exact books.around (Wire.frames_congr sent) rfl id fun reading => ⟨reading, rfl⟩

end Books

/-- A sender with a result has finished. -/
theorem finished_of_result? (returned : s.result?.isSome = true) :
    ∃ result, s.activity = .finished result := by
  unfold result? at returned
  split at returned
  · next result finished => exact ⟨result, finished⟩
  · cases returned

/-- A sender that has finished without a failed write has written the close frame. -/
theorem Books.closed_of_returned (books : Books config first events s v)
    (returned : s.result?.isSome = true) (unfailed : .failed ∉ events) :
    .wrote .close ∈ events := by
  obtain ⟨result, finished⟩ := finished_of_result? returned
  refine Classical.byContradiction fun unclosed => ?_
  have ongoing := books.ongoing.mpr ⟨unfailed, unclosed⟩
  rw [finished] at ongoing
  cases ongoing

/-- A sender has its books on every run. -/
theorem books_of_run {first : View} {next : Sender × View}
    (run : Run (Step config) (new config, first) events next) :
    Books config first events next.1 next.2 :=
  run.keeps (fun events next => Books config first events next.1 next.2) (books_new config first)
    fun books step => books.step step

end LinkGauge.Sender
