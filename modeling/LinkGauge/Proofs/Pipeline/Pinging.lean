import LinkGauge.Proofs.Mux.Joining
import LinkGauge.Proofs.Pipeline.Step
import LinkGauge.Proofs.Sender.Exchange
import LinkGauge.Proofs.Sender.Progress

/-!
# The accounts of a ping run

In a ping run the multiplexer releases at most one measurement for each echo that it takes from
the receiver, and the sender writes at most one measurement and one ping for each of these. Seen
from the sender a ping run is one of its own runs (`Pipeline.Pinging.step`); so the frames on the
wire are the beginning of an exchange with no more measurements than echoes
(`Pipeline.pings_answered`).
-/

namespace LinkGauge.Pipeline

/-- What happens in a ping run. -/
inductive PingEvent where
  /-- The multiplexer takes an echo from the receiver. -/
  | echo (sample : Measurement)
  /-- Something happens at the sender. -/
  | sender (event : Sender.Event)

def PingEvent.echo? : PingEvent → Option Measurement
  | .echo sample => some sample
  | .sender _ => none

def PingEvent.sender? : PingEvent → Option Sender.Event
  | .echo _ => none
  | .sender event => some event

def echoesOf (events : List PingEvent) : List Measurement := events.filterMap PingEvent.echo?

def atSender (events : List PingEvent) : List Sender.Event := events.filterMap PingEvent.sender?

private theorem atSender_map (events : List Sender.Event) :
    atSender (events.map .sender) = events := by
  induction events with
  | nil => rfl
  | cons event rest ih => exact congrArg (event :: ·) ih

private theorem echoesOf_map (events : List Sender.Event) : echoesOf (events.map .sender) = [] := by
  induction events with
  | nil => rfl
  | cons event rest ih => exact ih

/-- What the multiplexer shows by going on from one activity to another. -/
def shownByMux : Mux.Activity → Mux.Activity → List PingEvent
  | .selecting, .loggingServer sample true => [.echo sample]
  | .releasing ready, .selecting => [.sender (.arrived ready)]
  | _, _ => []

/-- What the tasks of a ping run show. -/
def shownInPing : Task → Pipeline → Pipeline → List PingEvent
  | .mux, p, q => shownByMux p.mux.activity q.mux.activity
  | .sender, p, q => (Sender.shown p.sender p.senderView (q.sender, q.senderView)).map .sender
  | .echoDrain, p, _ => p.echo.queue.head?.toList.map fun m => .sender (.read m)
  | _, _, _ => []

/-- Whether the multiplexer has an echo in its hands that is not released yet. -/
def unreleased : Mux.Activity → Nat
  | .loggingServer _ true | .releasing _ => 1
  | _ => 0

/-- What a ping run keeps. -/
structure Pinging (config : Config) (p : Pipeline) : Prop where
  config : p.config = config
  ping : p.isPing = true
  reading : p.released.reading = true
  opened : p.mux.samplesOpen = true → p.released.writers ≠ 0
  releasing : ∀ ready, p.mux.activity = .releasing ready → p.mux.samplesOpen = true
  room : 0 < p.echo.capacity

/-- The later state differs in nothing that concerns the sender of a ping run. -/
structure Aside (p q : Pipeline) : Prop where
  config : q.config = p.config
  sender : q.sender = p.sender
  released : q.released = p.released
  echo : q.echo = p.echo
  sent : q.wire.sent = p.wire.sent
  later : p.now ≤ q.now

private theorem unreleased_collect (m : Mux) (sample : Measurement) (echo : Bool) :
    unreleased (m.collect sample echo).activity ≤ unreleased (.loggingServer sample echo) := by
  unfold Mux.collect
  cases echo with
  | false => exact Nat.le_refl _
  | true =>
      rw [if_pos rfl]
      dsimp only
      split
      · exact Nat.le_refl _
      · exact Nat.zero_le _

variable {config : Config} {p q : Pipeline} {events more : List PingEvent}

private theorem senderView_of_ping (ping : p.isPing = true) :
    p.senderView = ⟨p.now, p.connection, p.released, p.echo, p.wire, p.log⟩ := by
  rw [senderView, if_pos ping]

private theorem echo_of_mem_moves {task : Task} (ping : p.isPing = true) (moved : q ∈ p.moves task)
    (noSender : task ≠ .sender) (noDrain : task ≠ .echoDrain) : q.echo = p.echo := by
  by_cases own : task = .serverForwarder
  · subst own
    obtain ⟨_, _, rfl⟩ := List.mem_map.mp moved
    dsimp only
    rw [if_pos (by exact ping)]
  · exact (kept_of_mem_moves moved).echo noSender noDrain own

private theorem aside_of_mem_moves {task : Task} (ping : p.isPing = true) (moved : q ∈ p.moves task)
    (noMux : task ≠ .mux) (noSender : task ≠ .sender) (noDrain : task ≠ .echoDrain) :
    Aside p q ∧ q.mux = p.mux := by
  have kept := kept_of_mem_moves moved
  exact
    ⟨{ config := kept.config
       sender := kept.sender noSender
       released := kept.released noMux noSender
       echo := echo_of_mem_moves ping moved noSender noDrain
       sent := sent_of_mem_moves noSender moved
       later := Nat.le_of_eq kept.now.symm },
      kept.mux noMux⟩

/-- What one step of a ping run is to its sender, and to the echoes. -/
structure Follows (config : Config) (p : Pipeline) (more : List PingEvent) (q : Pipeline) :
    Prop where
  pinging : Pinging config q
  step : Sender.Step config.sender (p.sender, p.senderView) (atSender more) (q.sender, q.senderView)
  released : (Sender.arrivedOf (atSender more)).length + unreleased q.mux.activity ≤
    unreleased p.mux.activity + (echoesOf more).length

namespace Pinging

private theorem aside (pinging : Pinging config p) (aside : Aside p q)
    (opened : q.mux.samplesOpen = p.mux.samplesOpen)
    (releasing : ∀ ready, q.mux.activity = .releasing ready → q.mux.samplesOpen = true)
    (nothing : atSender more = [])
    (owed : unreleased q.mux.activity ≤ unreleased p.mux.activity + (echoesOf more).length) :
    Follows config p more q where
  pinging :=
    { config := aside.config.trans pinging.config
      ping := (isPing_congr aside.config).trans pinging.ping
      reading := by rw [aside.released, pinging.reading]
      opened := by rw [opened, aside.released]; exact pinging.opened
      releasing
      room := by rw [aside.echo]; exact pinging.room }
  step := by
    have ping := (isPing_congr aside.config).trans pinging.ping
    rw [nothing, aside.sender, senderView_of_ping pinging.ping, senderView_of_ping ping,
      aside.released, aside.echo]
    exact .outside aside.later aside.sent
  released := by
    rw [nothing]
    exact Nat.le_trans (Nat.le_of_eq (Nat.zero_add _)) owed

private theorem elsewhere (pinging : Pinging config p) (aside : Aside p q) (mux : q.mux = p.mux) :
    Follows config p [] q := by
  refine pinging.aside aside (by rw [mux]) ?_ rfl ?_
  · rw [mux]
    exact pinging.releasing
  · rw [mux]
    exact Nat.le_refl _

private theorem sender (pinging : Pinging config p) (moved : q ∈ p.senderMoves) :
    Follows config p (shownInPing .sender p q) q := by
  have member := sender_of_mem_moves moved
  have kept : Kept p .sender q := kept_of_mem_moves moved
  have mux := kept.mux nofun
  have ping : q.isPing = true := (isPing_congr kept.config).trans pinging.ping
  have keeps := (Sender.mem_moves_iff.mp member).acted.keeps
  have released : ∃ queue, q.released = { p.released with queue } := by
    have source := keeps.source
    rw [senderView_of_ping pinging.ping, senderView_of_ping ping] at source
    exact source
  have room : q.echo.capacity = p.echo.capacity := keeps.room
  obtain ⟨queue, released⟩ := released
  exact
    { pinging :=
        { config := kept.config.trans pinging.config
          ping
          reading := by rw [released]; exact pinging.reading
          opened := by rw [released, mux]; exact pinging.opened
          releasing := by rw [mux]; exact pinging.releasing
          room := by rw [room]; exact pinging.room }
      step := by
        rw [shownInPing, atSender_map, ← pinging.config]
        exact .move member
      released := by
        rw [shownInPing, atSender_map, Sender.arrivedOf_shown, echoesOf_map, mux]
        exact Nat.le_of_eq (Nat.zero_add _) }

private theorem echoDrain (pinging : Pinging config p) (moved : q ∈ p.echoDrainMoves) :
    Follows config p (shownInPing .echoDrain p q) q := by
  obtain ⟨-, m, echo, taken, rfl⟩ := of_mem_echoDrainMoves moved
  obtain ⟨queued, same⟩ := Channel.take?_eq_some taken
  have shown : shownInPing .echoDrain p { p with echo } = [.sender (.read m)] := by
    rw [shownInPing, queued]
    rfl
  rw [shown]
  exact
    { pinging := { pinging with room := by rw [same]; exact pinging.room }
      step := .read taken
      released := Nat.le_of_eq (Nat.zero_add _) }

private theorem mux (pinging : Pinging config p) (moved : q ∈ p.muxMoves) :
    Follows config p (shownInPing .mux p q) q := by
  obtain ⟨-, m, ⟨samples, received, toSender, serverLog, clientLog, stopRequested⟩, member, rfl⟩ :=
    of_mem_muxMoves moved
  obtain ⟨arrivals, move⟩ := Mux.mem_moves_iff.mp member
  dsimp only
  have here : Aside p { p with
      mux := m, samples, received, serverLog, clientLog
      samplingContext := { p.samplingContext with cancelled := stopRequested } } :=
    ⟨rfl, rfl, rfl, rfl, rfl, Nat.le_refl _⟩
  change Follows config p (shownByMux p.mux.activity m.activity) _
  generalize shown : shownByMux p.mux.activity m.activity = more
  cases move with
  | takeSample selecting opened taken | takeMessage selecting opened taken
  | finish selecting noSamples noReceived =>
      rw [selecting] at shown
      subst shown
      exact pinging.aside here rfl (by rintro _ ⟨⟩) rfl (Nat.zero_le _)
  | takeEcho selecting opened taken =>
      rw [selecting] at shown
      subst shown
      exact pinging.aside here rfl (by rintro _ ⟨⟩) rfl (Nat.le_add_left 1 _)
  | endReceived selecting opened ended =>
      change shownByMux p.mux.activity p.mux.activity = more at shown
      rw [selecting] at shown
      subst shown
      exact pinging.aside here rfl pinging.releasing rfl (Nat.le_add_right _ _)
  | @logServer sample echo _ _ logging sent =>
      rw [logging] at shown
      subst shown
      refine pinging.aside here ?_ (fun _ releasing => Mux.samplesOpen_of_collect releasing) rfl ?_
      · cases echo <;> rfl
      · rw [logging]
        exact unreleased_collect p.mux sample echo
  | logClient logging sent =>
      rw [logging] at shown
      subst shown
      exact pinging.aside here rfl (by rintro _ ⟨⟩) rfl (Nat.zero_le _)
  | endSamples selecting opened ended =>
      change shownByMux p.mux.activity p.mux.activity = more at shown
      rw [selecting] at shown
      subst shown
      exact
        { pinging := { pinging with
            opened := by rintro ⟨⟩
            releasing := fun ready releasing => by cases selecting.symm.trans releasing }
          step := by
            rw [senderView_of_ping pinging.ping, senderView_of_ping (by exact pinging.ping)]
            exact .hangUp
          released := Nat.le_of_eq (Nat.add_comm _ _) }
  | @release ready _ _ releasing sent =>
      rw [releasing] at shown
      subst shown
      obtain ⟨rfl, room, rfl⟩ := Channel.send?_eq_some pinging.reading sent
      have opened := pinging.releasing ready releasing
      exact
        { pinging := { pinging with releasing := by rintro _ ⟨⟩ }
          step := by
            rw [senderView_of_ping pinging.ping, senderView_of_ping (by exact pinging.ping)]
            exact .arrive (pinging.opened opened) sent
          released := by
            rw [releasing]
            exact Nat.le_refl 1 }

/-- Every step of a pipeline keeps what is known of its ping run. -/
theorem step (pinging : Pinging config p) (step : Showing shownInPing p more q) :
    Follows config p more q := by
  cases step with
  | wait later => exact pinging.elsewhere ⟨rfl, rfl, rfl, rfl, rfl, later⟩ rfl
  | outside sent => exact pinging.elsewhere ⟨rfl, rfl, rfl, rfl, sent, Nat.le_refl _⟩ rfl
  | @move task _ moved =>
      cases task with
      | sender => exact pinging.sender moved
      | echoDrain => exact pinging.echoDrain moved
      | mux => exact pinging.mux moved
      | measurer | receiver | serverForwarder | clientForwarder | mergeEnd | saver | supervisor
      | closer =>
          obtain ⟨aside, mux⟩ := aside_of_mem_moves pinging.ping moved nofun nofun nofun
          exact pinging.elsewhere aside mux

end Pinging

private theorem pinging_start (config : Config) (connection : Connection) (wire : Wire)
    (sink : RecordSink) (archive : Archive) (ping : config.subtest = .ping) :
    Pinging config (start config connection wire sink archive) where
  config := rfl
  ping := decide_eq_true ping
  reading := rfl
  opened _ := Nat.one_ne_zero
  releasing _ _ := rfl
  room := Nat.one_pos

/-- A ping run up to now, seen from its sender, and the echoes that let it write. -/
structure Followed (config : Config) (first : Pipeline) (events : List PingEvent) (p : Pipeline) :
    Prop where
  pinging : Pinging config p
  run : Run (Sender.Step config.sender) (first.sender, first.senderView) (atSender events)
    (p.sender, p.senderView)
  released : (Sender.arrivedOf (atSender events)).length + unreleased p.mux.activity ≤
    (echoesOf events).length

private theorem Followed.step {first : Pipeline} (followed : Followed config first events p)
    (step : Showing shownInPing p more q) : Followed config first (events ++ more) q := by
  obtain ⟨pinging, taken, released⟩ := followed.pinging.step step
  have before := followed.released
  refine ⟨pinging, ?_, ?_⟩
  · rw [atSender, List.filterMap_append]
    exact followed.run.next taken
  · rw [atSender, echoesOf, List.filterMap_append, List.filterMap_append, ← atSender, ← atSender,
      ← echoesOf, ← echoesOf, Sender.arrivedOf, List.filterMap_append, List.length_append,
      List.length_append, ← Sender.arrivedOf, ← Sender.arrivedOf]
    omega

private theorem followed_of_run {connection : Connection} {wire : Wire} {sink : RecordSink}
    {archive : Archive} (ping : config.subtest = .ping)
    (run : Run (Showing shownInPing) (start config connection wire sink archive) events q) :
    Followed config (start config connection wire sink archive) events q :=
  run.keeps (fun events q => Followed config _ events q)
    ⟨pinging_start config connection wire sink archive ping, .stay, Nat.zero_le _⟩
    fun followed step => followed.step step

/-- What is left to do for the sender of a ping run and for the task behind it. -/
def exchangeWork (p : Pipeline) : Nat := 2 * p.sender.work p.senderView + p.echo.queue.length

private theorem Pinging.exchangeWork_lt (pinging : Pinging config p)
    (closed : p.released.writers = 0)
    (moved : q ∈ p.senderMoves ++ p.echoDrainMoves) : q.exchangeWork < p.exchangeWork := by
  have source : p.senderView.source.writers = 0 := by
    rw [senderView_of_ping pinging.ping]
    exact closed
  rcases List.mem_append.mp moved with sending | draining
  · have moved := Sender.mem_moves_iff.mp (sender_of_mem_moves sending)
    have less := Sender.work_lt source moved
    have handed : q.echo.queue.length ≤ p.echo.queue.length + 1 := moved.acted.keeps.handed
    simp only [exchangeWork]
    dsimp only at less
    omega
  · rw [echoDrainMoves, if_pos pinging.ping] at draining
    split at draining
    · next m echo taken =>
        rw [List.mem_singleton.mp draining]
        have shorter := Channel.length_of_take? taken
        have same : senderView { p with echo } = { p.senderView with echo } := rfl
        simp only [exchangeWork, same, Sender.work]
        omega
    · cases draining

/-- A ping run whose measurements have ended goes on until its sender has finished. -/
theorem Pinging.goesOn (pinging : Pinging config p) (closed : p.released.writers = 0) :
    p.sender.result?.isSome = true ∨ (∃ q, q ∈ p.senderMoves ++ p.echoDrainMoves) ∨
      ∃ time ∈ p.alarms, p.now < time := by
  cases sending : p.senderMoves with
  | cons next rest => exact .inr (.inl ⟨next, List.mem_append_left _ List.mem_cons_self⟩)
  | nil =>
      rcases Sender.resting (List.map_eq_nil_iff.mp sending) with
        finished | ⟨time, alarm, later⟩ | ⟨-, full⟩ | ⟨-, opened⟩
      · exact .inl finished
      · refine .inr (.inr ⟨time, ?_, later⟩)
        simp only [alarms, List.mem_append]
        exact .inl (.inr alarm)
      · -- What is handed on fills the channel to the task that drops it.
        cases taken : p.echo.take? with
        | none =>
            have empty := Channel.take?_eq_none_iff.mp taken
            have ready : p.echo.ready = true := by
              simp [Channel.ready, empty, pinging.room]
            exact nomatch ready.symm.trans full
        | some next =>
            refine .inr (.inl ⟨{ p with echo := next.2 }, ?_⟩)
            rw [List.nil_append, echoDrainMoves, if_pos pinging.ping, taken]
            exact List.mem_singleton_self _
      · exact absurd (if_pos pinging.ping ▸ closed) opened

/-- The kinds of the frames that the sender of a ping run has written. -/
def writtenKinds (events : List PingEvent) : List Frame.Kind :=
  (Sender.writtenOf (atSender events)).map Frame.kind

/-- **Ping accounts.** At every moment of every ping run, what the sender has written is the
beginning of an exchange, with no more measurements than echoes were taken from the receiver and
at most one ping more than these. A sender that has finished without a failed write has written a
whole exchange, and once the measurements have ended, it finishes. -/
theorem pings_answered (connection : Connection) (wire : Wire) (sink : RecordSink)
    (archive : Archive) (ping : config.subtest = .ping)
    (run : Run (Showing shownInPing) (start config connection wire sink archive) events q) :
    q.wire.frames = wire.frames ++ Sender.writtenOf (atSender events) ∧
      (∃ n, writtenKinds events <+: Sender.exchange n ++ [.close]) ∧
      (writtenKinds events).count .text ≤ (echoesOf events).length ∧
      (writtenKinds events).count .ping ≤ (echoesOf events).length + 1 ∧
      (q.sender.result?.isSome = true → .failed ∉ atSender events →
        ∃ n, writtenKinds events = Sender.exchange n ++ [.close]) ∧
      (q.released.writers = 0 →
        (q.sender.result?.isSome = true ∨ (∃ next, next ∈ q.senderMoves ++ q.echoDrainMoves) ∨
          ∃ time ∈ q.alarms, q.now < time) ∧
        ∀ next ∈ q.senderMoves ++ q.echoDrainMoves, next.exchangeWork < q.exchangeWork) := by
  have followed := followed_of_run ping run
  have books := Sender.books_of_run followed.run
  have exchanges := Sender.exchanges_of_run ping followed.run
  have texts : (Sender.textsOf (atSender events)).length ≤ (echoesOf events).length := by
    have arrived := books.texts_le
    have released := followed.released
    have nothing : (start config connection wire sink archive).senderView.source.queue = [] := by
      rw [senderView_of_ping (decide_eq_true ping)]
      rfl
    rw [nothing, List.length_nil, Nat.zero_add] at arrived
    omega
  refine ⟨books.frames, ⟨_, exchanges.early⟩, ?_, ?_, fun returned unfailed => ?_, fun closed => ?_⟩
  · rw [writtenKinds, ← Sender.length_textsOf]
    exact texts
  · exact Nat.le_trans exchanges.pings_le (Nat.add_le_add_right texts 1)
  · exact ⟨_, exchanges.complete (books.closed_of_returned returned unfailed)⟩
  · exact ⟨followed.pinging.goesOn closed,
      fun next moved => followed.pinging.exchangeWork_lt closed moved⟩

/-- A ping run of 50 ms. -/
def briefPing : Config where
  subtest := .ping
  instrument := { congestion := fun _ => none, tcpStats := fun _ => none }
  draws := fun _ => millis 1000
  defaultRuntime := millis 50

/-- A peer that answers the first ping and the close frame. -/
def answersOnce : Wire where
  pongs := fun n => if n = 0 then some { delay := millis 10 } else none
  closeReply := some 0

/-- The ping run with this peer after its end. -/
def answeredOnce : Pipeline :=
  machine.run 50 (start briefPing {} answersOnce {} { uuid := "" })

/-- One ping is answered, and one text tells the round trip. -/
theorem pings_answered_answeredOnce : ∃ events,
    Run (Showing shownInPing) (start briefPing {} answersOnce {} { uuid := "" }) events
        answeredOnce ∧
      briefPing.subtest = .ping ∧ writtenKinds events = Sender.exchange 1 ++ [.close] ∧
      1 ≤ (echoesOf events).length := by
  obtain ⟨events, run⟩ : ∃ events, Run (Showing shownInPing)
      (start briefPing {} answersOnce {} { uuid := "" }) events answeredOnce :=
    machine_showing .stay 50
  obtain ⟨frames, -, texts, -⟩ := pings_answered {} answersOnce {} { uuid := "" } rfl run
  have sent : answeredOnce.wire.frames.map Frame.kind = Sender.exchange 1 ++ [.close] := by
    decide +kernel
  have written : writtenKinds events = Sender.exchange 1 ++ [.close] := by
    rw [← sent, frames]
    rfl
  rw [written] at texts
  exact ⟨events, run, rfl, written, texts⟩

end LinkGauge.Pipeline
