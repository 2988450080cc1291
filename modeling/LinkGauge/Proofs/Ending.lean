import LinkGauge.Proofs.Closer
import LinkGauge.Proofs.Run

/-!
# How a subtest ends

The closer and the supervisor end a subtest together, while sender and saver end as they like,
time passes, and other holders use and close the connection (`Ending.Step`). In every order of
these events the closer closes the connection once, the supervisor returns, and what it returns
depends only on how sender and saver ended and on whether the ceiling came first
(`Ending.closes_once`).
-/

namespace LinkGauge

/-- How the task of a sender ends. -/
inductive SenderEnd where
  | returned (result : Except SendError Unit)
  | panicked (reason : String)

/-- The error that is reported for it, if any. -/
def SenderEnd.outcome : SenderEnd → Except SubtestError Unit
  | .returned result => result.mapError .send
  | .panicked reason => .error (.taskFailed reason)

/-- The closer and the supervisor of a subtest with what they share with others. -/
structure Ending where
  now : Nanos
  connection : Connection
  sent : Option SenderEnd := none
  saved : Option (Except StoreError Unit) := none
  errors : Channel SubtestError := {}
  closer : Closer := .waiting
  supervisor : Supervisor := .awaitingSaver
  archive : Archive
  log : Log

namespace Ending

def closerView (e : Ending) : Closer.View where
  now := e.now
  connection := e.connection
  outcome := e.errors
  log := e.log

def supervisorView (e : Ending) : Supervisor.View where
  now := e.now
  sent := e.sent.map SenderEnd.outcome
  saved := e.saved
  closed := e.closer.result?
  errors := e.errors
  archive := e.archive

/-- The result that sender and saver lead to unless the ceiling comes first. -/
def verdict (sender : SenderEnd) (saver : Except StoreError Unit) : Except SubtestError Unit :=
  sender.outcome.bind fun _ => saver.mapError .archive

private theorem verdict_eq_ok_iff {sender : SenderEnd} {saver : Except StoreError Unit} :
    verdict sender saver = .ok () ↔ sender.outcome = .ok () ∧ saver = .ok () := by
  unfold verdict
  cases sender.outcome with
  | error =>
      apply iff_of_false
      · rintro ⟨⟩
      · rintro ⟨⟨⟩, -⟩
  | ok =>
      cases saver with
      | error =>
          apply iff_of_false
          · rintro ⟨⟩
          · rintro ⟨-, ⟨⟩⟩
      | ok => exact iff_of_true rfl ⟨rfl, rfl⟩

/-- Only the ceiling ends a subtest with the error that is its own. -/
theorem verdict_ne_maxRuntimeExceeded {sender : SenderEnd} {saver : Except StoreError Unit} :
    verdict sender saver ≠ .error .maxRuntimeExceeded := by
  intro same
  rcases sender with ⟨_ | _⟩ | _
  case returned.ok => cases saver <;> cases same
  all_goals cases same

/-- What happens at the end of a subtest. -/
inductive Event where
  | closer (event : Closer.Event)
  /-- Another holder of the connection calls its close. -/
  | closedElsewhere

/-- What closer and supervisor can do. -/
inductive Moved (ceiling : Nanos) (clock : Nanos → UtcTime) (e : Ending) :
    List Event → Ending → Prop where
  | closer {event : Closer.Event} {closer : Closer} {v : Closer.View}
      (moved : e.closer.Moved ceiling e.closerView event (closer, v)) :
      Moved ceiling clock e [.closer event]
        { e with closer, connection := v.connection, errors := v.outcome, log := v.log }
  | supervisor {supervisor : Supervisor} {v : Supervisor.View}
      (moved : e.supervisor.Moved clock e.supervisorView (supervisor, v)) :
      Moved ceiling clock e [] { e with supervisor, errors := v.errors, archive := v.archive }

/-- What can happen at the end of a subtest. -/
inductive Step (ceiling : Nanos) (clock : Nanos → UtcTime) (e : Ending) :
    List Event → Ending → Prop where
  | own {events : List Event} {next : Ending} (moved : e.Moved ceiling clock events next) :
      Step ceiling clock e events next
  | wait {time : Nanos} (later : e.now ≤ time) : Step ceiling clock e [] { e with now := time }
  | senderEnds {sent : SenderEnd} {log : Log} (running : e.sent = none) :
      Step ceiling clock e [] { e with sent := some sent, log }
  | saverEnds {saved : Except StoreError Unit} {archive : Archive} {log : Log}
      (running : e.saved = none) :
      Step ceiling clock e [] { e with saved := some saved, archive, log }
  | closeElsewhere :
      Step ceiling clock e [.closedElsewhere] { e with connection := e.connection.close.2 }
  /-- Another holder of the connection uses it without closing it. -/
  | use {connection : Connection} {archive : Archive} {log : Log}
      (closed : connection.closed = e.connection.closed)
      (calls : connection.closeCalls = e.connection.closeCalls)
      (shutdowns : connection.shutdowns = e.connection.shutdowns) :
      Step ceiling clock e [] { e with connection, archive, log }

/-- The answers to the closer's calls of the connection's close. -/
def closesOf (events : List Event) : List (Except CloseError Unit) :=
  events.filterMap fun
    | .closer (.closed answer) => some answer
    | _ => none

/-- How often others have called the connection's close. -/
def elsewhere (events : List Event) : Nat := events.countP (· matches .closedElsewhere)

private theorem closesOf_append (events more : List Event) :
    closesOf (events ++ more) = closesOf events ++ closesOf more :=
  List.filterMap_append

/-- What others close in two stretches of a run is counted in each of them. -/
theorem elsewhere_append (events more : List Event) :
    elsewhere (events ++ more) = elsewhere events + elsewhere more :=
  List.countP_append

/-- What the supervisor has reported up to now. -/
def Reported (sent : Option SenderEnd) (saved : Option (Except StoreError Unit))
    (done : List SubtestError) : Supervisor → Prop
  | .awaitingSaver => done = []
  | .awaitingSender result => done = [] ∧ saved = some result
  | .reporting rest => ∃ sender saver, sent = some sender ∧ saved = some saver ∧
      Supervisor.failures sender.outcome saver = done ++ rest
  | .awaitingCloser | .finished _ => ∃ sender saver, sent = some sender ∧ saved = some saver ∧
      Supervisor.failures sender.outcome saver = done

/-- Whether the supervisor may still report. -/
def reports : Supervisor → Bool
  | .awaitingCloser | .finished _ => false
  | _ => true

/-- What has happened, against the state; `done` is what was reported. -/
structure Books (first : Connection) (events : List Event) (done : List SubtestError)
    (e : Ending) : Prop where
  reported : Reported e.sent e.saved done e.supervisor
  returned : ∀ result, e.supervisor = .finished result → e.closer = .finished result
  capacity : e.errors.capacity = 1
  writers : e.errors.writers = (reports e.supervisor).toNat
  waiting : e.closer = .waiting → e.errors.reading = true ∧ e.errors.queue = done ∧
    .closer .expired ∉ events ∧ ∀ outcome, .closer (.heard outcome) ∉ events
  /-- The first error that was reported decides, unless the ceiling came before it. -/
  settled : ∀ result, e.closer.outcome? = some result → e.errors.reading = false ∧
    ((.closer .expired ∈ events ∧ (∀ outcome, .closer (.heard outcome) ∉ events) ∧
        result = .error .maxRuntimeExceeded) ∨
      (.closer .expired ∉ events ∧
        ((∃ error rest, done = error :: rest ∧ result = .error error) ∨
          (done = [] ∧ reports e.supervisor = false ∧ result = .ok ()))))
  closes : (closesOf events).length = e.closer.result?.isSome.toNat
  closed : e.closer.result?.isSome = true → e.connection.closed = true
  calls : e.connection.closeCalls =
    first.closeCalls + (closesOf events).length + elsewhere events
  shutdowns : e.connection.shutdowns + first.closed.toNat ≤
    first.shutdowns + e.connection.closed.toNat

variable {ceiling : Nanos} {clock : Nanos → UtcTime} {first : Connection} {events : List Event}
  {done : List SubtestError} {e : Ending}

private theorem books_start {now : Nanos} {connection : Connection} {archive : Archive}
    {log : Log} : Books connection [] [] { now, connection, archive, log } where
  reported := rfl
  returned := nofun
  capacity := rfl
  writers := rfl
  waiting _ := ⟨rfl, rfl, nofun, nofun⟩
  settled := nofun
  closes := rfl
  closed := nofun
  calls := rfl
  shutdowns := Nat.le_refl _

private theorem reported_of_sent {saved : Option (Except StoreError Unit)} {s : Supervisor}
    (reported : Reported none saved done s) (sent : Option SenderEnd) :
    Reported sent saved done s := by
  cases s with
  | awaitingSaver | awaitingSender => exact reported
  | reporting | awaitingCloser | finished =>
      obtain ⟨_, _, missing, _⟩ := reported
      cases missing

private theorem reported_of_saved {sent : Option SenderEnd} {s : Supervisor}
    (reported : Reported sent none done s) (saved : Option (Except StoreError Unit)) :
    Reported sent saved done s := by
  cases s with
  | awaitingSaver => exact reported
  | awaitingSender => cases reported.2
  | reporting | awaitingCloser | finished =>
      obtain ⟨_, _, _, missing, _⟩ := reported
      cases missing

private theorem shutdowns_close {c : Connection} (few : c.shutdowns + first.closed.toNat ≤
    first.shutdowns + c.closed.toNat) :
    c.close.2.shutdowns + first.closed.toNat ≤ first.shutdowns + c.close.2.closed.toNat := by
  rw [c.closed_close, c.shutdowns_close]
  cases closed : c.closed with
  | true =>
      rw [closed] at few
      simpa using few
  | false =>
      rw [closed] at few
      simp only [Bool.toNat_false, Nat.add_zero] at few
      split <;> simp only [Bool.toNat_true] <;> omega

namespace Books

private theorem closeElsewhere (books : Books first events done e) :
    Books first (events ++ [.closedElsewhere]) done
      { e with connection := e.connection.close.2 } where
  reported := books.reported
  returned := books.returned
  capacity := books.capacity
  writers := books.writers
  waiting waiting := by simpa using books.waiting waiting
  settled result outcome := by simpa using books.settled result outcome
  closes := by simpa [closesOf_append, closesOf] using books.closes
  closed _ := e.connection.closed_close
  calls := by
    rw [e.connection.closeCalls_close, books.calls, closesOf_append, elsewhere_append]
    simp [closesOf, elsewhere]
    omega
  shutdowns := shutdowns_close books.shutdowns

private theorem settle (books : Books first events done e) (waiting : e.closer = .waiting)
    {event : Closer.Event} {outcome : Channel SubtestError} {log : Log}
    {result : Except SubtestError Unit} (silent : closesOf [.closer event] = [])
    (capacity : outcome.capacity = e.errors.capacity) (writers : outcome.writers = e.errors.writers)
    (settled : (event = .expired ∧ result = .error .maxRuntimeExceeded) ∨
      (event ≠ .expired ∧ ((∃ error rest, done = error :: rest ∧ result = .error error) ∨
        (done = [] ∧ reports e.supervisor = false ∧ result = .ok ())))) :
    Books first (events ++ [.closer event]) done
      { e with closer := .closing result, errors := outcome.stopReading, log } := by
  obtain ⟨reading, queued, unexpired, unheard⟩ := books.waiting waiting
  have running : e.closer.result?.isSome = false := by
    rw [waiting]
    rfl
  have closes : closesOf (events ++ [.closer event]) = closesOf events := by
    rw [closesOf_append, silent, List.append_nil]
  exact
    { reported := books.reported
      returned := fun _ finished => nomatch waiting.symm.trans (books.returned _ finished)
      capacity := capacity.trans books.capacity
      writers := writers.trans books.writers
      waiting := nofun
      settled := by
        rintro _ ⟨⟩
        refine ⟨rfl, settled.imp ?_ ?_⟩
        · rintro ⟨rfl, same⟩
          exact ⟨by simp, by simpa using unheard, same⟩
        · rintro ⟨other, decided⟩
          exact ⟨by simpa [other.symm] using unexpired, decided⟩
      closes := by
        rw [closes, books.closes, running]
        rfl
      closed := nofun
      calls := by
        rw [closes, elsewhere_append]
        exact books.calls
      shutdowns := books.shutdowns }

private theorem closer (books : Books first events done e) {event : Closer.Event} {closer : Closer}
    {v : Closer.View} (moved : e.closer.Moved ceiling e.closerView event (closer, v)) :
    Books first (events ++ [.closer event]) done
      { e with closer, connection := v.connection, errors := v.outcome, log := v.log } := by
  cases moved with
  | @hear error outcome waiting taken =>
      obtain ⟨queued, same⟩ := Channel.take?_eq_some taken
      obtain ⟨-, here, -⟩ := books.waiting waiting
      have first : done = error :: outcome.queue := here.symm.trans queued
      refine books.settle waiting rfl (by rw [same]; rfl) (by rw [same]; rfl) ?_
      exact .inr ⟨nofun, .inl ⟨error, outcome.queue, first, rfl⟩⟩
  | succeed waiting ended =>
      obtain ⟨empty, closed⟩ := Channel.ended_iff.mp ended
      obtain ⟨-, here, -⟩ := books.waiting waiting
      have nobody : reports e.supervisor = false :=
        Bool.toNat_eq_zero.mp (books.writers.symm.trans closed)
      have nothing : done = [] := here.symm.trans empty
      exact books.settle waiting rfl rfl rfl (.inr ⟨nofun, .inr ⟨nothing, nobody, rfl⟩⟩)
  | expire waiting late => exact books.settle waiting rfl rfl rfl (.inl ⟨rfl, rfl⟩)
  | @close result closing =>
      have running : e.closer.result?.isSome = false := by
        rw [closing]
        rfl
      have none : (closesOf events).length = 0 := by
        rw [books.closes, running]
        rfl
      exact
        { reported := books.reported
          returned := fun _ finished => nomatch closing.symm.trans (books.returned _ finished)
          capacity := books.capacity
          writers := books.writers
          waiting := nofun
          settled := fun _ outcome => by
            have same := books.settled result (by rw [closing]; rfl)
            cases outcome
            exact ⟨same.1, by simpa using same.2⟩
          closes := by
            rw [closesOf_append, List.length_append, none]
            rfl
          closed := fun _ => e.connection.closed_close
          calls := by
            have calls := books.calls
            rw [none] at calls
            rw [closesOf_append, elsewhere_append, List.length_append, none]
            have one := e.connection.closeCalls_close
            rw [calls] at one
            change e.connection.close.2.closeCalls =
              first.closeCalls + (0 + 1) + (elsewhere events + 0)
            omega
          shutdowns := shutdowns_close books.shutdowns }

private theorem report (books : Books first events done e) {error : SubtestError}
    {rest : List SubtestError} {delivery : Delivery} {errors : Channel SubtestError}
    (reporting : e.supervisor = .reporting (error :: rest))
    (sent : e.errors.send? error = some (delivery, errors)) :
    Books first events (done ++ [error]) { e with supervisor := .reporting rest, errors } := by
  have same := Channel.eq_of_send? sent
  have reported := books.reported
  have writers := books.writers
  rw [reporting] at reported writers
  obtain ⟨sender, saver, own, saved, failures⟩ := reported
  exact
    { books with
      reported := ⟨sender, saver, own, saved, by rw [failures, List.append_assoc]; rfl⟩
      returned := nofun
      capacity := by
        rw [same]
        exact books.capacity
      writers := by
        rw [same]
        exact writers
      waiting := fun waiting => by
        obtain ⟨reading, queued, silent⟩ := books.waiting waiting
        obtain ⟨rfl, -, accepted⟩ := Channel.send?_eq_some reading sent
        rw [accepted]
        exact ⟨reading, by rw [queued], silent⟩
      settled := fun result outcome => by
        obtain ⟨unread, decided⟩ := books.settled result outcome
        rw [same]
        refine ⟨unread, decided.imp_right (And.imp_right ?_)⟩
        rintro (⟨first, others, rfl, failed⟩ | ⟨-, silent, -⟩)
        · exact .inl ⟨first, others ++ [error], rfl, failed⟩
        · rw [reporting] at silent
          cases silent }

private theorem advance (books : Books first events done e) {supervisor : Supervisor}
    {archive : Archive} (reported : Reported e.sent e.saved done supervisor)
    (same : reports supervisor = reports e.supervisor)
    (returned : ∀ result, supervisor = .finished result → e.closer = .finished result) :
    Books first events done { e with supervisor, archive } :=
  { books with
    reported
    returned
    writers := by
      rw [same]
      exact books.writers
    settled := by
      rw [same]
      exact books.settled }

private theorem hangUp (books : Books first events done e)
    (reporting : e.supervisor = .reporting []) : Books first events done
      { e with supervisor := .awaitingCloser, errors := e.errors.hangUp } := by
  have reported := books.reported
  have writers := books.writers
  rw [reporting] at reported writers
  obtain ⟨sender, saver, sent, saved, failures⟩ := reported
  rw [List.append_nil] at failures
  exact
    { books with
      reported := ⟨sender, saver, sent, saved, failures⟩
      returned := nofun
      writers := by
        change e.errors.writers - 1 = 0
        rw [writers]
        rfl
      settled := fun result outcome => by
        obtain ⟨unread, decided⟩ := books.settled result outcome
        refine ⟨unread, decided.imp_right (And.imp_right (Or.imp_right ?_))⟩
        rintro ⟨none, -, success⟩
        exact ⟨none, rfl, success⟩ }

private theorem supervisor (books : Books first events done e) {supervisor : Supervisor}
    {v : Supervisor.View} (moved : e.supervisor.Moved clock e.supervisorView (supervisor, v)) :
    ∃ done, Books first events done
      { e with supervisor, errors := v.errors, archive := v.archive } := by
  have reported := books.reported
  cases moved with
  | timeEnd awaiting ended =>
      rw [awaiting] at reported
      exact ⟨done, books.advance ⟨reported, ended⟩ (by rw [awaiting]; rfl) nofun⟩
  | collect awaiting ended =>
      rw [awaiting] at reported
      obtain ⟨rfl, saved⟩ := reported
      obtain ⟨sender, sent, rfl⟩ := Option.map_eq_some_iff.mp ended
      exact ⟨[], books.advance ⟨sender, _, sent, saved, rfl⟩ (by rw [awaiting]; rfl) nofun⟩
  | hangUp reporting => exact ⟨done, books.hangUp reporting⟩
  | report reporting sent => exact ⟨_, books.report reporting sent⟩
  | finish awaiting decided =>
      rw [awaiting] at reported
      refine ⟨done, books.advance reported (by rw [awaiting]; rfl) ?_⟩
      rintro _ ⟨⟩
      exact Closer.eq_of_result?_eq_some decided

private theorem step (books : Books first events done e) {more : List Event} {next : Ending}
    (step : Step ceiling clock e more next) : ∃ done, Books first (events ++ more) done next := by
  cases step with
  | own moved =>
      cases moved with
      | closer moved => exact ⟨done, books.closer moved⟩
      | supervisor moved =>
          rw [List.append_nil]
          exact books.supervisor moved
  | closeElsewhere => exact ⟨done, books.closeElsewhere⟩
  | wait later =>
      rw [List.append_nil]
      exact ⟨done, { books with }⟩
  | senderEnds running =>
      rw [List.append_nil]
      exact ⟨done, { books with reported := reported_of_sent (running ▸ books.reported) _ }⟩
  | saverEnds running =>
      rw [List.append_nil]
      exact ⟨done, { books with reported := reported_of_saved (running ▸ books.reported) _ }⟩
  | use closed calls shutdowns =>
      rw [List.append_nil]
      exact ⟨done, { books with
        closed := fun returned => closed.trans (books.closed returned)
        calls := calls.trans books.calls
        shutdowns := by
          rw [shutdowns, closed]
          exact books.shutdowns }⟩

/-- Once sender and saver have ended, closer or supervisor can go on until the supervisor
returns. -/
theorem progress (books : Books first events done e) {sender : SenderEnd}
    {saver : Except StoreError Unit} (sent : e.sent = some sender) (saved : e.saved = some saver)
    (running : e.supervisor.result? = none) : ∃ more next, e.Moved ceiling clock more next := by
  have supervisor {next : Supervisor × Supervisor.View}
      (moved : e.supervisor.Moved clock e.supervisorView next) :
      ∃ more next, e.Moved ceiling clock more next := ⟨_, _, .supervisor moved⟩
  have closer {event : Closer.Event} {next : Closer × Closer.View}
      (moved : e.closer.Moved ceiling e.closerView event next) :
      ∃ more next, e.Moved ceiling clock more next := ⟨_, _, .closer moved⟩
  have hears (waiting : e.closer = .waiting) (told : e.errors.queue = [] → e.errors.writers = 0) :
      ∃ more next, e.Moved ceiling clock more next := by
    obtain ⟨_, _, moved⟩ := Closer.exists_moved_of_waiting (v := e.closerView) waiting told
    exact closer moved
  cases stage : e.supervisor with
  | awaitingSaver => exact supervisor (.timeEnd stage saved)
  | awaitingSender =>
      have collected : e.supervisorView.sent = some sender.outcome :=
        congrArg (Option.map SenderEnd.outcome) sent
      exact supervisor (.collect stage collected)
  | reporting rest =>
      cases rest with
      | nil => exact supervisor (.hangUp stage)
      | cons error rest =>
          cases answer : e.errors.send? error with
          | some answered => exact supervisor (.report stage answer)
          | none =>
              -- Only a closer that still waits leaves the channel full.
              obtain ⟨reading, full⟩ := Channel.full_of_send?_eq_none answer
              rw [books.capacity] at full
              cases state : e.closer with
              | waiting =>
                  refine hears state fun empty => ?_
                  rw [empty] at full
                  exact absurd full (Nat.not_succ_le_zero 0)
              | closing result | finished result =>
                  have settled := books.settled result (by rw [state]; rfl)
                  exact absurd (reading.symm.trans settled.1) Bool.noConfusion
  | awaitingCloser =>
      cases state : e.closer with
      | waiting =>
          refine hears state fun _ => ?_
          rw [books.writers, stage]
          rfl
      | closing result => exact closer (.close state)
      | finished result =>
          have decided : e.supervisorView.closed = some result := congrArg Closer.result? state
          exact supervisor (.finish stage decided)
  | finished result =>
      rw [stage] at running
      cases running

/-- What the supervisor returns is decided by sender, saver and ceiling. -/
theorem decided (books : Books first events done e) {result : Except SubtestError Unit}
    (returned : e.supervisor = .finished result) :
    ∃ sender saver, e.sent = some sender ∧ e.saved = some saver ∧
      ((.closer .expired ∈ events ∧ (∀ outcome, .closer (.heard outcome) ∉ events) ∧
          result = .error .maxRuntimeExceeded) ∨
        (.closer .expired ∉ events ∧ result = verdict sender saver)) := by
  have reported := books.reported
  rw [returned] at reported
  obtain ⟨sender, saver, sent, saved, failures⟩ := reported
  have decided : e.closer.outcome? = some result := by
    rw [books.returned result returned]
    rfl
  refine ⟨sender, saver, sent, saved, (books.settled result decided).2.imp_right ?_⟩
  rintro ⟨inTime, outcome⟩
  refine ⟨inTime, ?_⟩
  rcases outcome with ⟨error, rest, rfl, rfl⟩ | ⟨rfl, -, rfl⟩
  · exact (Supervisor.error_of_failures failures).symm
  · exact (Supervisor.ok_of_failures failures).symm

end Books

/-- The end of a run has its books, whatever has happened on it. -/
theorem books_of_run {now : Nanos} {connection : Connection} {archive : Archive} {log : Log}
    (run : Run (Step ceiling clock) { now, connection, archive, log } events e) :
    ∃ done, Books connection events done e := by
  refine run.keeps (fun events e => ∃ done, Books connection events done e) ⟨[], books_start⟩ ?_
  rintro _ _ _ _ ⟨done, books⟩ step
  exact books.step step

/-- How many moves closer and supervisor have left at most. -/
def work (e : Ending) : Nat := e.closer.work + e.supervisor.work

private theorem work_lt_of_moved {more : List Event} {next : Ending}
    (moved : e.Moved ceiling clock more next) : next.work < e.work := by
  cases moved with
  | closer moved => exact Nat.add_lt_add_right (Closer.work_lt_of_moved moved) _
  | supervisor moved => exact Nat.add_lt_add_left (Supervisor.work_lt_of_moved moved) _

private theorem work_le_of_step {more : List Event} {next : Ending}
    (step : Step ceiling clock e more next) : next.work ≤ e.work := by
  cases step with
  | own moved => exact Nat.le_of_lt (work_lt_of_moved moved)
  | wait | senderEnds | saverEnds | closeElsewhere | use => exact Nat.le_refl _

/-- In every order of events the closer closes the connection once, and with everybody else's
closes the socket is shut down at most once; once sender and saver have ended, closer and
supervisor go on until the supervisor returns; and what it returns depends neither on the answer
of the close nor on which of the reports were taken. -/
theorem closes_once {now : Nanos} {connection : Connection} {archive : Archive} {log : Log}
    (run : Run (Step ceiling clock) { now, connection, archive, log } events e) :
    ((closesOf events).length = e.closer.result?.isSome.toNat ∧
      e.connection.closeCalls =
        connection.closeCalls + (closesOf events).length + elsewhere events ∧
      e.connection.shutdowns + connection.closed.toNat ≤
        connection.shutdowns + e.connection.closed.toNat) ∧
    ((∀ sender saver, e.sent = some sender → e.saved = some saver → e.supervisor.result? = none →
        ∃ more next, e.Moved ceiling clock more next) ∧
      (∀ more next, e.Moved ceiling clock more next → next.work < e.work) ∧
      ∀ more next, Step ceiling clock e more next → next.work ≤ e.work) ∧
    ∀ result, e.supervisor.result? = some result →
      (closesOf events).length = 1 ∧ e.connection.closed = true ∧
      ∃ sender saver, e.sent = some sender ∧ e.saved = some saver ∧
        (result = .ok () ↔
          sender.outcome = .ok () ∧ saver = .ok () ∧ .closer .expired ∉ events) ∧
        (result = .error .maxRuntimeExceeded ↔ .closer .expired ∈ events) ∧
        (.closer .expired ∈ events → ∀ outcome, .closer (.heard outcome) ∉ events) ∧
        (.closer .expired ∉ events →
          (∀ error, sender.outcome = .error error → result = .error error) ∧
          ∀ error, sender.outcome = .ok () → saver = .error error →
            result = .error (.archive error)) := by
  obtain ⟨done, books⟩ := books_of_run run
  refine ⟨⟨books.closes, books.calls, books.shutdowns⟩,
    ⟨fun _ _ sent saved running => books.progress sent saved running,
      fun _ _ => work_lt_of_moved, fun _ _ => work_le_of_step⟩, ?_⟩
  intro result returned
  have final := books.returned result (Supervisor.eq_of_result?_eq_some returned)
  have closed : e.closer.result?.isSome = true := by
    rw [final]
    rfl
  refine ⟨by rw [books.closes, closed]; rfl, books.closed closed, ?_⟩
  obtain ⟨sender, saver, sent, saved, decided⟩ :=
    books.decided (Supervisor.eq_of_result?_eq_some returned)
  refine ⟨sender, saver, sent, saved, ?_⟩
  rcases decided with ⟨expired, unheard, rfl⟩ | ⟨inTime, rfl⟩
  · exact ⟨⟨nofun, fun ⟨_, _, inTime⟩ => absurd expired inTime⟩, iff_of_true rfl expired,
      fun _ => unheard, fun inTime => absurd expired inTime⟩
  · refine ⟨?_, iff_of_false verdict_ne_maxRuntimeExceeded inTime, fun late => absurd late inTime,
      fun _ => ⟨?_, ?_⟩⟩
    · rw [verdict_eq_ok_iff]
      exact ⟨fun ⟨sent, saved⟩ => ⟨sent, saved, inTime⟩, fun ⟨sent, saved, _⟩ => ⟨sent, saved⟩⟩
    · intro error failed
      rw [verdict, failed]
      rfl
    · intro error written failed
      rw [verdict, written, failed]
      rfl

/-- A sender has panicked and a saver has failed, on a socket that cannot be shut down. -/
def bothFailed : Ending where
  now := 0
  connection := { socket := some {} }
  sent := some (.panicked "panic")
  saved := some (.error (.encoding "full"))
  archive := { uuid := "", endTime := some .epoch }
  log := []

/-- The supervisor has returned, and another holder has called close again. -/
def firstReported : Ending where
  now := 0
  connection := { closed := true, socket := some { calls := [.shutdown] }, closeCalls := 2 }
  sent := some (.panicked "panic")
  saved := some (.error (.encoding "full"))
  errors := { reading := false, writers := 0 }
  closer := .finished (.error (.taskFailed "panic"))
  supervisor := .finished (.error (.taskFailed "panic"))
  archive := { uuid := "", endTime := some .epoch }
  log := Closer.noted (.error (.shutdownFailed 92)) []

/-- What has happened by then. -/
def firstReportedEvents : List Event :=
  [.closer (.heard (.error (.taskFailed "panic"))),
    .closer (.closed (.error (.shutdownFailed 92))), .closedElsewhere]

/-- The runs of such a subtest from its start. -/
abbrev RunOfFailures : List Event → Ending → Prop :=
  Run (Step 15 fun _ => .epoch) { bothFailed with sent := none, saved := none }

/-- The closer takes the first of the two reports, and the second one is lost. -/
theorem run_firstReported : RunOfFailures firstReportedEvents firstReported := by
  have panicked : RunOfFailures [] { bothFailed with saved := none } :=
    .next .stay (.senderEnds rfl)
  have failed : RunOfFailures [] bothFailed := .next panicked (.saverEnds rfl)
  have stamped := failed.next (.own (.supervisor (.timeEnd rfl rfl)))
  have collected := stamped.next (.own (.supervisor (.collect rfl rfl)))
  have reported := collected.next (.own (.supervisor (.report rfl rfl)))
  have taken := reported.next (.own (.closer (.hear rfl rfl)))
  have lost := taken.next (.own (.supervisor (.report rfl rfl)))
  have hungUp : RunOfFailures [.closer (.heard (.error (.taskFailed "panic")))] { bothFailed with
      supervisor := .awaitingCloser
      closer := .closing (.error (.taskFailed "panic"))
      errors := { reading := false, writers := 0 } } := lost.next (.own (.supervisor (.hangUp rfl)))
  have closed := hungUp.next (.own (.closer (.close rfl)))
  exact (closed.next .closeElsewhere).next (.own (.supervisor (.finish rfl rfl)))

/-- The first failure that was reported is the result, and one close follows it. -/
theorem closes_once_firstReported : RunOfFailures firstReportedEvents firstReported ∧
    (closesOf firstReportedEvents).length = 1 ∧ firstReported.connection.shutdowns ≤ 1 ∧
    ∀ result, firstReported.supervisor.result? = some result →
      result = .error (.taskFailed "panic") := by
  obtain ⟨⟨once, -, shutdowns⟩, -, decided⟩ := closes_once run_firstReported
  refine ⟨run_firstReported, once, shutdowns, fun result returned => ?_⟩
  obtain ⟨-, -, sender, saver, sent, -, -, -, -, failed⟩ := decided result returned
  have inTime : .closer .expired ∉ firstReportedEvents := by simp [firstReportedEvents]
  cases sent
  exact (failed inTime).1 _ rfl

end Ending

end LinkGauge
