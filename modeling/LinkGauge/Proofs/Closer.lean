import LinkGauge.Proofs.Channel
import LinkGauge.Stage.Closer

/-!
# The supervisor and the closer

The supervisor waits for the other tasks and the closer closes the connection; the relations of
their moves say what either can do.
-/

namespace LinkGauge.Supervisor

/-! ## The moves of a supervisor -/

/-- What a supervisor can do. -/
inductive Moved (clock : Nanos → UtcTime) (s : Supervisor) (v : View) :
    Supervisor × View → Prop where
  | timeEnd {saved : Except StoreError Unit} (awaiting : s = .awaitingSaver)
      (done : v.saved = some saved) :
      Moved clock s v (.awaitingSender saved, { v with archive.endTime := some (clock v.now) })
  | collect {saved : Except StoreError Unit} {sent : Except SubtestError Unit}
      (awaiting : s = .awaitingSender saved) (done : v.sent = some sent) :
      Moved clock s v (.reporting (failures sent saved), v)
  | hangUp (reporting : s = .reporting []) :
      Moved clock s v (.awaitingCloser, { v with errors := v.errors.hangUp })
  | report {error : SubtestError} {rest : List SubtestError} {delivery : Delivery}
      {errors : Channel SubtestError} (reporting : s = .reporting (error :: rest))
      (sent : v.errors.send? error = some (delivery, errors)) :
      Moved clock s v (.reporting rest, { v with errors })
  | finish {result : Except SubtestError Unit} (awaiting : s = .awaitingCloser)
      (decided : v.closed = some result) : Moved clock s v (.finished result, v)

variable {clock : Nanos → UtcTime} {s : Supervisor} {v : View} {next : Supervisor × View}

/-- The moves of a supervisor are those that `Moved` describes. -/
theorem mem_moves_iff : next ∈ s.moves clock v ↔ Moved clock s v next := by
  constructor
  · intro member
    unfold moves at member
    split at member
    · split at member
      · next done =>
          rw [List.mem_singleton.mp member]
          exact .timeEnd rfl done
      · cases member
    · split at member
      · next done =>
          rw [List.mem_singleton.mp member]
          exact .collect rfl done
      · cases member
    · rw [List.mem_singleton.mp member]
      exact .hangUp rfl
    · split at member
      · next sent =>
          rw [List.mem_singleton.mp member]
          exact .report rfl sent
      · cases member
    · split at member
      · next decided =>
          rw [List.mem_singleton.mp member]
          exact .finish rfl decided
      · cases member
    · cases member
  · intro moved
    cases moved with
    | timeEnd awaiting done => simp only [moves, awaiting, done, List.mem_singleton]
    | collect awaiting done => simp only [moves, awaiting, done, List.mem_singleton]
    | hangUp reporting => simp only [moves, reporting, List.mem_singleton]
    | report reporting sent => simp only [moves, reporting, sent, List.mem_singleton]
    | finish awaiting decided => simp only [moves, awaiting, decided, List.mem_singleton]

/-- Nothing else is done before the saver has returned. -/
theorem Moved.saver_returned (moved : Moved clock s v next) :
    s ≠ .awaitingSaver ∨ ∃ saved, v.saved = some saved := by
  cases moved with
  | timeEnd awaiting done => exact .inr ⟨_, done⟩
  | collect | hangUp | report | finish =>
      left
      simp only [*, ne_eq, reduceCtorEq, not_false_eq_true]

/-- A supervisor with a result has finished. -/
theorem eq_of_result?_eq_some {result : Except SubtestError Unit}
    (returned : s.result? = some result) : s = .finished result := by
  cases s with
  | finished => rw [Option.some.inj returned]
  | awaitingSaver | awaitingSender | reporting | awaitingCloser => cases returned

/-- The result is the first of the failures. -/
theorem error_of_failures {sent : Except SubtestError Unit} {saved : Except StoreError Unit}
    {error : SubtestError} {rest : List SubtestError}
    (failed : failures sent saved = error :: rest) :
    (sent.bind fun _ => saved.mapError .archive) = .error error := by
  cases sent with
  | error =>
      obtain ⟨rfl, -⟩ := List.cons.inj failed
      rfl
  | ok =>
      cases saved with
      | error =>
          obtain ⟨rfl, -⟩ := List.cons.inj failed
          rfl
      | ok => cases failed

/-- Without a failure there is no error. -/
theorem ok_of_failures {sent : Except SubtestError Unit} {saved : Except StoreError Unit}
    (none : failures sent saved = []) : (sent.bind fun _ => saved.mapError .archive) = .ok () := by
  cases sent with
  | error => cases none
  | ok =>
      cases saved with
      | error => cases none
      | ok => rfl

private theorem length_failures (sent : Except SubtestError Unit) (saved : Except StoreError Unit) :
    (failures sent saved).length ≤ 2 := by
  cases sent <;> cases saved <;> simp [failures]

/-- How many moves a supervisor has left at most. -/
def work : Supervisor → Nat
  | .awaitingSaver => 6
  | .awaitingSender _ => 5
  | .reporting errors => errors.length + 2
  | .awaitingCloser => 1
  | .finished _ => 0

/-- Every move leaves a supervisor less to do. -/
theorem work_lt_of_moved (moved : Moved clock s v next) : next.1.work < s.work := by
  cases moved with
  | timeEnd awaiting =>
      rw [awaiting]
      exact Nat.lt_succ_self 5
  | @collect saved sent awaiting =>
      rw [awaiting]
      have few := length_failures sent saved
      exact Nat.lt_of_le_of_lt (Nat.add_le_add_right few 2) (Nat.lt_succ_self 4)
  | hangUp reporting | report reporting =>
      rw [reporting]
      exact Nat.lt_succ_self _
  | finish awaiting =>
      rw [awaiting]
      exact Nat.zero_lt_one

end LinkGauge.Supervisor

namespace LinkGauge

/-!
## The moves of a closer

A closer takes its outcome from the reports, or gives up waiting at its ceiling, and then closes
the connection; `Closer.Moved` says which of these happens. A close counts as one call, leaves the
connection closed, and shuts the socket down only if it was open
(`Connection.shutdowns_close`).
-/

namespace Connection

/-- How often the socket has been shut down. -/
def shutdowns (c : Connection) : Nat :=
  match c.socket with
  | some socket => socket.calls.count .shutdown
  | none => 0

/-- Closing counts as one call. -/
theorem closeCalls_close (c : Connection) : c.close.2.closeCalls = c.closeCalls + 1 := by
  unfold close
  dsimp only
  split
  · rfl
  · split <;> rfl

/-- Closing leaves a connection closed. -/
theorem closed_close (c : Connection) : c.close.2.closed = true := by
  unfold close
  dsimp only
  split
  · next closed => exact closed
  · split <;> rfl

/-- Closing does not change what is known of the peer. -/
theorem peerClosed_close (c : Connection) : c.close.2.peerClosed = c.peerClosed := by
  unfold close
  dsimp only
  split
  · rfl
  · split <;> rfl

/-- Closing shuts the socket down once, and only if there is one that is open. -/
theorem shutdowns_close (c : Connection) :
    c.close.2.shutdowns = if c.closed || c.socket.isNone then c.shutdowns else c.shutdowns + 1 := by
  obtain ⟨closed, peerClosed, socket, closeCalls⟩ := c
  cases closed with
  | true => rfl
  | false =>
      cases socket with
      | none => rfl
      | some socket => exact List.count_cons_self

end Connection

namespace Closer

/-- What a closer does. -/
inductive Event where
  /-- It takes an outcome from the reports. -/
  | heard (outcome : Except SubtestError Unit)
  /-- It gives up waiting at its ceiling. -/
  | expired
  /-- It calls the connection's close. -/
  | closed (answer : Except CloseError Unit)

/-- What is logged when a closer waits no longer. -/
def expiry (ceiling : Nanos) : LogEvent where
  level := .warn
  message := "closer: maximum runtime exceeded"
  fields := [("ceiling", .text (Text.duration ceiling))]

/-- A failing close is only logged. -/
def noted (answer : Except CloseError Unit) (log : Log) : Log :=
  match answer with
  | .ok () => log
  | .error error => .warning "closer: close failed" error.message :: log

/-- What a closer can do. -/
inductive Moved (ceiling : Nanos) (c : Closer) (v : View) : Event → Closer × View → Prop where
  | hear {error : SubtestError} {outcome : Channel SubtestError} (waiting : c = .waiting)
      (taken : v.outcome.take? = some (error, outcome)) :
      Moved ceiling c v (.heard (.error error)) (settle { v with outcome } (.error error))
  | succeed (waiting : c = .waiting) (ended : v.outcome.ended = true) :
      Moved ceiling c v (.heard (.ok ())) (settle v (.ok ()))
  | expire (waiting : c = .waiting) (late : ceiling ≤ v.now) :
      Moved ceiling c v .expired
        (settle { v with log := expiry ceiling :: v.log } (.error .maxRuntimeExceeded))
  | close {result : Except SubtestError Unit} (closing : c = .closing result) :
      Moved ceiling c v (.closed v.connection.close.1)
        (.finished result,
          { v with
            connection := v.connection.close.2
            log := noted v.connection.close.1 v.log })

variable {ceiling : Nanos} {c : Closer} {v : View} {next : Closer × View}

private theorem moved_of_mem_moves (member : next ∈ c.moves ceiling v) :
    ∃ event, Moved ceiling c v event next := by
  unfold moves at member
  split at member
  · rcases List.mem_append.mp member with reported | expired
    · split at reported
      · next taken =>
          rw [List.mem_singleton.mp reported]
          exact ⟨_, .hear rfl taken⟩
      · split at reported
        · next ended =>
            rw [List.mem_singleton.mp reported]
            exact ⟨_, .succeed rfl ended⟩
        · cases reported
    · split at expired
      · next late =>
          rw [List.mem_singleton.mp expired]
          exact ⟨_, .expire rfl late⟩
      · cases expired
  · rw [List.mem_singleton.mp member]
    exact ⟨_, .close rfl⟩
  · cases member

/-- What `Moved` describes is a move of the closer. -/
theorem mem_moves_of_moved {event : Event} (moved : Moved ceiling c v event next) :
    next ∈ c.moves ceiling v := by
  cases moved with
  | hear waiting taken =>
      simp only [moves, waiting, taken, List.mem_append, List.mem_singleton, true_or]
  | succeed waiting ended =>
      simp only [moves, waiting, Channel.take?_of_ended ended, ended, ↓reduceIte, List.mem_append,
        List.mem_singleton, true_or]
  | expire waiting late =>
      simp only [moves, waiting, late, ↓reduceIte, List.mem_append]
      exact .inr (List.mem_singleton_self _)
  | close closing =>
      subst closing
      exact List.mem_singleton_self _

/-- The moves of a closer are those that `Moved` describes. -/
theorem mem_moves_iff : next ∈ c.moves ceiling v ↔ ∃ event, Moved ceiling c v event next :=
  ⟨moved_of_mem_moves, fun ⟨_, moved⟩ => mem_moves_of_moved moved⟩

/-- A closer with a result has finished. -/
theorem eq_of_result?_eq_some {result : Except SubtestError Unit}
    (decided : c.result? = some result) : c = .finished result := by
  cases c with
  | finished => rw [Option.some.inj decided]
  | waiting | closing => cases decided

/-- A closer hears of every error, and of the end of the reports. -/
theorem exists_moved_of_waiting (waiting : c = .waiting)
    (told : v.outcome.queue = [] → v.outcome.writers = 0) :
    ∃ event next, Moved ceiling c v event next := by
  cases queued : v.outcome.take? with
  | some taken => exact ⟨_, _, .hear waiting queued⟩
  | none =>
      have empty := Channel.take?_eq_none_iff.mp queued
      exact ⟨_, _, .succeed waiting (Channel.ended_iff.mpr ⟨empty, told empty⟩)⟩

/-- How many moves a closer has left. -/
def work : Closer → Nat
  | .waiting => 2
  | .closing _ => 1
  | .finished _ => 0

/-- Every move leaves a closer less to do. -/
theorem work_lt_of_moved {event : Event} (moved : Moved ceiling c v event next) :
    next.1.work < c.work := by
  cases moved with
  | hear waiting | succeed waiting | expire waiting =>
      rw [waiting]
      exact Nat.lt_succ_self 1
  | close closing =>
      rw [closing]
      exact Nat.zero_lt_one

/-- The outcome on which a closer has settled. -/
def outcome? : Closer → Option (Except SubtestError Unit)
  | .waiting => none
  | .closing result | .finished result => some result

end Closer

end LinkGauge
