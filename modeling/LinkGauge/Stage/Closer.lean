import LinkGauge.Stage.Saver
import LinkGauge.Stage.Sender

/-!
# The closer and the supervisor of a subtest

The closer waits for the outcome of a subtest, but no longer than the ceiling, and
then closes the connection, once. The first error reported is the outcome; no error
until the last reporter has gone is success.

The supervisor waits for the saver and the sender, reports their errors in the order
sender, saver, and returns what the closer decided. A report that comes after the
decision is lost and does not block.
-/

namespace LinkGauge

/-- Why a subtest failed. -/
inductive SubtestError where
  | maxRuntimeExceeded
  | send (error : SendError)
  | archive (error : StoreError)
  /-- A stage ended abnormally. -/
  | taskFailed (reason : String)
  deriving DecidableEq, Repr

/-- The wording of an error. -/
def SubtestError.message : SubtestError → String
  | .maxRuntimeExceeded => "maximum runtime exceeded"
  | .send error => error.message
  | .archive error => "cannot archive results: " ++ error.message
  | .taskFailed reason => "pipeline task failed: " ++ reason

namespace Closer

/-- What a closer shares with others. -/
structure View where
  now : Nanos
  connection : Connection
  outcome : Channel SubtestError
  log : Log

end Closer

/-- The state of a closer. -/
inductive Closer where
  | waiting
  /-- It is about to close the connection. -/
  | closing (result : Except SubtestError Unit)
  | finished (result : Except SubtestError Unit)

namespace Closer

/-- Takes a result; later reports are lost. -/
def settle (v : View) (result : Except SubtestError Unit) : Closer × View :=
  (.closing result, { v with outcome := v.outcome.stopReading })

/-- The steps a closer can take; `ceiling` is the moment at which it waits no longer. -/
def moves (ceiling : Nanos) (c : Closer) (v : View) : List (Closer × View) :=
  match c with
  | .waiting =>
    let reported :=
      match v.outcome.take? with
      | some (error, outcome) => [settle { v with outcome } (.error error)]
      | none => if v.outcome.ended then [settle v (.ok ())] else []
    let expired :=
      if ceiling ≤ v.now then
        let event : LogEvent :=
          { level := .warn
            message := "closer: maximum runtime exceeded"
            fields := [("ceiling", .text (Text.duration ceiling))] }
        [settle { v with log := event :: v.log } (.error .maxRuntimeExceeded)]
      else []
    reported ++ expired
  | .closing result =>
    let (answer, connection) := v.connection.close
    let log :=
      match answer with
      | .ok () => v.log
      | .error error => .warning "closer: close failed" error.message :: v.log
    [(.finished result, { v with connection, log })]
  | .finished _ => []

/-- The moments at which a waiting closer may go on by itself. -/
def alarms (ceiling : Nanos) (c : Closer) : List Nanos :=
  match c with
  | .waiting => [ceiling]
  | _ => []

/-- The result of a closer that has finished. -/
def result? : Closer → Option (Except SubtestError Unit)
  | .finished result => some result
  | _ => none

end Closer

namespace Supervisor

/-- What a supervisor shares with others. -/
structure View where
  now : Nanos
  /-- How the sender ended. -/
  sent : Option (Except SubtestError Unit)
  /-- How the saver ended. -/
  saved : Option (Except StoreError Unit)
  /-- What the closer decided. -/
  closed : Option (Except SubtestError Unit)
  errors : Channel SubtestError
  archive : Archive

end Supervisor

/-- The state of a supervisor. -/
inductive Supervisor where
  | awaitingSaver
  | awaitingSender (saved : Except StoreError Unit)
  /-- It has errors left to report. -/
  | reporting (errors : List SubtestError)
  | awaitingCloser
  | finished (result : Except SubtestError Unit)

namespace Supervisor

/-- The errors of a sender and a saver in the order in which they are reported. -/
def failures (sent : Except SubtestError Unit) (saved : Except StoreError Unit) :
    List SubtestError :=
  (match sent with | .error error => [error] | .ok () => []) ++
    (match saved with | .error error => [.archive error] | .ok () => [])

/-- The steps a supervisor can take; `clock` is the wall clock. -/
def moves (clock : Nanos → UtcTime) (s : Supervisor) (v : View) : List (Supervisor × View) :=
  match s with
  | .awaitingSaver =>
    match v.saved with
    | some saved =>
      [(.awaitingSender saved, { v with archive.endTime := some (clock v.now) })]
    | none => []
  | .awaitingSender saved =>
    match v.sent with
    | some sent => [(.reporting (failures sent saved), v)]
    | none => []
  | .reporting [] => [(.awaitingCloser, { v with errors := v.errors.hangUp })]
  | .reporting (error :: rest) =>
    match v.errors.send? error with
    | some (_, errors) => [(.reporting rest, { v with errors })]
    | none => []
  | .awaitingCloser =>
    match v.closed with
    | some result => [(.finished result, v)]
    | none => []
  | .finished _ => []

/-- The result of a supervisor that has finished. -/
def result? : Supervisor → Option (Except SubtestError Unit)
  | .finished result => some result
  | _ => none

end Supervisor

end LinkGauge
