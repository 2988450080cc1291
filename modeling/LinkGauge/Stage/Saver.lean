import LinkGauge.Channel
import LinkGauge.Diagnostics
import LinkGauge.Results.Lines

/-!
# The saver

The saver merges the measurements of both origins and stores them. Two forwarders
label what they take and hand it to one channel, which ends when both have finished.
The saver records everything that comes out of it; it writes every record until a
write fails, and then only records. Measurements of the server lose the identity of
the connection, which the results carry elsewhere.
-/

namespace LinkGauge

/-- A forwarder of one input: it waits for a measurement, or hands one on. -/
inductive Forwarder where
  | waiting
  | holding (record : Record)
  | finished
  deriving DecidableEq, Repr

namespace Forwarder

/-- What a forwarder shares with others. -/
structure View (α : Type) where
  source : Channel α
  merged : Channel Record

variable {α : Type}

/-- The steps a forwarder can take, labelling what it takes. -/
def moves (label : α → Record) (f : Forwarder) (v : View α) : List (Forwarder × View α) :=
  match f with
  | .waiting =>
    match v.source.take? with
    | some (value, source) => [(.holding (label value), { v with source })]
    | none =>
      if v.source.ended then [(.finished, { v with merged := v.merged.hangUp })] else []
  | .holding record =>
    match v.merged.send? record with
    | some (_, merged) => [(.waiting, { v with merged })]
    | none => []
  | .finished => []

end Forwarder

namespace Saver

/-- What a saver shares with others. -/
structure View where
  merged : Channel Record
  sink : RecordSink
  archive : Archive
  log : Log

end Saver

/-- The state of a saver. -/
structure Saver where
  /-- The first write that failed. -/
  failure : Option StoreError := none
  finished : Bool := false

namespace Saver

/-- A record as it is stored. -/
def stored (r : Record) : Record :=
  match r.origin with
  | .server => { r with measurement := r.measurement.withoutIdentity }
  | .client => r

/-- Stores a record. -/
def save (s : Saver) (v : View) (r : Record) : Saver × View :=
  let v := { v with archive := v.archive.record r }
  match s.failure with
  | some _ => (s, v)
  | none =>
    match v.sink.write r with
    | (none, sink) => (s, { v with sink })
    | (some error, sink) =>
      ({ s with failure := some error },
        { v with sink, log := .warning "saver: write failed, draining" error.message :: v.log })

/-- The steps a saver can take. -/
def moves (s : Saver) (v : View) : List (Saver × View) :=
  if s.finished then []
  else
    match v.merged.take? with
    | some (record, merged) => [s.save { v with merged } (stored record)]
    | none => if v.merged.ended then [({ s with finished := true }, v)] else []

/-- The result of a saver that has finished. -/
def result? (s : Saver) : Option (Except StoreError Unit) :=
  if s.finished then
    match s.failure with
    | some error => some (.error error)
    | none => some (.ok ())
  else none

end Saver

end LinkGauge
