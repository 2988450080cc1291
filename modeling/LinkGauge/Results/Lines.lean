import LinkGauge.Archive
import LinkGauge.Diagnostics
import LinkGauge.Text.Utf8

/-!
# Results as lines of JSON

Every value is written as one line of compact JSON. A sink takes bytes until its room
is used up and then fails; a write that fails within a value is an encoding error, and
one that fails at the end of the line is an input/output error.
-/

namespace LinkGauge

/-- Why results could not be stored. -/
inductive StoreError where
  | io (cause : SystemError)
  /-- The value could not be written. -/
  | encoding (cause : String)
  deriving DecidableEq, Repr

/-- The wording of an error. -/
def StoreError.message : StoreError → String
  | .io cause => "results I/O: " ++ cause.message
  | .encoding cause => "results encoding: " ++ cause

/-- Something that takes bytes. -/
structure ByteSink where
  /-- How many bytes it still takes; `none` when it takes any number. -/
  room : Option Nat := none
  /-- What a write is told that does not fit. -/
  refusal : String := "disk full"
  /-- The bytes taken, in pieces, newest first. -/
  pieces : List (List UInt8) := []

namespace ByteSink

/-- The bytes taken so far. -/
def bytes (s : ByteSink) : List UInt8 := s.pieces.reverse.flatten

/-- Takes what fits, and tells whether that was everything. -/
def write (s : ByteSink) (bytes : List UInt8) : Bool × ByteSink :=
  match s.room with
  | none => (true, { s with pieces := bytes :: s.pieces })
  | some room =>
    (bytes.length ≤ room,
      { s with room := some (room - bytes.length), pieces := bytes.take room :: s.pieces })

/-- Writes a value and the end of its line. -/
def writeLine (s : ByteSink) (value : Json) : Except StoreError Unit × ByteSink :=
  match s.write (Text.utf8 value.write) with
  | (false, s) => (.error (.encoding s.refusal), s)
  | (true, s) =>
    match s.write [10] with
    | (false, s) => (.error (.io (.other s.refusal)), s)
    | (true, s) => (.ok (), s)

end ByteSink

namespace Record

/-- The line of a record. -/
def toJson (r : Record) : Json :=
  .object [(some "origin", r.origin.toJson), (some "measurement", r.measurement.toJson)]

/-- The text of a record's line, with its end. -/
def line (r : Record) : String := r.toJson.write ++ "\n"

end Record

/-- Where the records of a run are stored: the answer to each write may depend on the
writes before it. -/
structure RecordSink where
  /-- Why a write fails after the given ones, newest first, if it does. -/
  refusal? : List Record → Record → Option StoreError := fun _ _ => none
  /-- The writes tried so far, newest first. -/
  tried : List Record := []

namespace RecordSink

/-- Tries to write a record. -/
def write (s : RecordSink) (r : Record) : Option StoreError × RecordSink :=
  (s.refusal? s.tried r, { s with tried := r :: s.tried })

end RecordSink

/-- Limits under which a sink begins to fail. -/
structure SinkLimits where
  /-- How many writes succeed. -/
  writes : Option Nat := none
  /-- How many bytes there is room for. -/
  room : Option Nat := none

namespace SinkLimits

/-- Writes records, oldest first, to a sink: the answer to the last one, and the sink. -/
def writeAll (limits : SinkLimits) (records : List Record) : Option StoreError × ByteSink :=
  let start : Option StoreError × ByteSink × Nat := (none, { room := limits.room }, 0)
  let (answer, sink, _) := records.foldl
    (fun (_, sink, count) record =>
      if limits.writes.any (· ≤ count) then
        (some (.io (.other sink.refusal)), sink, count + 1)
      else
        match sink.writeLine record.toJson with
        | (.ok (), sink) => (none, sink, count + 1)
        | (.error error, sink) => (some error, sink, count + 1))
    start
  (answer, sink)

/-- The sink with these limits. -/
def sink (limits : SinkLimits) : RecordSink where
  refusal? tried record :=
    match limits.writes, limits.room with
    | none, none => none
    | _, _ => (limits.writeAll (record :: tried).reverse).1

/-- The bytes that the sink holds after the given writes, newest first. -/
def bytes (limits : SinkLimits) (tried : List Record) : List UInt8 :=
  (limits.writeAll tried.reverse).2.bytes

end SinkLimits

end LinkGauge
