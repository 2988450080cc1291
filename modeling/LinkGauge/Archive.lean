import LinkGauge.Diagnostics
import LinkGauge.Measurement.Basic
import LinkGauge.TextMap
import LinkGauge.UtcTime

/-!
# Archives

An archive holds everything that was collected during one test. The measurements of
either origin stand in the order in which they were recorded.
-/

namespace LinkGauge

/-- A measurement together with the side that made it. -/
structure Record where
  origin : Origin
  measurement : Measurement
  deriving DecidableEq, Repr

/-- Everything collected during one test. -/
structure Archive where
  uuid : String
  startTime : Option UtcTime := none
  endTime : Option UtcTime := none
  server : List Measurement := []
  client : List Measurement := []
  clientMetadata : TextMap := {}
  /-- The labels of the server that ran the test. -/
  serverMetadata : TextMap := {}

namespace Archive

/-- Appends a measurement to those of its origin. -/
def record (a : Archive) (r : Record) : Archive :=
  match r.origin with
  | .server => { a with server := a.server ++ [r.measurement] }
  | .client => { a with client := a.client ++ [r.measurement] }

/-- The counters of the last server measurement that has them. -/
def lastServerTcpStats (a : Archive) : Option TcpStats :=
  a.server.reverse.findSome? (·.tcpStats)

/-- The shortest round trip that the server measured, in microseconds. -/
def minPingRtt (a : Archive) : Option Int64 :=
  (a.server.filterMap fun m => m.rtt.map (·.minRtt)).min?

/-- The object of a map. -/
def mapToJson (m : TextMap) : Json :=
  .object (m.entries.map fun (key, value) => (some key, .text value))

/-- Reads the entries of a map, of which all must be texts. -/
def entries? : Json.Members → Option (List (String × String))
  | [] => some []
  | (key, value) :: rest => do return (← key, ← Json.text? value) :: (← entries? rest)

/-- Reads a map from an object; of entries with one key the last one counts. -/
def mapOfJson? : Json → Option TextMap
  | .object members => (entries? members).map .ofList
  | _ => none

/-- A text that may not be missing. -/
def uuidField : Json.Field String where
  name := "UUID"
  read? := Json.text?
  write a := some (.text a)
  absent := none
  past := none

/-- A moment or `null`; it may be missing from an object, but not from an array. -/
def timeField (name : String) : Json.Field (Option UtcTime) where
  name
  read? := Json.optional? fun value => do UtcTime.ofText? (← Json.text? value)
  write a := some (match a with | some time => .text time.toText | none => .null)
  absent := some none
  past := none

/-- A list of measurements. -/
def measurementsField (name : String) : Json.Field (List Measurement) where
  name
  read? := Json.list? Measurement.ofJson?
  write a := some (.array (a.map Measurement.toJson))
  absent := some []
  past := some []

/-- A map that is left out when it is empty. -/
def mapField (name : String) : Json.Field TextMap where
  name
  read? := mapOfJson?
  write a := if a.isEmpty then none else some (mapToJson a)
  absent := some {}
  past := some {}

/-- The types of the members of an archive. -/
abbrev Types : List Type :=
  [String, Option UtcTime, Option UtcTime, List Measurement, List Measurement, TextMap, TextMap]

/-- The members of an archive. -/
def schema : Json.Schema Types :=
  .cons uuidField <| .cons (timeField "StartTime") <| .cons (timeField "EndTime") <|
  .cons (measurementsField "ServerMeasurements") <|
  .cons (measurementsField "ClientMeasurements") <|
  .cons (mapField "ClientMetadata") <| .cons (mapField "ServerMetadata") .nil

/-- The members of an archive in their order. -/
def toRow (a : Archive) : Json.Row Types :=
  (a.uuid, a.startTime, a.endTime, a.server, a.client, a.clientMetadata, a.serverMetadata, ())

/-- The archive with members given in their order. -/
def ofRow : Json.Row Types → Archive
  | (uuid, startTime, endTime, server, client, clientMetadata, serverMetadata, ()) =>
    { uuid, startTime, endTime, server, client, clientMetadata, serverMetadata }

/-- Reads an archive. -/
def ofJson? (value : Json) : Option Archive := (schema.read? value).map ofRow

/-- Writes an archive. -/
def toJson (a : Archive) : Json := schema.write a.toRow

/-- Reads an archive from a text. -/
def ofText? (text : String) : Option Archive := do ofJson? (← Json.ofText? text)

/-- The compact text of an archive. -/
def toText (a : Archive) : String := a.toJson.write

end Archive

/-!
## The summary of a test

A test ends with one log entry: the throughput over the whole subtest, or the shortest
round trip of a ping run.
-/

namespace Archive

/-- The throughput of a subtest in Mbit/s: the bytes that the last counters of the server
give for its direction, over the time of these counters in microseconds. -/
def throughput? (a : Archive) (subtest : Subtest) : Option Float := do
  let stats ← a.lastServerTcpStats
  let bytes := if subtest = .upload then stats.bytesReceived else stats.bytesAcked
  if 0 < stats.elapsedTime then some (bytes.toFloat * 8 / stats.elapsedTime.toFloat) else none

/-- A number rounded to two decimal places. -/
def hundredths (value : Float) : Float := (value * 100).round / 100

/-- The log entry at the end of a test. -/
def summary (a : Archive) (subtest : Subtest) : LogEvent :=
  match subtest with
  | .ping =>
    match a.minPingRtt with
    | some rtt => ⟨.info, "ping complete", [("min_rtt_ms", .number (rtt.toFloat / 1000))]⟩
    | none => ⟨.info, "ping complete without rtt samples", []⟩
  | .download | .upload =>
    match a.throughput? subtest with
    | some mbps =>
      ⟨.info, subtest.name ++ " complete", [("mbps", .number (hundredths mbps))]⟩
    | none => ⟨.info, subtest.name ++ " complete without kernel samples", []⟩

end Archive

end LinkGauge
