import LinkGauge.Json.Basic
import LinkGauge.Json.Reader
import LinkGauge.Measurement.TcpStats
import LinkGauge.Service

/-!
# Measurements

A measurement is a sample taken at one moment. Its parts are independently
optional: a part that was not measured is absent, which differs from a part whose
counters are zero. `Measurement.merge` lets the parts of a later measurement
replace those of an earlier one.
-/

namespace LinkGauge

/-- Byte counters kept by the application. -/
structure AppInfo where
  numBytes : Int64 := 0
  /-- Microseconds since the subtest started. -/
  elapsedTime : Int64 := 0
  deriving DecidableEq, Repr

/-- The connection under test: its two endpoints and the identifier of the test. -/
structure Identity where
  client : String := ""
  server : String := ""
  uuid : String := ""
  deriving DecidableEq, Repr

/-- The path estimate of the congestion control algorithm. -/
structure Congestion where
  /-- Largest bandwidth seen, bytes per second. -/
  bandwidth : Int64 := 0
  /-- Smallest round trip seen, microseconds. -/
  minRtt : Int64 := 0
  /-- Microseconds since the subtest started. -/
  elapsedTime : Int64 := 0
  deriving DecidableEq, Repr

/-- Round trips measured by ping and pong, in microseconds. -/
structure RttSample where
  elapsedTime : Int64 := 0
  lastRtt : Int64 := 0
  minRtt : Int64 := 0
  deriving DecidableEq, Repr

namespace AppInfo

/-- The members of the counters. -/
def schema : Json.Schema [Int64, Int64] :=
  .cons (.counter "NumBytes") <| .cons (.counter "ElapsedTime") .nil

/-- Reads the counters; a missing one is zero. -/
def ofJson? (value : Json) : Option AppInfo :=
  (schema.read? value).map fun (numBytes, elapsedTime, ()) => { numBytes, elapsedTime }

/-- Writes the counters. -/
def toJson (a : AppInfo) : Json := schema.write (a.numBytes, a.elapsedTime, ())

end AppInfo

namespace Identity

/-- The members of an identity. -/
def schema : Json.Schema [String, String, String] :=
  .cons (.text "Client") <| .cons (.text "Server") <| .cons (.text "UUID") .nil

/-- Reads an identity; a missing text is empty. -/
def ofJson? (value : Json) : Option Identity :=
  (schema.read? value).map fun (client, server, uuid, ()) => { client, server, uuid }

/-- Writes an identity. -/
def toJson (i : Identity) : Json := schema.write (i.client, i.server, i.uuid, ())

end Identity

namespace Congestion

/-- The members of an estimate. -/
def schema : Json.Schema [Int64, Int64, Int64] :=
  .cons (.counter "BW") <| .cons (.counter "MinRTT") <| .cons (.counter "ElapsedTime") .nil

/-- Reads an estimate; a missing number is zero. -/
def ofJson? (value : Json) : Option Congestion :=
  (schema.read? value).map fun (bandwidth, minRtt, elapsedTime, ()) =>
    { bandwidth, minRtt, elapsedTime }

/-- Writes an estimate. -/
def toJson (c : Congestion) : Json := schema.write (c.bandwidth, c.minRtt, c.elapsedTime, ())

end Congestion

namespace RttSample

/-- The members of a sample. -/
def schema : Json.Schema [Int64, Int64, Int64] :=
  .cons (.counter "ElapsedTime") <| .cons (.counter "LastRTT") <| .cons (.counter "MinRTT") .nil

/-- Reads a sample; a missing number is zero. -/
def ofJson? (value : Json) : Option RttSample :=
  (schema.read? value).map fun (elapsedTime, lastRtt, minRtt, ()) =>
    { elapsedTime, lastRtt, minRtt }

/-- Writes a sample. -/
def toJson (r : RttSample) : Json := schema.write (r.elapsedTime, r.lastRtt, r.minRtt, ())

end RttSample

/-- A sample taken at one moment; every part may be absent. -/
structure Measurement where
  appInfo : Option AppInfo := none
  identity : Option Identity := none
  congestion : Option Congestion := none
  tcpStats : Option TcpStats := none
  rtt : Option RttSample := none
  origin : Option Origin := none
  test : Option Subtest := none
  deriving DecidableEq, Repr

namespace Measurement

/-- The parts of both measurements; where both have a part, that of the second. -/
def merge (earlier later : Measurement) : Measurement where
  appInfo := later.appInfo <|> earlier.appInfo
  identity := later.identity <|> earlier.identity
  congestion := later.congestion <|> earlier.congestion
  tcpStats := later.tcpStats <|> earlier.tcpStats
  rtt := later.rtt <|> earlier.rtt
  origin := later.origin <|> earlier.origin
  test := later.test <|> earlier.test

/-- The measurement without the identity of its connection. -/
def withoutIdentity (m : Measurement) : Measurement := { m with identity := none }

/-- The types of the parts in the order in which they are written. -/
abbrev Types : List Type :=
  [Option AppInfo, Option Identity, Option Congestion, Option TcpStats, Option RttSample,
    Option Origin, Option Subtest]

/-- The parts in the order in which they are written. -/
def schema : Json.Schema Types :=
  .cons (.optional "AppInfo" AppInfo.ofJson? AppInfo.toJson) <|
  .cons (.optional "ConnectionInfo" Identity.ofJson? Identity.toJson) <|
  .cons (.optional "BBRInfo" Congestion.ofJson? Congestion.toJson) <|
  .cons (.optional "TCPInfo" TcpStats.ofJson? TcpStats.toJson) <|
  .cons (.optional "WSPingInfo" RttSample.ofJson? RttSample.toJson) <|
  .cons (.optional "Origin" Origin.ofJson? Origin.toJson) <|
  .cons (.optional "Test" Subtest.ofJson? Subtest.toJson) .nil

/-- The parts of a measurement in their order. -/
def toRow (m : Measurement) : Json.Row Types :=
  (m.appInfo, m.identity, m.congestion, m.tcpStats, m.rtt, m.origin, m.test, ())

/-- The measurement with parts given in their order. -/
def ofRow : Json.Row Types → Measurement
  | (appInfo, identity, congestion, tcpStats, rtt, origin, test, ()) =>
    { appInfo, identity, congestion, tcpStats, rtt, origin, test }

/-- Reads a measurement; a part that is missing or `null` is absent. -/
def ofJson? (value : Json) : Option Measurement := (schema.read? value).map ofRow

/-- Writes the parts that are present. -/
def toJson (m : Measurement) : Json := schema.write m.toRow

/-- Reads a measurement from a text. -/
def ofText? (text : String) : Option Measurement := do ofJson? (← Json.ofText? text)

/-- The compact text of a measurement. -/
def toText (m : Measurement) : String := m.toJson.write

end Measurement

end LinkGauge
