import LinkGauge.Endpoint
import LinkGauge.Service
import LinkGauge.TextMap
import LinkGauge.UtcTime

/-!
# The header of a results file

A header has entries of the client and entries of the server. Keys of the server have a
mark in front, and the client's entries with this mark are dropped, so neither part can
reach into the other. A key that the client gives more than once is dropped as well.
-/

namespace LinkGauge

namespace Header

/-- What stands in front of the keys of the server. -/
def serverMark : String := "server_"

/-- Whether a key belongs to the server. -/
def isServerKey (key : String) : Bool := serverMark.toList.isPrefixOf key.toList

/-- The entries of a query that go into the header. -/
def clientEntries (query : List (String × String)) : List (String × String) :=
  query.filter fun entry =>
    !isServerKey entry.1 && query.countP (fun other => other.1 == entry.1) == 1

end Header

/-- What a header says about a test. -/
structure TestFacts where
  /-- The server's end of the connection. -/
  localEnd : Endpoint
  /-- The client's end of the connection. -/
  remoteEnd : Endpoint
  subtest : Subtest
  uuid : String
  start : UtcTime
  labels : TextMap := {}

namespace TestFacts

/-- The entries of the server. -/
def entries (t : TestFacts) : List (String × String) :=
  [("server_name", Service.name),
    ("server_version", Service.version),
    ("server_local_endpoint", t.localEnd.toText),
    ("server_remote_endpoint", t.remoteEnd.toText),
    ("server_subtest", t.subtest.name),
    ("server_uuid", t.uuid),
    ("server_start_time", t.start.toOffsetText)] ++
  t.labels.entries.map fun (key, value) => ("server_label_" ++ key, value)

/-- The header for a test and the client's query. -/
def header (t : TestFacts) (query : List (String × String)) : TextMap :=
  .ofList (Header.clientEntries query ++ t.entries)

end TestFacts

namespace Header

/-- The client's part of a header. -/
def clientPart (header : TextMap) : TextMap := header.filterKeys fun key => !isServerKey key

end Header

end LinkGauge
