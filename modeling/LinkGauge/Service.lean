import LinkGauge.Json.Record
import LinkGauge.Text.Split

/-!
# The service and its subtests
-/

namespace LinkGauge

/-!
## Labels of a measurement

Which side of the connection produced a measurement, and which subtest it belongs
to. Each label has one lower-case name, used in file names, in JSON and in logs.
-/

/-- The side of the connection that produced a measurement. -/
inductive Origin where
  | server
  | client
  deriving DecidableEq, Repr

/-- The kind of a subtest. -/
inductive Subtest where
  | download
  | upload
  | ping
  deriving DecidableEq, Repr

namespace Origin

/-- The name of an origin. -/
def name : Origin → String
  | .server => "server"
  | .client => "client"

/-- The origin with a name. -/
def ofName? (name : String) : Option Origin :=
  if name = "server" then some .server
  else if name = "client" then some .client
  else none

/-- The capitalised name, for diagnostics. -/
def title : Origin → String
  | .server => "Server"
  | .client => "Client"

/-- Reads an origin. -/
def ofJson? : Json → Option Origin := Json.choice? ofName?

/-- Writes an origin as its name. -/
def toJson (origin : Origin) : Json := .text origin.name

end Origin

namespace Subtest

/-- The name of a subtest. -/
def name : Subtest → String
  | .download => "download"
  | .upload => "upload"
  | .ping => "ping"

/-- The subtest with a name. -/
def ofName? (name : String) : Option Subtest :=
  if name = "download" then some .download
  else if name = "upload" then some .upload
  else if name = "ping" then some .ping
  else none

/-- The capitalised name, for diagnostics. -/
def title : Subtest → String
  | .download => "Download"
  | .upload => "Upload"
  | .ping => "Ping"

/-- Reads a subtest. -/
def ofJson? : Json → Option Subtest := Json.choice? ofName?

/-- Writes a subtest as its name. -/
def toJson (subtest : Subtest) : Json := .text subtest.name

end Subtest

end LinkGauge

namespace LinkGauge.Service

/-!
## The service

What the service calls itself, where its subtests are found, and when a client offers
to speak its protocol.
-/

/-- The name of the server in the header of a results file. -/
def name : String := "ndt7-server"

/-- The version of the server. -/
def version : String := "0.1.0"

/-- The subprotocol that a client has to offer. -/
def subprotocol : String := "net.measurementlab.ndt.v7"

/-- The path of a subtest. -/
def path : Subtest → String
  | .download => "/ndt/v7/download"
  | .upload => "/ndt/v7/upload"
  | .ping => "/ndt/v7/ping"

/-- The subtest with a path. -/
def ofPath? (path : String) : Option Subtest :=
  [Subtest.download, .upload, .ping].find? fun s => Service.path s == path

/-- Whether a byte of a header value is visible ASCII, a space or a tab. -/
def isPlain (b : UInt8) : Bool := b == 9 || (32 ≤ b && b ≤ 126)

/-- A header value as text, when all of its bytes are plain. -/
def plainText? (value : List UInt8) : Option (List Char) :=
  if value.all isPlain then some (value.map fun b => Char.ofNat b.toNat) else none

/-- The elements of a header value that is a list divided by commas. -/
def elements (value : List Char) : List (List Char) := (Text.split ',' value).map Text.trim

/-- Whether one of the values, each of them a list divided by commas, has the subprotocol
as an element; values that are not plain do not count. -/
def isOffered (values : List (List UInt8)) : Bool :=
  values.any fun value =>
    (plainText? value).any fun text => (elements text).contains subprotocol.toList

end LinkGauge.Service
