import LinkGauge.Diagnostics
import LinkGauge.Endpoint
import LinkGauge.Filler
import LinkGauge.Sampling
import LinkGauge.Text.Quoted
import LinkGauge.Text.Split
import LinkGauge.TextMap

/-!
# The configuration of a server

Settings are what a file and the command line give: everything in them is optional. The
configuration is what a server runs with: everything in it has a value. `ConfigError`
says why there is none.
-/

namespace LinkGauge

/-- Where the statistics of a connection come from. -/
inductive Instrumentation where
  /-- The kernel's record of the socket. -/
  | kernel
  /-- Nowhere: measurements carry none. -/
  | stub
  deriving DecidableEq, Repr

namespace Instrumentation

/-- The name of a source. -/
def name : Instrumentation → String
  | .kernel => "kernel"
  | .stub => "stub"

/-- The source with a name. -/
def ofName? (name : String) : Option Instrumentation :=
  if name = "kernel" then some .kernel
  else if name = "stub" then some .stub
  else none

end Instrumentation

/-- Given sampling intervals, in milliseconds. -/
structure SamplingSettings where
  least : Option Nat := none
  expected : Option Nat := none
  greatest : Option Nat := none
  deriving DecidableEq, Repr

/-- Given time limits, in milliseconds. -/
structure RuntimeSettings where
  defaultRuntime : Option Nat := none
  maxRuntime : Option Nat := none
  ioTimeout : Option Nat := none
  deriving DecidableEq, Repr

/-- Given sizes of filler frames, in bytes. -/
structure FillerSettings where
  least : Option Nat := none
  initial : Option Nat := none
  greatest : Option Nat := none
  scaled : Option Nat := none
  fraction : Option Nat := none
  deriving DecidableEq, Repr

/-- What a file and the command line give. -/
structure Settings where
  listen : Option String := none
  dataDir : Option String := none
  compress : Option Bool := none
  instrumentation : Option Instrumentation := none
  maxMessageSize : Option Nat := none
  sampling : SamplingSettings := {}
  runtime : RuntimeSettings := {}
  filler : FillerSettings := {}
  /-- The labels that are attached to every results file. -/
  labels : TextMap := {}

/-- What a server runs with. -/
structure ServerConfig where
  listen : Endpoint := .v4 ⟨0, 0, 0, 0⟩ 8080
  /-- The directory of the results files. -/
  dataDir : String := "./data"
  /-- Whether results files are compressed. -/
  compress : Bool := true
  instrumentation : Instrumentation := .kernel
  maxMessageSize : Nat := 16777216
  sampling : Sampling := {}
  /-- When sampling stops. -/
  defaultRuntime : Nanos := seconds 10
  /-- When a test ends at the latest. -/
  maxRuntime : Nanos := seconds 15
  /-- How long one write may take. -/
  ioTimeout : Nanos := seconds 7
  filler : FillerSizes := {}
  labels : TextMap := {}

/-- Why there is no configuration. -/
inductive ConfigError where
  /-- The file cannot be read. -/
  | unreadable (path : String) (cause : SystemError)
  /-- The file holds no settings. -/
  | malformed
  | listenAddress (text : String)
  | sampling (error : SamplingError)
  /-- A time limit that must be positive is zero. -/
  | zeroRuntime
  | runtimeOrder (defaultRuntime maxRuntime : Nanos)
  | fillerOrder (sizes : FillerSizes)
  /-- Frames could grow beyond the greatest size. -/
  | fillerScale
  | labelKey (key : String)
  /-- The text of a label is no key with a value. -/
  | label (text : String)
  deriving DecidableEq, Repr

/-- The wording of an error. -/
def ConfigError.message : ConfigError → String
  | .unreadable path cause => "cannot read " ++ path ++ ": " ++ cause.message
  | .malformed => "invalid config TOML"
  | .listenAddress text => "invalid listen address " ++ Text.quoted text
  | .sampling error => "sampling: " ++ error.message
  | .zeroRuntime => "runtime: default_ms and io_timeout_ms must be positive"
  | .runtimeOrder defaultRuntime maxRuntime =>
    "runtime: default (" ++ Text.duration defaultRuntime ++ ") exceeds max (" ++
      Text.duration maxRuntime ++ ")"
  | .fillerOrder sizes =>
    "filler: need 0 < min <= initial <= max, got " ++ Text.natText sizes.least ++ "/" ++
      Text.natText sizes.initial ++ "/" ++ Text.natText sizes.greatest
  | .fillerScale => "filler: max_scaled_bytes exceeds max_bytes"
  | .labelKey key => "labels: invalid key " ++ Text.quoted key ++ ", use [A-Za-z0-9_-]+"
  | .label text => "label " ++ Text.quoted text ++ ": expected key=value"

end LinkGauge

namespace LinkGauge.ServerConfig

/-!
## An overview of a configuration

Every setting has a line with its name and its value.
-/

open Text

/-- Numbers in a row. -/
def numbers (ns : List Nat) : String := " ".intercalate (ns.map natText)

/-- Spans in a row. -/
def spans (spans : List Nanos) : String := " ".intercalate (spans.map duration)

/-- The lines of an overview. -/
def overview (c : ServerConfig) : List String :=
  ["listen " ++ c.listen.toText,
    "data directory " ++ quoted c.dataDir,
    "compress " ++ (if c.compress then "true" else "false"),
    "instrumentation " ++ c.instrumentation.name,
    "greatest message " ++ natText c.maxMessageSize,
    "sampling " ++ spans [c.sampling.least, c.sampling.expected, c.sampling.greatest],
    "runtime " ++ spans [c.defaultRuntime, c.maxRuntime, c.ioTimeout],
    "filler " ++
      numbers [c.filler.least, c.filler.initial, c.filler.greatest, c.filler.scaled,
        c.filler.fraction]] ++
  c.labels.entries.map fun (key, value) => "label " ++ key ++ " " ++ quoted value

end LinkGauge.ServerConfig

namespace LinkGauge

/-!
## Deployment labels

A label is a key with a value. Keys have letters, digits, underscores and hyphens only;
in a text, blanks around the key do not count, and everything behind the first equals
sign is the value.
-/

/-- Whether a text can be the key of a label. -/
def isLabelKey (key : String) : Bool :=
  !key.isEmpty && key.toList.all fun c => c.isAlphanum || c = '_' || c = '-'

/-- Reads a label from a text. -/
def parseLabel (text : String) : Except ConfigError (String × String) :=
  match Text.cut? '=' text.toList with
  | none => .error (.label text)
  | some (front, value) =>
    let key := String.ofList (Text.trim front)
    if isLabelKey key then .ok (key, String.ofList value) else .error (.label text)

end LinkGauge
