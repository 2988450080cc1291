import LinkGauge.Config.Basic
import LinkGauge.Text.Split
import LinkGauge.Text.Utf8
import LinkGauge.Toml.Reader

/-!
# Settings in a file

A file of settings is a TOML document; a blank one gives no settings. Keys that are not
known are ignored. A group of settings is a table, or an array of its values in order.
-/

namespace LinkGauge

open Toml

namespace Settings

/-- A natural number below 2^64. -/
def natural? : Value → Option Nat
  | .integer n => if 0 ≤ n ∧ n < 0x10000000000000000 then some n.toNat else none
  | _ => none

/-- A text. -/
def text? : Value → Option String
  | .text content => some content
  | _ => none

/-- A truth value. -/
def boolean? : Value → Option Bool
  | .boolean value => some value
  | _ => none

/-- Whether a value is an empty array or an empty table. -/
def isEmpty : Value → Bool
  | .array [] => true
  | .table _ [] => true
  | _ => false

/-- A source of statistics: its name, or a table with its name as the only key and
nothing under it. -/
def instrumentation? : Value → Option Instrumentation
  | .text name => Instrumentation.ofName? name
  | .table _ [(name, value)] => if isEmpty value then Instrumentation.ofName? name else none
  | _ => none

/-- The value under a key, if there is one. -/
def given? {α : Type} (members : Members) (key : String) (read? : Value → Option α) :
    Option (Option α) :=
  match members.lookup key with
  | some value => (read? value).map some
  | none => some none

/-- The given ones of a group of natural numbers. A moment counts as a table whose keys
are not known. -/
def group? (keys : List String) : Value → Option (List (Option Nat))
  | .table _ members => keys.mapM fun key => given? members key natural?
  | .moment => some (keys.map fun _ => none)
  | value => do
    let items ← value.items?
    let given ← (items.take keys.length).mapM natural?
    return given.map some ++ List.replicate (keys.length - given.length) none

/-- The key under which a moment counts as a table. -/
def momentKey : String := "$__toml_private_datetime"

/-- A map from texts to texts. -/
def texts? : Value → Option TextMap
  | .table _ members => do
    return .ofList (← members.mapM fun (key, value) => do return (key, ← text? value))
  | .moment => some (.ofList [(momentKey, "")])
  | _ => none

/-- Sampling intervals in a document. -/
def sampling? (members : Members) : Option SamplingSettings :=
  match members.lookup "sampling" with
  | none => some {}
  | some value => do
    match ← group? ["min_ms", "expected_ms", "max_ms"] value with
    | [least, expected, greatest] => return { least, expected, greatest }
    | _ => none

/-- Time limits in a document. -/
def runtime? (members : Members) : Option RuntimeSettings :=
  match members.lookup "runtime" with
  | none => some {}
  | some value => do
    match ← group? ["default_ms", "max_ms", "io_timeout_ms"] value with
    | [defaultRuntime, maxRuntime, ioTimeout] => return { defaultRuntime, maxRuntime, ioTimeout }
    | _ => none

/-- Sizes of filler frames in a document. -/
def filler? (members : Members) : Option FillerSettings :=
  match members.lookup "filler" with
  | none => some {}
  | some value => do
    let keys :=
      ["min_bytes", "initial_bytes", "max_bytes", "max_scaled_bytes", "scaling_fraction"]
    match ← group? keys value with
    | [least, initial, greatest, scaled, fraction] =>
      return { least, initial, greatest, scaled, fraction }
    | _ => none

/-- Labels in a document. -/
def labels? (members : Members) : Option TextMap :=
  match members.lookup "labels" with
  | none => some {}
  | some value => texts? value

/-- The settings in a document. -/
def ofDocument? (members : Members) : Option Settings := do
  return {
    listen := ← given? members "listen_addr" text?
    dataDir := ← given? members "datadir" text?
    compress := ← given? members "compress" boolean?
    instrumentation := ← given? members "instrumentation" instrumentation?
    maxMessageSize := ← given? members "max_message_size" natural?
    sampling := ← sampling? members
    runtime := ← runtime? members
    filler := ← filler? members
    labels := ← labels? members }

/-- The settings in a text. -/
def ofText (text : String) : Except ConfigError Settings :=
  if (Text.trimmed text).isEmpty then .ok {}
  else
    match Toml.ofText? text >>= ofDocument? with
    | some settings => .ok settings
    | none => .error .malformed

/-- The settings in a file: what was read from its path, or why it could not be read. -/
def ofFile (path : String) (content : Except SystemError (List UInt8)) :
    Except ConfigError Settings :=
  match content with
  | .error cause => .error (.unreadable path cause)
  | .ok bytes =>
    match Text.ofUtf8? bytes with
    | some text => ofText text
    | none => .error (.unreadable path .notUtf8)

end Settings

end LinkGauge
