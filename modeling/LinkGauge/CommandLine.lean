import LinkGauge.Config.Basic
import LinkGauge.Config.File
import LinkGauge.Config.Resolve

/-!
# The command line

Options have long names. The value of an option follows behind an equals sign, or as the
next argument, which then may not look like an option. Every option but the label may be
given once.

An option whose value is the next argument is checked only when the next option comes or
the arguments end, so that an argument nobody knows is reported first.
-/

namespace LinkGauge

/-- The options that take a value. -/
inductive Flag where
  | config
  | listen
  | dataDir
  | compress
  | instrumentation
  | label
  deriving DecidableEq, Repr

namespace Flag

/-- The name of an option. -/
def name : Flag → String
  | .config => "config"
  | .listen => "listen-addr"
  | .dataDir => "datadir"
  | .compress => "compress"
  | .instrumentation => "instrumentation"
  | .label => "label"

/-- The option with a name. -/
def ofName? (name : String) : Option Flag :=
  [Flag.config, .listen, .dataDir, .compress, .instrumentation, .label].find? (·.name == name)

end Flag

/-- Why arguments cannot be used. -/
inductive ArgumentError where
  | unknown (argument : String)
  /-- The value is missing or none of those that are possible. -/
  | badValue (flag : Flag)
  | badLabel (error : ConfigError)
  | repeated (flag : Flag)
  /-- A value was given where none is taken. -/
  | unexpectedValue
  /-- An overview of the options was asked for. -/
  | help
  deriving DecidableEq, Repr

/-- The wording of an error. -/
def ArgumentError.message : ArgumentError → String
  | .unknown argument => "unexpected argument " ++ Text.quoted argument
  | .badValue flag => "a valid value is required for --" ++ flag.name
  | .badLabel error => "invalid value for --label: " ++ error.message
  | .repeated flag => "the argument --" ++ flag.name ++ " cannot be used multiple times"
  | .unexpectedValue => "unexpected value for --help"
  | .help =>
    "Usage: ndt7-server [--config <CONFIG>] [--listen-addr <LISTEN_ADDR>] " ++
      "[--datadir <DATADIR>] [--compress <COMPRESS>] " ++
      "[--instrumentation <INSTRUMENTATION>] [--label <LABEL>]..."

/-- What the arguments give. -/
structure Arguments where
  config : Option String := none
  listen : Option String := none
  dataDir : Option String := none
  compress : Option Bool := none
  instrumentation : Option Instrumentation := none
  /-- The labels in the order in which they were given. -/
  labels : List (String × String) := []

namespace Arguments

/-- Sets what may be given once, to the value that a text stands for. -/
def once {α : Type} (flag : Flag) (earlier : Option α) (read? : String → Option α)
    (text : String) : Except ArgumentError (Option α) :=
  if earlier.isSome then .error (.repeated flag)
  else
    match read? text with
    | some value => .ok (some value)
    | none => .error (.badValue flag)

/-- A text that is not empty. -/
def nonempty? (text : String) : Option String := if text.isEmpty then none else some text

/-- A truth value. -/
def boolean? (text : String) : Option Bool :=
  if text = "true" then some true else if text = "false" then some false else none

/-- Gives an option its value. -/
def assign (a : Arguments) (flag : Flag) (text : String) : Except ArgumentError Arguments :=
  match flag with
  | .config => do return { a with config := ← once .config a.config nonempty? text }
  | .listen => do return { a with listen := ← once .listen a.listen some text }
  | .dataDir => do return { a with dataDir := ← once .dataDir a.dataDir nonempty? text }
  | .compress => do return { a with compress := ← once .compress a.compress boolean? text }
  | .instrumentation => do
    let instrumentation ←
      once .instrumentation a.instrumentation Instrumentation.ofName? text
    return { a with instrumentation }
  | .label =>
    match parseLabel text with
    | .ok label => .ok { a with labels := a.labels ++ [label] }
    | .error error => .error (.badLabel error)

/-- An option that has not been assigned yet. -/
inductive Pending where
  | nothing
  | awaiting (flag : Flag)
  | given (flag : Flag) (text : String)

/-- Assigns what is pending. -/
def settle (a : Arguments) : Pending → Except ArgumentError Arguments
  | .nothing => .ok a
  | .awaiting flag => .error (.badValue flag)
  | .given flag text => a.assign flag text

/-- What an argument looks like. -/
inductive Shape where
  /-- Two hyphens: no options follow. -/
  | terminator
  /-- A long name, possibly with a value. -/
  | long (name : String) (text : Option String)
  /-- A short name. -/
  | short (name : Char)
  | plain
  deriving DecidableEq, Repr

/-- The shape of an argument. -/
def shape (argument : String) : Shape :=
  match argument.toList with
  | ['-', '-'] => .terminator
  | '-' :: '-' :: rest =>
    match Text.cut? '=' rest with
    | some (name, text) => .long (String.ofList name) (some (String.ofList text))
    | none => .long (String.ofList rest) none
  | '-' :: c :: _ => .short c
  | _ => .plain

/-- Reads arguments from the left. -/
def readFrom (a : Arguments) (pending : Pending) : List String → Except ArgumentError Arguments
  | [] => a.settle pending
  | argument :: rest =>
    match shape argument with
    | .terminator =>
      match rest with
      | [] => a.settle pending
      | extra :: _ => .error (.unknown extra)
    | .long name text =>
      match Flag.ofName? name, text with
      | some flag, some text => do
        let a ← a.settle pending
        (← a.assign flag text).readFrom .nothing rest
      | some flag, none => do (← a.settle pending).readFrom (.awaiting flag) rest
      | none, text =>
        if name = "help" then
          if text.isSome then .error .unexpectedValue
          else do
            let _ ← a.settle pending
            throw .help
        else .error (.unknown argument)
    | .short c =>
      if c = 'h' then do
        let _ ← a.settle pending
        throw .help
      else .error (.unknown argument)
    | .plain =>
      match pending with
      | .awaiting flag => a.readFrom (.given flag argument) rest
      | _ => .error (.unknown argument)

/-- Reads the arguments behind the program's name. -/
def parse (arguments : List String) : Except ArgumentError Arguments :=
  ({} : Arguments).readFrom .nothing arguments

/-- Settings with what the arguments give in place of what they had. -/
def override (a : Arguments) (s : Settings) : Settings :=
  { s with
    listen := a.listen <|> s.listen
    dataDir := a.dataDir <|> s.dataDir
    compress := a.compress <|> s.compress
    instrumentation := a.instrumentation <|> s.instrumentation
    labels := a.labels.foldl (fun m (key, value) => m.insert key value) s.labels }

/-- The configuration that arguments give; `content` is what is read from a path. -/
def configuration (a : Arguments) (content : String → Except SystemError (List UInt8)) :
    Except ConfigError ServerConfig := do
  let settings ←
    match a.config with
    | some path => Settings.ofFile path (content path)
    | none => pure {}
  (a.override settings).resolve

end Arguments

end LinkGauge
