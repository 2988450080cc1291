import LinkGauge.Config.Basic

/-!
# Resolving settings

Settings that are not given take their defaults. The result is refused when the parts of
a group do not fit together; groups are checked in the order address, sampling, runtime,
filler, labels, and the first one that fails gives the error.
-/

namespace LinkGauge

namespace Settings

/-- A span given in milliseconds, or its default. -/
def span (given : Option Nat) (default : Nanos) : Nanos :=
  match given with
  | some n => millis n
  | none => default

/-- The endpoint to listen on; blanks around its text do not count. -/
def listenEndpoint (s : Settings) (default : Endpoint) : Except ConfigError Endpoint :=
  match s.listen with
  | none => .ok default
  | some text =>
    match Endpoint.ofText? (Text.trimmed text) with
    | some endpoint => .ok endpoint
    | none => .error (.listenAddress text)

/-- The settings with defaults for what is not given, listening on an endpoint. -/
def completed (s : Settings) (listen : Endpoint) : ServerConfig :=
  let d : ServerConfig := {}
  { listen
    dataDir := s.dataDir.getD d.dataDir
    compress := s.compress.getD d.compress
    instrumentation := s.instrumentation.getD d.instrumentation
    maxMessageSize := max (s.maxMessageSize.getD d.maxMessageSize) 1024
    sampling :=
      { least := span s.sampling.least d.sampling.least
        expected := span s.sampling.expected d.sampling.expected
        greatest := span s.sampling.greatest d.sampling.greatest }
    defaultRuntime := span s.runtime.defaultRuntime d.defaultRuntime
    maxRuntime := span s.runtime.maxRuntime d.maxRuntime
    ioTimeout := span s.runtime.ioTimeout d.ioTimeout
    filler :=
      { least := s.filler.least.getD d.filler.least
        initial := s.filler.initial.getD d.filler.initial
        greatest := s.filler.greatest.getD d.filler.greatest
        scaled := s.filler.scaled.getD d.filler.scaled
        fraction := max (s.filler.fraction.getD d.filler.fraction) 1 }
    labels := s.labels }

end Settings

namespace ServerConfig

/-- Checks that every group of a configuration fits together. -/
def check (c : ServerConfig) : Except ConfigError Unit := do
  c.sampling.validate.mapError .sampling
  if c.defaultRuntime = 0 ∨ c.ioTimeout = 0 then throw .zeroRuntime
  if c.maxRuntime < c.defaultRuntime then throw (.runtimeOrder c.defaultRuntime c.maxRuntime)
  if c.filler.least = 0 ∨ c.filler.initial < c.filler.least ∨
      c.filler.greatest < c.filler.initial then
    throw (.fillerOrder c.filler)
  if c.filler.greatest < c.filler.scaled then throw .fillerScale
  match c.labels.entries.find? fun entry => !isLabelKey entry.1 with
  | some (key, _) => throw (.labelKey key)
  | none => return ()

end ServerConfig

namespace Settings

/-- The configuration for settings. -/
def resolve (s : Settings) : Except ConfigError ServerConfig := do
  let listen ← s.listenEndpoint ({} : ServerConfig).listen
  let config := s.completed listen
  config.check
  return config

end Settings

end LinkGauge
