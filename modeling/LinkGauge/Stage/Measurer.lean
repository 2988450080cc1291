import LinkGauge.Channel
import LinkGauge.Context
import LinkGauge.Diagnostics
import LinkGauge.Measurement.Basic
import LinkGauge.Sampling
import LinkGauge.Socket.Probe

/-!
# The measurer

The measurer samples the kernel's view of the connection after waits drawn from its
sampling intervals, until its context is done or nobody takes its samples. A part of
a sample is absent when reading it failed. Handing on a sample blocks, so the
consumer sets the pace.
-/

namespace LinkGauge

/-- The answers of the kernel to the n-th read of each kind, counted from zero. -/
structure Instrument where
  /-- Why the congestion estimate cannot be enabled, if so. -/
  enableError : Option String := none
  congestion : Nat → Option Congestion
  tcpStats : Nat → Option TcpStats

/-- A use of the instrument. -/
inductive Reading where
  | enable
  | congestion
  | tcpStats
  deriving DecidableEq, Repr

namespace Instrument

/-- The instrument that a probe provides. -/
def ofProbe : Probe → Instrument
  | .stub =>
    { enableError := some (ProbeError.unsupported "congestion instrumentation").message
      congestion := fun _ => none
      tcpStats := fun _ => none }
  | .kernel socket =>
    { enableError :=
        match (Probe.kernel socket).enableCongestion.1 with
        | .ok () => none
        | .error error => some error.message
      congestion := fun n =>
        match Socket.reply (socket.options .congestionInfo) n with
        | .record bytes => (Socket.congestionOf (.ok (bytes.take Congestion.recordSize))).toOption
        | .failure _ => none
      tcpStats := fun n =>
        match Socket.reply (socket.options .tcpInfo) n with
        | .record bytes => (Socket.tcpStatsOf (.ok (bytes.take TcpStats.layout.size))).toOption
        | .failure _ => none }

end Instrument

namespace Measurer

/-- What a measurer is told at its start. -/
structure Config where
  subtest : Subtest
  identity : Identity
  sampling : Sampling
  instrument : Instrument
  /-- The n-th wait as drawn, counted from zero. -/
  draws : Nat → Nanos
  /-- When the subtest started. -/
  start : Int := 0

/-- What a measurer is doing. -/
inductive Activity where
  | starting
  /-- It is about to wait for the next tick. -/
  | ticking
  | waiting (ends : Nanos)
  /-- It hands on a sample. -/
  | emitting (sample : Measurement)
  | finished
  deriving DecidableEq, Repr

/-- What a measurer shares with others. -/
structure View where
  now : Nanos
  context : Context
  output : Channel Measurement
  log : Log

end Measurer

/-- The state of a measurer. -/
structure Measurer where
  activity : Measurer.Activity := .starting
  /-- How many waits have been drawn. -/
  drawn : Nat := 0
  /-- The readings so far, newest first. -/
  readings : List Reading := []

namespace Measurer

/-- Stops sampling. -/
def stop (m : Measurer) (v : View) : Measurer × View :=
  ({ m with activity := .finished }, { v with output := v.output.hangUp })

/-- How many readings of a kind there have been. -/
def count (m : Measurer) (reading : Reading) : Nat := m.readings.count reading

/-- The sample taken at a moment: the congestion estimate is read before the
counters, and both carry the time since the subtest started. -/
def sample (config : Config) (m : Measurer) (now : Nanos) : Measurement :=
  let elapsedTime := micros (elapsedSince config.start now)
  { identity := some config.identity
    congestion := (config.instrument.congestion (m.count .congestion)).map
      fun c => { c with elapsedTime }
    tcpStats := (config.instrument.tcpStats (m.count .tcpStats)).map
      fun t => { t with elapsedTime }
    origin := some .server
    test := some config.subtest }

/-- Enables the estimate and checks the intervals; with bad ones nothing is sampled. -/
def begin (config : Config) (m : Measurer) (v : View) : Measurer × View :=
  let m := { m with readings := .enable :: m.readings }
  let v :=
    match config.instrument.enableError with
    | none => v
    | some error =>
      { v with log := .warning "measurer: cannot enable congestion instrumentation" error :: v.log }
  match config.sampling.validate with
  | .ok () => ({ m with activity := .ticking }, v)
  | .error error =>
    m.stop { v with log := .warning "measurer: cannot create ticker" error.message :: v.log }

/-- The steps a measurer can take. -/
def moves (config : Config) (m : Measurer) (v : View) : List (Measurer × View) :=
  match m.activity with
  | .starting => [m.begin config v]
  | .ticking =>
    if v.context.isDone v.now then [m.stop v]
    else
      let wait := config.sampling.bounded (config.draws m.drawn)
      [({ m with activity := .waiting (v.now + wait), drawn := m.drawn + 1 }, v)]
  | .waiting ends =>
    if v.context.isDone v.now then [m.stop v]
    else if ends ≤ v.now then
      [({ m with
          activity := .emitting (m.sample config v.now)
          readings := .tcpStats :: .congestion :: m.readings }, v)]
    else []
  | .emitting sample =>
    let next :=
      match v.output.send? sample with
      | some (.accepted, output) => [({ m with activity := .ticking }, { v with output })]
      | some (.gone, _) => [m.stop v]
      | none => []
    next ++ if v.context.isDone v.now then [m.stop v] else []
  | .finished => []

/-- The moments at which a waiting measurer may go on by itself. -/
def alarms (m : Measurer) (v : View) : List Nanos :=
  match m.activity with
  | .waiting ends => [ends, v.context.deadline]
  | .emitting _ => [v.context.deadline]
  | _ => []

end Measurer

end LinkGauge
