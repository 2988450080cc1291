import LinkGauge.Socket.Basic
import LinkGauge.Socket.Probe

/-!
# Rehearsals at a socket
-/

namespace LinkGauge.Rehearsal

/-!
## Rehearsals of a connection

Waiters wait for a connection to be closed on either side. All of them are released
together, also those that come later.
-/

/-- What is done with a connection. -/
inductive ConnectionStep where
  | close
  | markPeerClosed
  /-- One more waits for either side. -/
  | wait
  deriving DecidableEq, Repr

/-- A connection and those that wait for it. -/
structure ConnectionWorld where
  connection : Connection
  waiters : Nat := 0

namespace ConnectionWorld

/-- Carries out a step. -/
def perform (w : ConnectionWorld) : ConnectionStep → Except CloseError Unit × ConnectionWorld
  | .close =>
    let (answer, connection) := w.connection.close
    (answer, { w with connection })
  | .markPeerClosed => (.ok (), { w with connection := w.connection.markPeerClosed })
  | .wait => (.ok (), { w with waiters := w.waiters + 1 })

/-- How many have been told that the connection is closed. -/
def toldClosed (w : ConnectionWorld) : Nat := if w.connection.closed then w.waiters else 0

/-- How many have been told that the peer has closed. -/
def toldPeerClosed (w : ConnectionWorld) : Nat :=
  if w.connection.peerClosed then w.waiters else 0

end ConnectionWorld

/-! ## Rehearsals of a probe -/

/-- What a probe is asked. -/
inductive ProbeCall where
  | testId
  | enable
  | congestion
  | tcpStats
  deriving DecidableEq, Repr

/-- What a probe answers. -/
inductive ProbeAnswer where
  | testId (id : String)
  | enabled
  | congestion (estimate : Congestion)
  | tcpStats (stats : TcpStats)

/-- Asks a probe; `millis` and `random` are for an id without a cookie. -/
def askProbe (host : Host) (millis random : Nat) (p : Probe) :
    ProbeCall → Except ProbeError ProbeAnswer × Probe
  | .testId =>
    let (answer, p) := p.testId host millis random
    (answer.map .testId, p)
  | .enable =>
    let (answer, p) := p.enableCongestion
    (answer.map fun _ => .enabled, p)
  | .congestion =>
    let (answer, p) := p.readCongestion
    (answer.map .congestion, p)
  | .tcpStats =>
    let (answer, p) := p.readTcpStats
    (answer.map .tcpStats, p)

end LinkGauge.Rehearsal
