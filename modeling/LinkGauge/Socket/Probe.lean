import LinkGauge.Socket.Basic
import LinkGauge.Socket.Record
import LinkGauge.Text.Decimal

/-!
# What the kernel tells about a connection

The identity of a test comes from the socket's cookie, its counters from the socket's own
records.
-/

namespace LinkGauge

/-!
## Test identifiers

A test is identified by the host name, the host's boot time in seconds and the
kernel's cookie of the socket, as sixteen hexadecimal digits. A connection
without a cookie gets a time-ordered random identifier behind the host name:
thirty-two digits of which the first twelve count milliseconds since 1970, the
thirteenth is the version 7, and the two highest bits of the seventeenth are `10`.
-/

/-- The identifier of a test on a host that booted at `bootTime`. -/
def testId (hostname : String) (bootTime : Int64) (cookie : UInt64) : String :=
  hostname ++ "_" ++ Text.intText bootTime.toInt ++ "_" ++ Text.upperHex 16 cookie.toNat

/-- A time-ordered identifier with the given random bits, of which it uses 74. -/
def timeOrderedId (millis random : Nat) : String :=
  let stamp := millis % Nat.pow 2 48
  let high := random / Nat.pow 2 62 % Nat.pow 2 12
  let low := random % Nat.pow 2 62
  String.ofList <| Text.padded 32 <| Text.numeral 16 <|
    stamp * Nat.pow 2 80 + 7 * Nat.pow 2 76 + high * Nat.pow 2 64 + 2 * Nat.pow 2 62 + low

/-- Whether a text is thirty-two lower-case hexadecimal digits of version 7. -/
def isTimeOrderedId (text : String) : Bool :=
  let digits := text.toList
  digits.length == 32 && digits.all (fun c => c.isDigit || ('a' ≤ c && c ≤ 'f')) &&
    digits[12]? == some '7'

/-- The identifier of a test on a connection without a cookie. -/
def fallbackTestId (hostname : String) (millis random : Nat) : String :=
  hostname ++ "_" ++ timeOrderedId millis random

/-!
## Instrumentation of a connection

A probe reads the identity, the congestion estimate and the counters of one
connection from its socket. Without a socket, or when the configuration says so, a
probe only has a random identity and reads nothing.
-/

/-- Why a probe has no answer. -/
inductive ProbeError where
  /-- There is no socket to ask. -/
  | unsupported (feature : String)
  /-- The system call failed. -/
  | systemCall (call : String) (number : Nat)
  /-- The record has the wrong size. -/
  | shortRecord (call : String) (size expected : Nat)
  /-- The congestion control algorithm keeps no bandwidth estimate. -/
  | notBbr
  deriving DecidableEq, Repr

/-- The wording of an error. -/
def ProbeError.message : ProbeError → String
  | .unsupported feature => feature ++ " is not supported on this connection"
  | .systemCall call number => call ++ " failed: " ++ (SystemError.code number).message
  | .shortRecord call size expected =>
    call ++ " returned " ++ Text.natText size ++ " bytes, expected " ++ Text.natText expected
  | .notBbr => "congestion control is not BBR"

/-- The instrumentation of one connection. -/
inductive Probe where
  | kernel (socket : Socket)
  | stub

/-- The host on which a test runs. -/
structure Host where
  name : String
  /-- Seconds since 1970 at which the host booted. -/
  bootTime : Int64

namespace Socket

/-- The cookie in the answer to reading it. -/
def cookieOf : Except Nat (List UInt8) → Except ProbeError UInt64
  | .error number => .error (.systemCall "getsockopt(SO_COOKIE)" number)
  | .ok bytes =>
    if bytes.length = 8 then .ok (UInt64.ofNat (littleEndian bytes))
    else .error (.shortRecord "getsockopt(SO_COOKIE)" bytes.length 8)

/-- The estimate in the answer to reading it. -/
def congestionOf : Except Nat (List UInt8) → Except ProbeError Congestion
  | .error number => .error (.systemCall "getsockopt(TCP_CC_INFO)" number)
  | .ok bytes =>
    if bytes.length = Congestion.recordSize then .ok (Congestion.ofRecord bytes)
    else .error .notBbr

/-- The counters in the answer to reading them. -/
def tcpStatsOf : Except Nat (List UInt8) → Except ProbeError TcpStats
  | .error number => .error (.systemCall "getsockopt(TCP_INFO)" number)
  | .ok [] => .error (.shortRecord "getsockopt(TCP_INFO)" 0 TcpStats.layout.size)
  | .ok bytes => .ok (TcpStats.ofRecord bytes)

end Socket

namespace Probe

/-- The probe for a connection: the kernel's when it is wanted and there is a
socket. -/
def ofSocket? (useKernel : Bool) (socket? : Option Socket) : Probe :=
  match useKernel, socket? with
  | true, some socket => .kernel socket
  | _, _ => .stub

/-- The identifier of the test; `millis` and `random` are for one without a cookie. -/
def testId (p : Probe) (host : Host) (millis random : Nat) : Except ProbeError String × Probe :=
  match p with
  | .stub => (.ok (fallbackTestId host.name millis random), .stub)
  | .kernel socket =>
    let (answer, socket) := socket.get .cookie 8
    ((Socket.cookieOf answer).map (LinkGauge.testId host.name host.bootTime), .kernel socket)

/-- Selects the congestion control algorithm that keeps an estimate. -/
def enableCongestion (p : Probe) : Except ProbeError Unit × Probe :=
  match p with
  | .stub => (.error (.unsupported "congestion instrumentation"), .stub)
  | .kernel socket =>
    let (answer, socket) := socket.set .congestionControl "bbr"
    (answer.mapError (.systemCall "setsockopt(TCP_CONGESTION)"), .kernel socket)

/-- Reads the congestion estimate. -/
def readCongestion (p : Probe) : Except ProbeError Congestion × Probe :=
  match p with
  | .stub => (.error (.unsupported "TCP_CC_INFO"), .stub)
  | .kernel socket =>
    let (answer, socket) := socket.get .congestionInfo Congestion.recordSize
    (Socket.congestionOf answer, .kernel socket)

/-- Reads the counters of the connection. -/
def readTcpStats (p : Probe) : Except ProbeError TcpStats × Probe :=
  match p with
  | .stub => (.error (.unsupported "TCP_INFO"), .stub)
  | .kernel socket =>
    let (answer, socket) := socket.get .tcpInfo TcpStats.layout.size
    (Socket.tcpStatsOf answer, .kernel socket)

end Probe

end LinkGauge
