import LinkGauge.Diagnostics

/-!
# Sockets and connections
-/

namespace LinkGauge

/-!
## A socket and its system calls

A socket is known by its answers to system calls. Every kind of call has its own
list of answers, used in order with the last one repeating, and the socket keeps
the calls that were made.
-/

/-- The answer to a system call: an error number, or the bytes of a record. -/
inductive SystemReply where
  | failure (number : Nat)
  | record (bytes : List UInt8)

/-- The options of a socket that are read or set. -/
inductive SocketOption where
  /-- The kernel's identifier of the socket. -/
  | cookie
  /-- The state of the congestion control algorithm. -/
  | congestionInfo
  /-- The counters of the connection. -/
  | tcpInfo
  /-- The name of the congestion control algorithm. -/
  | congestionControl
  deriving DecidableEq, Repr

/-- A system call on a socket. -/
inductive SystemCall where
  /-- Reads an option into a buffer of the given size. -/
  | get (option : SocketOption) (size : Nat)
  | set (option : SocketOption) (value : String)
  /-- Shuts down both directions. -/
  | shutdown
  deriving DecidableEq, Repr

/-- A socket, as the answers it gives. -/
structure Socket where
  /-- The answers to reading or setting an option. -/
  options : SocketOption → List SystemReply := fun _ => []
  /-- The answers to shutting down. -/
  shutdowns : List SystemReply := []
  /-- The calls made so far, newest first. -/
  calls : List SystemCall := []

namespace Socket

/-- The number of the error "Protocol not available". -/
def protocolNotAvailable : Nat := 92

/-- The first of the answers still to give; without any, the call is not available. -/
def firstReply : List SystemReply → SystemReply
  | [] => .failure protocolNotAvailable
  | reply :: _ => reply

/-- The answers to give after the first one; the last one stays. -/
def laterReplies : List SystemReply → List SystemReply
  | _ :: next :: rest => next :: rest
  | replies => replies

/-- The answer to the call with the given number, counted from zero. -/
def reply (replies : List SystemReply) : Nat → SystemReply
  | 0 => firstReply replies
  | n + 1 => reply (laterReplies replies) n

/-- Uses up one answer for an option. -/
def usedOption (s : Socket) (option : SocketOption) : SocketOption → List SystemReply :=
  fun o => if o = option then laterReplies (s.options o) else s.options o

/-- Reads an option: the bytes that fit into the buffer, or an error number. -/
def get (s : Socket) (option : SocketOption) (size : Nat) : Except Nat (List UInt8) × Socket :=
  let result :=
    match firstReply (s.options option) with
    | .failure number => .error number
    | .record bytes => .ok (bytes.take size)
  (result, { s with options := s.usedOption option, calls := .get option size :: s.calls })

/-- Sets an option. -/
def set (s : Socket) (option : SocketOption) (value : String) : Except Nat Unit × Socket :=
  let result :=
    match firstReply (s.options option) with
    | .failure number => .error number
    | .record _ => .ok ()
  (result, { s with options := s.usedOption option, calls := .set option value :: s.calls })

/-- Shuts down both directions. -/
def shutdown (s : Socket) : Except Nat Unit × Socket :=
  let result :=
    match firstReply s.shutdowns with
    | .failure number => .error number
    | .record _ => .ok ()
  (result, { s with shutdowns := laterReplies s.shutdowns, calls := .shutdown :: s.calls })

end Socket

/-!
## The connection under test

Every holder of a connection sees the same state. The first close shuts the
socket down, whether or not that succeeds, and every later close is refused
without touching it. Apart from that the connection remembers whether the peer has
started the close handshake.
-/

/-- Why a close failed. -/
inductive CloseError where
  | alreadyClosed
  | shutdownFailed (number : Nat)
  deriving DecidableEq, Repr

/-- The wording of an error. -/
def CloseError.message : CloseError → String
  | .alreadyClosed => "connection already closed"
  | .shutdownFailed number => (SystemError.code number).message

/-- The shared state of a connection. -/
structure Connection where
  closed : Bool := false
  peerClosed : Bool := false
  /-- The socket behind the connection, if any. -/
  socket : Option Socket := none
  /-- How often a close was asked for. -/
  closeCalls : Nat := 0

namespace Connection

/-- Closes the connection. -/
def close (c : Connection) : Except CloseError Unit × Connection :=
  let c := { c with closeCalls := c.closeCalls + 1 }
  if c.closed then (.error .alreadyClosed, c)
  else
    match c.socket with
    | none => (.ok (), { c with closed := true })
    | some socket =>
      let (answer, socket) := socket.shutdown
      (answer.mapError .shutdownFailed, { c with closed := true, socket := some socket })

/-- Records that the peer has started the close handshake. -/
def markPeerClosed (c : Connection) : Connection := { c with peerClosed := true }

end Connection

end LinkGauge
