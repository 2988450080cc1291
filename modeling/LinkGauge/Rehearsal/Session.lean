import LinkGauge.Pipeline
import LinkGauge.Rehearsal.Parts
import LinkGauge.Session

/-!
# Rehearsals of a pipeline and of a session
-/

namespace LinkGauge.Rehearsal

/-! ## Rehearsals of a whole pipeline -/

/-- A pipeline and what happens to its connection from outside. -/
structure PipelineWorld where
  pipeline : Pipeline
  events : Timeline ConnectionEvent

namespace PipelineWorld

/-- What happens to the connection. -/
def happen (p : Pipeline) : ConnectionEvent → Pipeline
  | .close => { p with connection := p.connection.close.2 }
  | .peerClose => { p with connection := p.connection.markPeerClosed }

/-- The next step: events, then the pipeline. -/
def step? (w : PipelineWorld) : Option PipelineWorld :=
  match w.events.next? w.pipeline.now with
  | some (event, events) => some { events, pipeline := happen w.pipeline event }
  | none => w.pipeline.step?.map fun pipeline => { w with pipeline }

/-- The world as a machine; it stops when the run has returned. -/
def machine : Machine PipelineWorld where
  step? := step?
  alarms w :=
    if w.pipeline.result?.isSome then [] else w.events.alarms ++ w.pipeline.alarms
  now w := w.pipeline.now
  advance w now := { w with pipeline := { w.pipeline with now } }

/-- The state at the end of a run. -/
def run (p : Pipeline) (events : List (Nanos × ConnectionEvent)) : Pipeline :=
  (machine.run Machine.stepLimit { pipeline := p, events := .ofList events }).pipeline

end PipelineWorld

/-!
## Rehearsals of a session

A client opens a subtest over a link on which everything takes the same time each way.
It sends scripted frames, answers pings and the close frame at once, and may vanish.

The clock of the server starts when the request reaches it, the clock of the script when
the request is sent.
-/

/-- What a client does. -/
inductive ClientAct where
  | text (content : String)
  /-- Sends a message of so many bytes. -/
  | binary (size : Nat)
  | close
  /-- The client is gone without a word. -/
  | vanish

/-- A client and the link to it. -/
structure ClientScript where
  latency : Nanos
  /-- What the client does and when, earliest first. -/
  acts : List (Nanos × ClientAct) := []

namespace ClientScript

/-- The request with which the client opens what a target names. -/
def request (target : String) : Http.Request where
  method := "GET"
  target
  headers := [("Connection", "Upgrade"), ("Upgrade", "websocket"),
    ("Sec-WebSocket-Version", "13"), ("Sec-WebSocket-Key", "dGhlIHNhbXBsZSBub25jZQ=="),
    ("Sec-WebSocket-Protocol", Service.subprotocol)].map fun (name, value) =>
      (name, Text.utf8 value)

/-- When an act takes place: not before the answer to the request is there. -/
def actTime (c : ClientScript) (time : Nanos) : Nanos := max time (2 * c.latency)

/-- When the client vanishes, if it does. -/
def vanishTime? (c : ClientScript) : Option Nanos :=
  c.acts.findSome? fun
    | (time, .vanish) => some (c.actTime time)
    | _ => none

/-- What the server reads of an act; a message beyond the limit cannot be read. -/
def arrival (limit : Nat) : ClientAct → Arrival
  | .text content =>
    if limit < content.utf8ByteSize then .failure "message too long" else .text content
  | .binary size => if limit < size then .failure "message too long" else .binary size
  | .close => .close
  | .vanish => .failure "connection lost"

/-- The wire as the server sees it. An act reaches the server one way later than it takes
place, which is also by how much the server's clock is late. -/
def wire (c : ClientScript) (subtest : Subtest) (limit : Nat) : Wire where
  rules _ := { delay := if subtest = .download then millis 1 else 0 }
  pongs _ := some { delay := 2 * c.latency }
  closeReply := some (2 * c.latency)
  lostAt := c.vanishTime?
  arrivals := c.acts.map fun (time, act) => (c.actTime time, arrival limit act)

end ClientScript

/-- What a client has seen. -/
structure ClientView where
  texts : List Measurement := []
  pings : Nat := 0
  binary : Bool := false
  /-- Whether the server closed the connection normally. -/
  closed : Bool := false
  /-- Whether the client vanished before the end. -/
  vanished : Bool := false

namespace ClientView

/-- Adds a frame that has reached the client. -/
def see (v : ClientView) : Frame → ClientView
  | .text m => { v with texts := v.texts ++ [m] }
  | .binary _ => { v with binary := true }
  | .ping _ => { v with pings := v.pings + 1 }
  | .close => { v with closed := true }

end ClientView

namespace ClientScript

/-- When a frame that is sent at a time of the server's clock reaches the client. -/
def seenAt (c : ClientScript) (sent : Nanos) : Nanos := sent + 2 * c.latency

/-- What the client has seen of a run. -/
def view (c : ClientScript) (p : Pipeline) : ClientView :=
  let before (time : Nanos) : Bool := c.vanishTime?.all (time ≤ ·)
  let sent := p.wire.sent.reverse.filter fun (time, _) => before (c.seenAt time)
  let ends := ((p.wire.sent.find? fun (_, frame) => frame matches .close).map (·.1)).getD p.now
  let seen : ClientView := sent.foldl (fun v (_, frame) => v.see frame) {}
  { seen with vanished := !before (c.seenAt ends) }

/-- A session with the client: what the session leaves, and what the client has seen. -/
def run (c : ClientScript) (v : Visit) (opening : Http.Opening) (tree : FileTree) :
    SessionReport × ClientView × Option Session :=
  match Session.begin v opening tree with
  | .error report => (report, {}, none)
  | .ok session =>
    let draws := fun _ => v.config.sampling.expected
    let wire := c.wire opening.subtest v.config.maxMessageSize
    let p := PipelineWorld.run (session.pipeline draws wire) []
    (session.finish p, c.view p, some session)

end ClientScript

end LinkGauge.Rehearsal
