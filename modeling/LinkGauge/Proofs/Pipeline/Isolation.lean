import LinkGauge.Proofs.Pipeline.Logging
import LinkGauge.Proofs.Pipeline.Pinging

/-!
# The client's texts stay apart

What the server's side of a ping run says depends on the measurer's samples, on the pongs with the
moments at which they are read, and on the order in which these and the end of the samples arrive
at the multiplexer (`Pipeline.Logging.fromServer`). So the texts of the peer, whatever they claim
to be, have no influence on it: they are archived as the client's, and two runs that differ in
nothing else agree about the server's measurements and the round trips that are released
(`Pipeline.Logging.texts_isolated`). A text that is read while the multiplexer waits for the
sender waits with it, and is lost when that takes until the end of the maximum runtime
(`Pipeline.Logging.last_text_lost`).
-/

namespace LinkGauge.Pipeline.Logging

/-- The measurements in the texts that the receiver has read. -/
def textsOf (events : List Event) : List Measurement := (readsOf events).filterMap (·.2.message?)

/-- The pongs that the receiver has read, and when. -/
def pongsOf (events : List Event) : List (Nanos × List Text.Glyph) :=
  Receiver.pongs (readsOf events)

/-- The order in which samples, echoes and the end of the samples arrive at the multiplexer. -/
def orderOf (events : List Event) : List Mux.Turn := Mux.order (arrivalsOf events)

/-- What the server's side says: the samples and the round trips of the pongs, in their order. -/
def fromServer (config : Config) (order : List Mux.Turn) (samples : List Measurement)
    (pongs : List (Nanos × List Text.Glyph)) : List Mux.Arrival :=
  Mux.weave order samples (Receiver.saidBy .server (Receiver.decoded config.receiver []
    (pongs.map fun (moment, payload) => (moment, .pong payload))))

/-- The server's measurements in an archive are what its side has said, and the client's are those
in its texts as they are, all that arrive at the multiplexer. These are all that were read; only
when the time of the run is over, the last one may be missing. -/
structure Apart (config : Config) (archive : Archive) (events : List Event) (p : Pipeline) :
    Prop where
  server : p.archive.server = archive.server ++ (Mux.serverArrivals
    (fromServer config (orderOf events) (sampledOf events) (pongsOf events))).map
      ({ · with identity := none })
  client : p.archive.client = archive.client ++ Mux.clientArrivals (arrivalsOf events)
  texts : ∃ missing : List Measurement, missing.length ≤ 1 ∧
    (p.now < config.maxRuntime → missing = []) ∧
    Mux.clientArrivals (arrivalsOf events) ++ missing = textsOf events

variable {config : Config} {archive : Archive} {events : List Event} {p : Pipeline}

/-- A run that returns in time has all texts in its archive. -/
theorem Apart.archived (apart : Apart config archive events p)
    (early : p.now < config.maxRuntime) :
    p.archive.client = archive.client ++ textsOf events := by
  obtain ⟨missing, -, nothing, all⟩ := apart.texts
  rw [apart.client, ← all, nothing early, List.append_nil]

namespace Left

/-- What one side has said has arrived, and perhaps one measurement more is lost. -/
private theorem saidBy (left : Left config archive events p) (side : Origin) :
    ∃ lost : List Measurement, lost.length ≤ 1 ∧ (p.now < config.maxRuntime → lost = []) ∧
      Receiver.saidBy side (Mux.receivedOf (arrivalsOf events)) ++ lost =
        Receiver.saidBy side (Receiver.decoded config.receiver [] (readsOf events)) := by
  obtain ⟨lost, one, early, all⟩ := left.received
  refine ⟨Receiver.saidBy side lost, ?_, fun now => ?_, ?_⟩
  · rw [Receiver.saidBy, List.length_map]
    exact Nat.le_trans (List.length_filter_le _ lost) one
  · rw [early now]
    rfl
  · rw [← Receiver.saidBy_append, all]

private theorem serverSide (left : Left config archive events p) :
    Mux.serverSide (arrivalsOf events) =
      fromServer config (orderOf events) (sampledOf events) (pongsOf events) := by
  obtain ⟨lost, -, -, all⟩ := left.saidBy .server
  rw [Mux.saidBy_server_receivedOf, Receiver.said_by_server] at all
  rw [Mux.serverSide_eq_weave lost, left.sampled, all]
  rfl

private theorem apart (left : Left config archive events p) : Apart config archive events p where
  server := by
    rw [left.server, ← left.serverSide, Mux.serverArrivals_serverSide]
    rfl
  client := left.client
  texts := by
    obtain ⟨lost, one, early, all⟩ := left.saidBy .client
    rw [Mux.saidBy_client_receivedOf, Receiver.said_by_client] at all
    exact ⟨lost, one, early, all⟩

private theorem timed (left : Left config archive events p) :
    ∀ echo ∈ Mux.echoesOf (arrivalsOf events), echo.rtt.isSome = true := by
  intro echo member
  obtain ⟨lost, -, -, all⟩ := left.saidBy .server
  rw [Mux.saidBy_server_receivedOf] at all
  exact Receiver.timed_by_server (all ▸ List.mem_append_left lost member)

private theorem roundTrips (left : Left config archive events p) :
    (releasedOf events).map (·.rtt) =
      (Mux.windows [] (fromServer config (orderOf events) (sampledOf events) (pongsOf events))).map
        fun window => window.getLast?.bind (·.rtt) := by
  rw [Mux.rtt_of_collected left.released left.timed, Mux.getLast?_windows [] [],
    left.serverSide, List.map_map]
  rfl

end Left

/-- **The client's texts have no influence on the server's results.** Take two ping runs with the
same samples of the measurer and the same pongs, read at the same moments, whose order at the
multiplexer is the same, too, also against the end of the samples. Whatever else they have read,
when they return, the server's measurements in their archives agree, and so do the last counters
and the shortest round trip among these; they have released the same number of measurements, with
the same round trips. Either archive has, as the client's measurements and as they are, the texts
that were read, in their order; only when the maximum runtime is over, the last of them may be
missing. -/
theorem texts_isolated {connection other : Connection} {wire changed : Wire} {sink : RecordSink}
    {others : List Event} {q : Pipeline} (ping : config.subtest = .ping)
    (run : Run (Showing shown) (start config connection wire sink archive) events p)
    (returned : p.result?.isSome = true)
    (varied : Run (Showing shown) (start config other changed sink archive) others q)
    (returns : q.result?.isSome = true) (samples : sampledOf events = sampledOf others)
    (pongs : pongsOf events = pongsOf others) (order : orderOf events = orderOf others) :
    p.archive.server = q.archive.server ∧
      p.archive.lastServerTcpStats = q.archive.lastServerTcpStats ∧
      p.archive.minPingRtt = q.archive.minPingRtt ∧
      (releasedOf events).length = (releasedOf others).length ∧
      (releasedOf events).map (·.rtt) = (releasedOf others).map (·.rtt) ∧
      Apart config archive events p ∧ Apart config archive others q := by
  have left := left_of_run ping run returned
  have right := left_of_run ping varied returns
  have server : p.archive.server = q.archive.server := by
    rw [left.apart.server, right.apart.server, samples, pongs, order]
  have released : (releasedOf events).map (·.rtt) = (releasedOf others).map (·.rtt) := by
    rw [left.roundTrips, right.roundTrips, samples, pongs, order]
  have counted := congrArg List.length released
  rw [List.length_map, List.length_map] at counted
  refine ⟨server, ?_, ?_, counted, released, left.apart, right.apart⟩
  · rw [Archive.lastServerTcpStats, server, Archive.lastServerTcpStats]
  · rw [Archive.minPingRtt, server, Archive.minPingRtt]

/-- A ping run with one sample. -/
def sampledPing : Config where
  subtest := .ping
  instrument := { congestion := fun _ => none, tcpStats := fun _ => some {} }
  draws := fun _ => 0
  defaultRuntime := millis 150

/-- A peer that also sends texts, one of which claims to be the server's. -/
def forger : Wire :=
  { answersOnce with
    arrivals :=
      [(0, .text
          "\x7b\"Origin\":\"server\",\"WSPingInfo\":\x7b\"MinRTT\":1\x7d,\"TCPInfo\":\x7b\x7d\x7d"),
        (millis 120, .text "\x7b\x7d")] }

/-- What is seen of the run with a peer, and the run once it has returned. -/
def pinged (config : Config) (wire : Wire) : List Event × Pipeline :=
  follow shown 100 (start config {} wire {} { uuid := "" })

private theorem run_pinged (config : Config) (wire : Wire) :
    Run (Showing shown) (start config {} wire {} { uuid := "" }) (pinged config wire).1
      (pinged config wire).2 :=
  run_follow shown 100 _

/-- A client that sends texts of the server's form changes nothing of the server's record. -/
theorem texts_isolated_forger : ∃ events others p q,
    Run (Showing shown) (start sampledPing {} answersOnce {} { uuid := "" }) events p ∧
      Run (Showing shown) (start sampledPing {} forger {} { uuid := "" }) others q ∧
      sampledPing.subtest = .ping ∧ p.result?.isSome = true ∧ q.result?.isSome = true ∧
      sampledOf events = sampledOf others ∧ pongsOf events = pongsOf others ∧
      orderOf events = orderOf others ∧ orderOf events = [.echo, .sample, .samplesEnd] ∧
      textsOf events = [] ∧ (textsOf others).map (·.origin) = [some .server, none] ∧
      p.archive.server = q.archive.server ∧ p.archive.minPingRtt = q.archive.minPingRtt ∧
      (releasedOf events).map (·.rtt) = (releasedOf others).map (·.rtt) ∧
      q.archive.client = textsOf others := by
  have run := run_pinged sampledPing answersOnce
  have varied := run_pinged sampledPing forger
  have returned : (pinged sampledPing answersOnce).2.result?.isSome = true := by decide +kernel
  have returns : (pinged sampledPing forger).2.result?.isSome = true := by decide +kernel
  have samples : sampledOf (pinged sampledPing answersOnce).1 =
      sampledOf (pinged sampledPing forger).1 := by decide +kernel
  have pongs : pongsOf (pinged sampledPing answersOnce).1 =
      pongsOf (pinged sampledPing forger).1 := by decide +kernel
  have order : orderOf (pinged sampledPing answersOnce).1 =
      orderOf (pinged sampledPing forger).1 := by decide +kernel
  have both : orderOf (pinged sampledPing answersOnce).1 = [.echo, .sample, .samplesEnd] := by
    decide +kernel
  have silent : textsOf (pinged sampledPing answersOnce).1 = [] := by decide +kernel
  have forged : (textsOf (pinged sampledPing forger).1).map (·.origin) =
      [some .server, none] := by decide +kernel
  have early : (pinged sampledPing forger).2.now < sampledPing.maxRuntime := by decide +kernel
  obtain ⟨server, -, shortest, -, released, -, apart⟩ :=
    texts_isolated rfl run returned varied returns samples pongs order
  have archived := (apart.archived early).trans (List.nil_append _)
  exact ⟨_, _, _, _, run, varied, rfl, returned, returns, samples, pongs, order, both, silent,
    forged, server, shortest, released, archived⟩

/-- A ping run that is over before its sender gives up a write. -/
def hurried : Config :=
  { sampledPing with
    defaultRuntime := millis 50, maxRuntime := millis 100, ioTimeout := millis 300 }

/-- A peer that no longer reads once it has been pinged, and answers three times before it sends
two texts. -/
def crowder : Wire where
  rules n := if n = 0 then {} else { outcome := .stalled }
  arrivals :=
    let echo : Arrival := .pong (Text.glyphsOf "\x7b\"Ndt7TS\":0\x7d")
    [(millis 1, echo), (millis 2, echo), (millis 3, echo), (millis 4, .text "\x7b\x7d"),
      (millis 5, .text "\x7b\"Origin\":\"client\"\x7d")]

/-- The last text of a run may be lost. The sender holds the first release and another one waits
for it, so the multiplexer waits with the third one, the first text waits for the multiplexer, and
the receiver with the second one for the first, until the maximum runtime is over. -/
theorem last_text_lost : ∃ events p,
    Run (Showing shown) (start hurried {} crowder {} { uuid := "" }) events p ∧
      hurried.subtest = .ping ∧ p.result?.isSome = true ∧
      textsOf events = [{}, { origin := some .client }] ∧ p.archive.client = [{}] := by
  have run := run_pinged hurried crowder
  have returned : (pinged hurried crowder).2.result?.isSome = true := by decide +kernel
  have read : textsOf (pinged hurried crowder).1 = [{}, { origin := some .client }] := by
    decide +kernel
  have archived : (pinged hurried crowder).2.archive.client = [{}] := by decide +kernel
  exact ⟨_, _, run, rfl, returned, read, archived⟩

end LinkGauge.Pipeline.Logging
