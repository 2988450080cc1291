import LinkGauge.Archive
import LinkGauge.Config.Basic
import LinkGauge.Http.Handshake
import LinkGauge.Pipeline
import LinkGauge.Results.Store

/-!
# Sessions

A session is one subtest from its opening to its summary. The test gets an id, a results
file is made with the header in it, the pipeline runs, and everything it has stored goes
into the file. A session without an id or a file ends before anything is sent.
-/

namespace LinkGauge

/-- The circumstances under which a client comes to a server. -/
structure Visit where
  config : ServerConfig := {}
  host : Host
  /-- The server's end of the connection. -/
  localEnd : Endpoint
  /-- The client's end of the connection. -/
  remoteEnd : Endpoint
  socket : Option Socket := none
  startedAt : UtcTime
  /-- For an id where the kernel has none. -/
  random : Nat := 0

namespace Visit

/-- The probe for the connection, and a warning where the configured one cannot be had. -/
def probe (v : Visit) : Probe × Log :=
  let wanted := v.config.instrumentation = .kernel
  (Probe.ofSocket? wanted v.socket,
    if wanted ∧ v.socket.isNone then
      [⟨.warn, "no socket handle for connection, using stub instrumentation", []⟩]
    else [])

/-- The start in milliseconds since 1970. -/
def startMillis (v : Visit) : Nat :=
  (v.startedAt.seconds * 1000 + (v.startedAt.nanos / 1000000 : Nat)).toNat

/-- The warning that a test has no id. -/
def noId (v : Visit) (subtest : Subtest) (error : ProbeError) : LogEvent :=
  ⟨.warn, "cannot derive test uuid",
    [("error", .text error.message), ("remote", .text v.remoteEnd.toText),
      ("subtest", .text subtest.name)]⟩

end Visit

/-- A subtest that has an id and a results file. -/
structure Session where
  visit : Visit
  subtest : Subtest
  uuid : String
  probe : Probe
  file : ResultsFile
  tree : FileTree
  archive : Archive
  /-- The events so far, newest first. -/
  log : Log

/-- What a session leaves. -/
structure SessionReport where
  tree : FileTree
  log : Log

namespace Session

/-- Opens a session: the session, or what is left of one that has no id or no file. -/
def begin (v : Visit) (opening : Http.Opening) (tree : FileTree) :
    Except SessionReport Session :=
  let (probe, log) := v.probe
  match probe.testId v.host v.startMillis v.random with
  | (.error error, _) => .error { tree, log := v.noId opening.subtest error :: log }
  | (.ok uuid, probe) =>
    let facts : TestFacts :=
      { localEnd := v.localEnd
        remoteEnd := v.remoteEnd
        subtest := opening.subtest
        uuid
        start := v.startedAt
        labels := v.config.labels }
    let header := facts.header opening.query
    let request : ResultsRequest :=
      { dataDir := v.config.dataDir
        subtest := opening.subtest
        uuid
        start := v.startedAt
        compressed := v.config.compress
        header }
    match ResultsFile.create .inBlocks request tree with
    | (.error error, tree) =>
      .error { tree, log := .warning "cannot open results file" error.message :: log }
    | (.ok file, tree) =>
      .ok
        { visit := v
          subtest := opening.subtest
          uuid
          probe
          file
          tree
          archive :=
            { uuid
              clientMetadata := Header.clientPart header
              serverMetadata := v.config.labels }
          log }

/-- What the pipeline of a session is told; `draws` gives the waits between samples. -/
def pipelineConfig (s : Session) (draws : Nat → Nanos) : Pipeline.Config where
  subtest := s.subtest
  identity :=
    { client := s.visit.remoteEnd.toText, server := s.visit.localEnd.toText, uuid := s.uuid }
  sampling := s.visit.config.sampling
  instrument := .ofProbe s.probe
  draws
  defaultRuntime := s.visit.config.defaultRuntime
  maxRuntime := s.visit.config.maxRuntime
  ioTimeout := s.visit.config.ioTimeout
  sizes := s.visit.config.filler
  startedAt := s.visit.startedAt

/-- The pipeline of a session at its start. -/
def pipeline (s : Session) (draws : Nat → Nanos) (wire : Wire) : Pipeline :=
  { Pipeline.start (s.pipelineConfig draws) { socket := s.visit.socket } wire {} s.archive with
    log := s.log }

/-- Ends a session after its pipeline: stores what was recorded, finishes the file and logs the
summary. -/
def finish (s : Session) (p : Pipeline) : SessionReport where
  tree :=
    let (file, tree) := p.sink.tried.reverse.foldl
      (fun (file, tree) record => file.write .inBlocks record tree) (s.file, s.tree)
    file.finish tree
  log :=
    p.archive.summary s.subtest ::
      match p.result? with
      | some (.error error) => .warning "subtest ended with error" error.message :: p.log
      | _ => p.log

end Session

end LinkGauge
