import LinkGauge.Proofs.Closer
import LinkGauge.Proofs.Pipeline.Step
import LinkGauge.Proofs.Saver.Merging
import LinkGauge.Proofs.Sender

/-!
# Archives agree with the wire

What is written and what is received is merged and saved, and this is what the archive holds in
the end (`Pipeline.archive_agrees`).
-/

namespace LinkGauge.Pipeline

/-!
## The saving side of a pipeline

Whatever the two forwarders of a pipeline take their measurements from, what the saver, the
supervisor and the end of the merged channel do keeps the accounts of the merging
(`Pipeline.mergingFrom`), and the supervisor goes on only when the saver has finished.
-/

section

/-- The merging in a pipeline whose forwarders have these inputs. -/
def mergingFrom (p : Pipeline) (input : Origin → Channel Measurement) : Merging where
  input
  forwarder
    | .server => p.serverForwarder
    | .client => p.clientForwarder
  mergeEnded := p.mergeEnded
  merged := p.merged
  failure := p.saver.failure
  finished := p.saver.finished
  sink := p.sink
  recorded := p.archive.measurements

variable {sink : RecordSink} {before : Origin → List Measurement} {sent merged : List Record}
  {input : Origin → Channel Measurement} {p q : Pipeline}

/-- The accounts of a pipeline that begins are empty. -/
theorem accounts_start (config : Config) (connection : Connection) (wire : Wire)
    (sink : RecordSink) (archive : Archive) (fresh : ∀ origin, input origin = {}) :
    Merging.Accounts sink archive.measurements [] []
      ((start config connection wire sink archive).mergingFrom input) := by
  obtain rfl : input = fun _ => {} := funext fresh
  exact
    { conserved := fun origin => by cases origin <;> rfl
      labelled := fun origin record member => by cases origin <;> cases member
      recorded := fun origin => (List.append_nil _).symm
      wrote := .all sink.accepts_nil
      inputsRead := fun _ => rfl
      mergedRead := rfl
      mergedRoom := Nat.one_pos
      mergedWriters := rfl
      exhausted := fun origin finished => by cases origin <;> cases finished
      allFinished := nofun
      drained := nofun }

/-- The end of the merged channel changes nothing in the accounts. -/
theorem accounts_mergeEnd (accounts : (p.mergingFrom input).Accounts sink before sent merged)
    (moved : q ∈ p.mergeEndMoves) :
    q = { p with mergeEnded := true, merged := p.merged.hangUp } ∧
      (q.mergingFrom input).Accounts sink before sent merged := by
  obtain ⟨once, server, client, rfl⟩ := of_mem_mergeEndMoves moved
  refine ⟨rfl, accounts.endMerge once fun origin => ?_⟩
  cases origin
  · exact server
  · exact client

/-- The saver merges what is sent to it. -/
theorem accounts_saver (accounts : (p.mergingFrom input).Accounts sink before sent merged)
    (moved : q ∈ p.saverMoves) : p.saver.finished = false ∧
      ∃ merged, (q.mergingFrom input).Accounts sink before sent merged := by
  obtain ⟨⟨s, v⟩, member, rfl⟩ := List.mem_map.mp moved
  have step := Merging.Step.ofSaver (m := p.mergingFrom input) rfl rfl rfl rfl rfl member
  have kept := accounts.step step
  rw [Merging.sentOf_offered, List.append_nil] at kept
  exact ⟨(Saver.mem_moves_iff.mp member).unfinished, _, kept⟩

/-- The supervisor waits for the saver first, and records no measurement. -/
theorem accounts_supervisor (accounts : (p.mergingFrom input).Accounts sink before sent merged)
    (saved : p.supervisor ≠ .awaitingSaver → p.saver.finished = true)
    (moved : q ∈ p.supervisorMoves) :
    p.saver.finished = true ∧ (q.mergingFrom input).Accounts sink before sent merged := by
  obtain ⟨⟨s, v⟩, member, rfl⟩ := List.mem_map.mp moved
  have move := Supervisor.mem_moves_iff.mp member
  constructor
  · rcases move.saver_returned with past | ⟨result, returned⟩
    · exact saved past
    · exact (Saver.result?_eq_some_iff.mp returned).1
  · cases move with
    | timeEnd | collect | hangUp | report | finish => exact accounts

/-- A pipeline that has returned has saved everything. -/
theorem saved_of_result (saved : p.supervisor ≠ .awaitingSaver → p.saver.finished = true)
    (returned : p.result?.isSome = true) : p.saver.finished = true := by
  refine saved fun awaiting => ?_
  rw [result?, awaiting] at returned
  cases returned

end

/-!
## Downloads and uploads

In a download or an upload the measurements that the sender has written are merged with those
that the receiver hands on. `Pipeline.merging` is this part of the pipeline, and `Pipeline.Books`
relates it to the wire: what was written is what was sent to be merged, and perhaps one
measurement that the sender is about to hand on. When the run returns, the archive holds exactly
what was written and what was received (`Pipeline.archive_agrees`).
-/

open Record

/-- The merging in a pipeline without a multiplexer. -/
def merging (p : Pipeline) : Merging where
  input
    | .server => p.echo
    | .client => p.received.map (·.measurement)
  forwarder
    | .server => p.serverForwarder
    | .client => p.clientForwarder
  mergeEnded := p.mergeEnded
  merged := p.merged
  failure := p.saver.failure
  finished := p.saver.finished
  sink := p.sink
  recorded := p.archive.measurements

/-- The books of a pipeline: what was sent to be merged and what was merged, against the wire,
what the receiver has handed on and the state. -/
structure Books (sink : RecordSink) (before : Origin → List Measurement) (old : List Measurement)
    (sent merged : List Record) (emitted : List Received) (p : Pipeline) : Prop where
  notPing : p.isPing = false
  accounts : p.merging.Accounts sink before sent merged
  written : p.wire.texts = old ++ measurementsOf .server sent ++ p.sender.unechoed
  received : measurementsOf .client sent = emitted.map (·.measurement)
  echoOpen : p.sender.handsOn = true → p.echo.writers ≠ 0
  receivedOpen : p.receiver.activity ≠ .finished → p.received.writers ≠ 0
  saved : p.supervisor ≠ .awaitingSaver → p.saver.finished = true

variable {sink : RecordSink} {before : Origin → List Measurement} {old : List Measurement}
  {sent merged : List Record} {emitted : List Received} {p q : Pipeline}

private theorem merging_server (p : Pipeline) (f : Forwarder) (c : Channel Measurement)
    (merged : Channel Record) :
    merging { p with serverForwarder := f, echo := c, merged } =
      { p.merging with
        input := Function.update p.merging.input .server c
        forwarder := Function.update p.merging.forwarder .server f
        merged } := by
  have inputs : (merging { p with serverForwarder := f, echo := c, merged }).input =
      Function.update p.merging.input .server c := by
    funext origin
    cases origin <;> rfl
  have forwarders : (merging { p with serverForwarder := f, echo := c, merged }).forwarder =
      Function.update p.merging.forwarder .server f := by
    funext origin
    cases origin <;> rfl
  rw [← inputs, ← forwarders]
  rfl

private theorem merging_client (p : Pipeline) (f : Forwarder) (c : Channel Received)
    (merged : Channel Record) :
    merging { p with clientForwarder := f, received := c, merged } =
      { p.merging with
        input := Function.update p.merging.input .client (c.map (·.measurement))
        forwarder := Function.update p.merging.forwarder .client f
        merged } := by
  have inputs : (merging { p with clientForwarder := f, received := c, merged }).input =
      Function.update p.merging.input .client (c.map (·.measurement)) := by
    funext origin
    cases origin <;> rfl
  have forwarders : (merging { p with clientForwarder := f, received := c, merged }).forwarder =
      Function.update p.merging.forwarder .client f := by
    funext origin
    cases origin <;> rfl
  rw [← inputs, ← forwarders]
  rfl

private theorem merging_echo (p : Pipeline) (c : Channel Measurement) :
    merging { p with echo := c } =
      { p.merging with input := Function.update p.merging.input .server c } := by
  have given := merging_server p (p.merging.forwarder .server) c p.merged
  rw [Function.update_eq_self] at given
  exact given

private theorem merging_received (p : Pipeline) (c : Channel Received) :
    merging { p with received := c } =
      { p.merging with
        input := Function.update p.merging.input .client (c.map (·.measurement)) } := by
  have given := merging_client p (p.merging.forwarder .client) c p.merged
  rw [Function.update_eq_self] at given
  exact given

private theorem Books.merges (books : Books sink before old sent merged emitted p) :
    (p.mergingFrom p.merging.input).Accounts sink before sent merged :=
  books.accounts

private theorem Books.sender (books : Books sink before old sent merged emitted p)
    (moved : q ∈ p.senderMoves) : ∃ sent, Books sink before old sent merged emitted q := by
  unfold senderMoves at moved
  obtain ⟨⟨s, ⟨_, _, source, echo, wire, log⟩⟩, member, rfl⟩ := List.mem_map.mp moved
  have accounts := books.accounts
  have notPing : ¬ p.isPing = true := Bool.eq_false_iff.mp books.notPing
  dsimp only
  -- The condition is about the pipeline after the move, which has the same configuration.
  rw [if_neg (by exact notPing)]
  cases (Sender.moved_of_mem_moves member).handing with
  | written new texts unechoed same goesOn =>
      obtain rfl : echo = p.echo := same
      refine ⟨sent, { books with accounts := accounts, written := ?_, echoOpen := ?_ }⟩
      · rw [texts, unechoed, ← List.append_assoc, ← books.written]
      · rw [goesOn]
        exact books.echoOpen
  | @echoed m _ texts held after handed opened goesOn =>
      obtain ⟨-, -, rfl⟩ := Channel.send?_eq_some (accounts.inputsRead .server) handed
      have given := accounts.send ⟨.server, m⟩ (books.echoOpen opened)
      rw [← merging_echo] at given
      refine ⟨sent ++ [⟨.server, m⟩],
        { books with accounts := given, written := ?_, received := ?_, echoOpen := ?_ }⟩
      · rw [texts, books.written, held, after, measurementsOf_concat_self, List.append_nil,
          List.append_assoc]
      · have other : Origin.server ≠ .client := nofun
        rw [measurementsOf_concat_of_ne sent m other]
        exact books.received
      · exact fun _ => books.echoOpen opened
  | stopped texts held after same opened ended =>
      obtain rfl : echo = p.echo.hangUp := same
      have given := accounts.close .server
      rw [← merging_echo] at given
      refine ⟨sent, { books with accounts := given, written := ?_, echoOpen := ?_ }⟩
      · rw [texts, after, ← held, ← books.written]
      · rw [ended]
        exact nofun

private theorem Books.receiver (books : Books sink before old sent merged emitted p)
    (moved : q ∈ p.receiverMoves) :
    ∃ sent, Books sink before old sent merged
      (emitted ++ Receiver.emitted p.receiver q.receiver) q := by
  unfold receiverMoves at moved
  obtain ⟨⟨r, ⟨_, _, connection, wire, output, stopRequested, log⟩⟩, member, rfl⟩ :=
    List.mem_map.mp moved
  have accounts := books.accounts
  have move := Receiver.moved_of_mem_moves member
  have texts : wire.texts = p.wire.texts := Wire.texts_congr move.wire_sent
  have written := texts.trans books.written
  cases move.emission with
  | quiet nothing same goesOn =>
      obtain rfl : output = p.received := same
      have running := books.receivedOpen move.running
      refine ⟨sent, { books with
        accounts := accounts, written := written, received := ?_
        receivedOpen := fun _ => running }⟩
      rw [nothing, List.append_nil]
      exact books.received
  | @handed received one handed goesOn =>
      have reading : p.received.reading = true := accounts.inputsRead .client
      obtain ⟨-, -, same⟩ := Channel.send?_eq_some reading handed
      obtain rfl : output = _ := same
      have opened := books.receivedOpen move.running
      have given := accounts.send ⟨.client, received.measurement⟩ opened
      refine ⟨sent ++ [⟨.client, received.measurement⟩], { books with
        accounts := ?_, written := ?_, received := ?_, receivedOpen := fun _ => opened }⟩
      · -- The merging sees what the receiver hands on without its origin.
        have queued := Channel.map_concat (fun r : Received => r.measurement) p.received received
        have merges :=
          merging_received p { p.received with queue := p.received.queue ++ [received] }
        rw [queued] at merges
        exact merges.symm ▸ given
      · have other : Origin.client ≠ .server := nofun
        rw [measurementsOf_concat_of_ne sent received.measurement other]
        exact written
      · rw [one, measurementsOf_concat_self, List.map_append, List.map_singleton, books.received]
  | stopped nothing same ended =>
      obtain rfl : output = p.received.hangUp := same
      have given := accounts.close .client
      have hungUp : (p.merging.input .client).hangUp = p.received.hangUp.map (·.measurement) := rfl
      rw [hungUp, ← merging_received] at given
      refine ⟨sent, { books with
        accounts := given, written := written, received := ?_,
        receivedOpen := fun running => absurd ended running }⟩
      rw [nothing, List.append_nil]
      exact books.received

private theorem Books.serverForwarder (books : Books sink before old sent merged emitted p)
    (moved : q ∈ p.serverForwarderMoves) : Books sink before old sent merged emitted q := by
  unfold serverForwarderMoves at moved
  obtain ⟨⟨f, ⟨source, channel⟩⟩, member, rfl⟩ := List.mem_map.mp moved
  have notPing : ¬ p.isPing = true := Bool.eq_false_iff.mp books.notPing
  rw [if_neg notPing] at member
  dsimp only
  rw [if_neg (by exact notPing)]
  have input : p.merging.input .server = p.echo.map id := (Channel.map_id _).symm
  have step := Merging.Step.ofForwarder p.merging .server id input rfl rfl member
  rw [Channel.map_id, ← merging_server] at step
  have writers : source.writers = p.echo.writers := Forwarder.source_writers member
  exact { books with
    accounts := books.accounts.quiet step
    echoOpen := writers.symm ▸ books.echoOpen }

private theorem Books.clientForwarder (books : Books sink before old sent merged emitted p)
    (moved : q ∈ p.clientForwarderMoves) : Books sink before old sent merged emitted q := by
  have notPing : ¬ p.isPing = true := Bool.eq_false_iff.mp books.notPing
  unfold clientForwarderMoves at moved
  rw [if_neg notPing] at moved
  obtain ⟨⟨f, ⟨source, channel⟩⟩, member, rfl⟩ := List.mem_map.mp moved
  have step := Merging.Step.ofForwarder p.merging .client (fun r : Received => r.measurement)
    rfl rfl rfl member
  rw [← merging_client] at step
  have writers : source.writers = p.received.writers := Forwarder.source_writers member
  exact { books with
    accounts := books.accounts.quiet step
    receivedOpen := writers.symm ▸ books.receivedOpen }

private theorem Books.mergeEnd (books : Books sink before old sent merged emitted p)
    (moved : q ∈ p.mergeEndMoves) : Books sink before old sent merged emitted q := by
  obtain ⟨rfl, accounts⟩ := accounts_mergeEnd books.merges moved
  exact { books with accounts }

/-- The saver merges what is sent to it, as long as the supervisor waits for it. -/
private theorem Books.saver (books : Books sink before old sent merged emitted p)
    (moved : q ∈ p.saverMoves) : ∃ merged, Books sink before old sent merged emitted q := by
  obtain ⟨unfinished, merged, accounts⟩ := accounts_saver books.merges moved
  obtain ⟨_, _, rfl⟩ := List.mem_map.mp moved
  refine ⟨merged, { books with accounts, saved := fun past => ?_ }⟩
  exact absurd (books.saved past) (Bool.eq_false_iff.mp unfinished)

private theorem Books.supervisor (books : Books sink before old sent merged emitted p)
    (moved : q ∈ p.supervisorMoves) : Books sink before old sent merged emitted q := by
  obtain ⟨finished, accounts⟩ := accounts_supervisor books.merges books.saved moved
  obtain ⟨_, _, rfl⟩ := List.mem_map.mp moved
  exact { books with accounts, saved := fun _ => finished }

private theorem Books.closer (books : Books sink before old sent merged emitted p)
    (moved : q ∈ p.closerMoves) : Books sink before old sent merged emitted q := by
  unfold closerMoves at moved
  obtain ⟨_, _, rfl⟩ := List.mem_map.mp moved
  exact { books with }

private theorem Books.measurer (books : Books sink before old sent merged emitted p)
    (moved : q ∈ p.measurerMoves) : Books sink before old sent merged emitted q := by
  unfold measurerMoves at moved
  obtain ⟨_, _, rfl⟩ := List.mem_map.mp moved
  exact { books with }

private theorem Books.step {more : List Received}
    (books : Books sink before old sent merged emitted p) (step : Step p more q) :
    ∃ sent merged, Books sink before old sent merged (emitted ++ more) q := by
  have notPing : ¬ p.isPing = true := Bool.eq_false_iff.mp books.notPing
  cases step with
  | wait later =>
      rw [List.append_nil]
      exact ⟨sent, merged, { books with }⟩
  | outside same =>
      rw [List.append_nil]
      exact ⟨sent, merged, { books with written := (Wire.texts_congr same).trans books.written }⟩
  | @move task _ moved =>
      by_cases own : task = .receiver
      · subst own
        obtain ⟨sent, kept⟩ := books.receiver moved
        exact ⟨sent, merged, kept⟩
      · rw [receiver_of_mem_moves own moved, Receiver.emitted_self, List.append_nil]
        cases task with
        | receiver => exact absurd rfl own
        | measurer => exact ⟨sent, merged, books.measurer moved⟩
        | sender =>
            obtain ⟨sent, kept⟩ := books.sender moved
            exact ⟨sent, merged, kept⟩
        | serverForwarder => exact ⟨sent, merged, books.serverForwarder moved⟩
        | clientForwarder => exact ⟨sent, merged, books.clientForwarder moved⟩
        | mergeEnd => exact ⟨sent, merged, books.mergeEnd moved⟩
        | saver =>
            obtain ⟨merged, kept⟩ := books.saver moved
            exact ⟨sent, merged, kept⟩
        | supervisor => exact ⟨sent, merged, books.supervisor moved⟩
        | closer => exact ⟨sent, merged, books.closer moved⟩
        | mux => exact absurd (of_mem_muxMoves moved).1 notPing
        | echoDrain => exact absurd (of_mem_echoDrainMoves moved).1 notPing

private theorem books_start (config : Config) (connection : Connection) (wire : Wire)
    (sink : RecordSink) (archive : Archive) (notPing : config.subtest ≠ .ping) :
    Books sink archive.measurements wire.texts [] [] []
      (start config connection wire sink archive) where
  notPing := decide_eq_false notPing
  accounts := accounts_start config connection wire sink archive fun origin => by
    cases origin <;> rfl
  written := by
    have nothing : (Sender.new config.sender).unechoed = [] := by
      rw [Sender.unechoed, Sender.new]
      dsimp only
      rw [if_neg (by exact notPing)]
    have sender : (start config connection wire sink archive).sender = .new config.sender := rfl
    rw [sender, nothing, List.append_nil]
    exact (List.append_nil _).symm
  received := rfl
  echoOpen := fun _ => Nat.one_ne_zero
  receivedOpen := fun _ => Nat.one_ne_zero
  saved := fun past => absurd rfl past

/-- **The archive agrees with the wire.** When a download or an upload returns, whatever its tasks
did in whatever order, the server's measurements in its archive are exactly those that were
written to the wire meanwhile, in the order of the wire and without the identity of the
connection, and the client's are exactly those that the receiver has handed on. -/
theorem archive_agrees (config : Config) (connection : Connection) (wire : Wire)
    (sink : RecordSink) (archive : Archive) (notPing : config.subtest ≠ .ping)
    (run : Run Step (start config connection wire sink archive) emitted q)
    (returned : q.result?.isSome = true) :
    ∃ texts, q.wire.texts = wire.texts ++ texts ∧
      q.archive.server = archive.server ++ texts.map ({ · with identity := none }) ∧
      q.archive.client = archive.client ++ emitted.map (·.measurement) := by
  have kept : ∃ sent merged, Books sink archive.measurements wire.texts sent merged emitted q := by
    refine run.keeps (fun emitted p => ∃ sent merged,
      Books sink archive.measurements wire.texts sent merged emitted p) ?_ ?_
    · exact ⟨[], [], books_start config connection wire sink archive notPing⟩
    · rintro emitted more p q ⟨sent, merged, books⟩ step
      exact books.step step
  obtain ⟨sent, merged, books⟩ := kept
  have finished : q.saver.finished = true := by
    refine books.saved fun awaiting => ?_
    rw [result?, awaiting] at returned
    cases returned
  have settled (origin : Origin) :
      (q.merging.input origin).ended = true ∧
        measurementsOf origin sent = measurementsOf origin merged := by
    obtain ⟨ended, nothing⟩ := books.accounts.settled finished origin
    rw [books.accounts.conserved origin, nothing, List.append_nil]
    exact ⟨ended, rfl⟩
  -- The saver has seen the end of what the sender hands on, so the sender holds nothing back.
  have handedOn : q.sender.unechoed = [] := by
    have closed : q.echo.writers = 0 := (Channel.ended_iff.mp (settled .server).1).2
    have stopped : q.sender.handsOn = false :=
      Bool.eq_false_iff.mpr fun opened => books.echoOpen opened closed
    exact Sender.unechoed_of_handsOn stopped
  have server := books.accounts.recorded .server
  have client := books.accounts.recorded .client
  rw [Saver.measurementsOf_server_stored, ← (settled .server).2] at server
  rw [Saver.measurementsOf_client_stored, ← (settled .client).2, books.received] at client
  refine ⟨measurementsOf .server sent, ?_, server, client⟩
  rw [books.written, handedOn, List.append_nil]

/-- A download that is over after one sample. -/
def oneSample : Config where
  subtest := .download
  instrument := { congestion := fun _ => none, tcpStats := fun _ => none }
  draws := fun _ => 0
  defaultRuntime := millis 150

/-- A peer that sends one measurement, takes its time over each frame and answers the last one. -/
def slowPeer : Wire where
  rules := fun _ => { delay := millis 60 }
  closeReply := some 0
  arrivals := [(0, .text "\x7b\x7d")]

/-- A sink that refuses every write. -/
def fullSink : RecordSink where
  refusal? _ _ := some (.encoding "full")

/-- The download with this peer and this sink once it has returned. -/
def sampledOnce : Pipeline := machine.run 42 (start oneSample {} slowPeer fullSink { uuid := "" })

/-- One sample is written to a slow peer with its identity and archived without it. -/
theorem archive_agrees_sampledOnce : ∃ emitted texts,
    Run Step (start oneSample {} slowPeer fullSink { uuid := "" }) emitted sampledOnce ∧
      sampledOnce.result?.isSome = true ∧
      sampledOnce.wire.texts = texts ∧ texts.map (·.identity) = [some {}] ∧
      sampledOnce.archive.server = texts.map ({ · with identity := none }) ∧
      sampledOnce.archive.server.map (·.identity) = [none] ∧
      emitted.map (·.measurement) = [{}] := by
  obtain ⟨emitted, run⟩ : ∃ emitted,
      Run Step (start oneSample {} slowPeer fullSink { uuid := "" }) emitted sampledOnce :=
    machine_run .stay 42
  have returned : sampledOnce.result?.isSome = true := by decide +kernel
  have identified : sampledOnce.wire.texts.map (·.identity) = [some {}] := by decide +kernel
  have stripped : sampledOnce.archive.server.map (·.identity) = [none] := by decide +kernel
  have collected : sampledOnce.archive.client = [{}] := by decide +kernel
  obtain ⟨texts, written, server, client⟩ :=
    archive_agrees oneSample {} slowPeer fullSink { uuid := "" } nofun run returned
  have sent : sampledOnce.wire.texts = texts := written
  refine ⟨emitted, texts, run, returned, sent, ?_, server, stripped, ?_⟩
  · rw [← sent]
    exact identified
  · rw [← collected]
    exact client.symm

end LinkGauge.Pipeline
