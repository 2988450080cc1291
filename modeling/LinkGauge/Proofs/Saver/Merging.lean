import LinkGauge.Proofs.Channel
import LinkGauge.Proofs.Run
import LinkGauge.Proofs.Saver.Sink
import Mathlib.Logic.Function.Basic

/-!
# Merging by itself

`Merging` is what a saver, its two forwarders and their channels consist of, apart from
whoever feeds them, and `Merging.Step` says what can happen to it: a producer sends or hangs
up, a forwarder takes, hands on or finishes, the merged channel is ended, the saver saves a
record or stops.

`Merging.Accounts` relates what was sent to the inputs and what was merged to the state: for
either origin, what was sent is what has been merged, followed by what is on its way
(`Merging.underWay`). Every step keeps the books (`Merging.Accounts.step`), so along every
run nothing is lost, doubled or reordered within an origin. Once the saver has stopped
nothing is on its way any more (`Merging.Accounts.settled`).
-/

namespace LinkGauge

open Record

namespace Forwarder

/-- The record in a forwarder's hands. -/
def held : Forwarder → List Record
  | .holding record => [record]
  | _ => []

/-- How many handles of the merged channel a forwarder has. -/
def handles : Forwarder → Nat
  | .finished => 0
  | _ => 1

/-- What a forwarder can do: take a value, finish after the last one, or hand on the record
it holds. -/
inductive Moved {α : Type} (label : α → Record) (v : View α) :
    Forwarder → Forwarder → View α → Prop where
  | take {value : α} {source : Channel α} (taken : v.source.take? = some (value, source)) :
      Moved label v .waiting (.holding (label value)) { v with source }
  | finish (nothing : v.source.take? = none) (ended : v.source.ended = true) :
      Moved label v .waiting .finished { v with merged := v.merged.hangUp }
  | hand {record : Record} {delivery : Delivery} {merged : Channel Record}
      (sent : v.merged.send? record = some (delivery, merged)) :
      Moved label v (.holding record) .waiting { v with merged }

/-- The moves of a forwarder are those that `Moved` describes. -/
theorem mem_moves_iff {α : Type} {label : α → Record} {f next : Forwarder} {v after : View α} :
    (next, after) ∈ f.moves label v ↔ Moved label v f next after := by
  constructor
  · intro member
    cases f with
    | waiting =>
        simp only [moves] at member
        split at member
        · next value source taken =>
            cases List.mem_singleton.mp member
            exact .take taken
        · next nothing =>
            split at member
            · next ended =>
                cases List.mem_singleton.mp member
                exact .finish nothing ended
            · cases member
    | holding record =>
        simp only [moves] at member
        split at member
        · next delivery merged sent =>
            cases List.mem_singleton.mp member
            exact .hand sent
        · cases member
    | finished => cases member
  · intro moved
    cases moved with
    | take taken =>
        rw [moves, taken]
        exact List.mem_singleton_self _
    | finish nothing ended =>
        rw [moves, nothing]
        dsimp only
        rw [if_pos ended]
        exact List.mem_singleton_self _
    | hand sent =>
        rw [moves, sent]
        exact List.mem_singleton_self _

/-- A forwarder does not hang up its own input. -/
theorem source_writers {α : Type} {label : α → Record} {f next : Forwarder} {v after : View α}
    (member : (next, after) ∈ f.moves label v) : after.source.writers = v.source.writers := by
  cases mem_moves_iff.mp member with
  | take taken => rw [(Channel.take?_eq_some taken).2]
  | finish | hand => rfl

end Forwarder

/-- The measurements in an archive, by origin. -/
def Archive.measurements (a : Archive) : Origin → List Measurement
  | .server => a.server
  | .client => a.client

private theorem Archive.measurements_record (a : Archive) (r : Record) :
    (a.record r).measurements =
      Function.update a.measurements r.origin (a.measurements r.origin ++ [r.measurement]) := by
  obtain ⟨origin, m⟩ := r
  funext other
  cases origin <;> cases other <;> rfl

/-- A saver with its forwarders and their channels. -/
structure Merging where
  input : Origin → Channel Measurement
  forwarder : Origin → Forwarder
  /-- Whether the last handle of the merged channel has been dropped. -/
  mergeEnded : Bool
  merged : Channel Record
  failure : Option StoreError
  finished : Bool
  sink : RecordSink
  /-- The measurements in the archive. -/
  recorded : Origin → List Measurement

namespace Merging

/-- What can be seen of merging. -/
inductive Event where
  /-- A measurement was sent to the input of its origin. -/
  | sent (record : Record)
  /-- The saver took a record out of the merged channel. -/
  | merged (record : Record)

/-- The records sent to the inputs. -/
def sentOf (events : List Event) : List Record :=
  events.filterMap fun | .sent record => some record | .merged _ => none

/-- The records taken out of the merged channel. -/
def mergedOf (events : List Event) : List Record :=
  events.filterMap fun | .merged record => some record | .sent _ => none

/-- What can happen. -/
inductive Step (m : Merging) : List Event → Merging → Prop where
  | send {record : Record} (opened : (m.input record.origin).writers ≠ 0) :
      Step m [.sent record]
        { m with
          input := Function.update m.input record.origin
            { m.input record.origin with
              queue := (m.input record.origin).queue ++ [record.measurement] } }
  | close {origin : Origin} :
      Step m [] { m with input := Function.update m.input origin (m.input origin).hangUp }
  | take {origin : Origin} {value : Measurement} {source : Channel Measurement}
      (waiting : m.forwarder origin = .waiting)
      (taken : (m.input origin).take? = some (value, source)) :
      Step m []
        { m with
          input := Function.update m.input origin source
          forwarder := Function.update m.forwarder origin (.holding ⟨origin, value⟩) }
  | finish {origin : Origin} (waiting : m.forwarder origin = .waiting)
      (ended : (m.input origin).ended = true) :
      Step m []
        { m with
          forwarder := Function.update m.forwarder origin .finished
          merged := m.merged.hangUp }
  | hand {origin : Origin} {record : Record} {delivery : Delivery} {merged : Channel Record}
      (holding : m.forwarder origin = .holding record)
      (sent : m.merged.send? record = some (delivery, merged)) :
      Step m []
        { m with forwarder := Function.update m.forwarder origin .waiting, merged }
  | endMerge (once : m.mergeEnded = false)
      (finished : ∀ origin, m.forwarder origin = .finished) :
      Step m [] { m with mergeEnded := true, merged := m.merged.hangUp }
  | save {record : Record} {merged : Channel Record} (unfinished : m.finished = false)
      (taken : m.merged.take? = some (record, merged)) :
      Step m [.merged record]
        { m with
          merged
          failure := (m.sink.writeAfter m.failure (Saver.stored record)).1
          sink := (m.sink.writeAfter m.failure (Saver.stored record)).2
          recorded := Function.update m.recorded record.origin
            (m.recorded record.origin ++ [(Saver.stored record).measurement]) }
  | stop (ended : m.merged.ended = true) : Step m [] { m with finished := true }

/-- A forwarder's move is a step of merging, whatever its values are made of. -/
theorem Step.ofForwarder {α : Type} (m : Merging) (origin : Origin) {f next : Forwarder}
    {v after : Forwarder.View α} (value : α → Measurement)
    (source : m.input origin = v.source.map value) (state : m.forwarder origin = f)
    (target : m.merged = v.merged)
    (member : (next, after) ∈ f.moves (fun a => ⟨origin, value a⟩) v) :
    Step m []
      { m with
        input := Function.update m.input origin (after.source.map value)
        forwarder := Function.update m.forwarder origin next
        merged := after.merged } := by
  cases Forwarder.mem_moves_iff.mp member with
  | take taken =>
      have given := Step.take (m := m) state (by rw [source, Channel.take?_map, taken]; rfl)
      rw [target] at given
      exact given
  | finish _ ended =>
      have given := Step.finish (m := m) state (by rw [source, Channel.ended_map, ended])
      rw [← source, Function.update_eq_self, ← target]
      exact given
  | hand sent =>
      rw [← target] at sent
      have given := Step.hand (m := m) state sent
      rw [← source, Function.update_eq_self]
      exact given

/-- What a saver is about to take. -/
def offered (v : Saver.View) : List Event :=
  (v.merged.take?.map fun (record, _) => Event.merged record).toList

/-- A record that is offered to the sink has not been sent. -/
theorem sentOf_offered (v : Saver.View) : sentOf (offered v) = [] := by
  unfold offered
  cases v.merged.take? <;> rfl

/-- A saver's move is a step of merging. -/
theorem Step.ofSaver {m : Merging} {s next : Saver} {v after : Saver.View}
    (failure : m.failure = s.failure) (finished : m.finished = s.finished)
    (target : m.merged = v.merged) (sink : m.sink = v.sink)
    (recorded : m.recorded = v.archive.measurements) (member : (next, after) ∈ s.moves v) :
    Step m (offered v)
      { m with
        merged := after.merged
        failure := next.failure
        finished := next.finished
        sink := after.sink
        recorded := after.archive.measurements } := by
  cases Saver.mem_moves_iff.mp member with
  | @save record merged unfinished taken =>
      have given := Step.save (m := m) (finished.trans unfinished) (by rw [target, taken])
      have written : _ = v.sink.writeAfter s.failure (Saver.stored record) :=
        Saver.save_written s { v with merged } (Saver.stored record)
      have appended := Archive.measurements_record v.archive (Saver.stored record)
      rw [Saver.stored_origin] at appended
      rw [failure, sink, ← written, recorded, ← appended] at given
      rw [Saver.save_merged, Saver.save_archive, Saver.save_finished, ← finished, offered, taken]
      exact given
  | finish _ nothing ended =>
      have given := Step.stop (m := m) (by rw [target, ended])
      rw [offered, nothing, ← target, ← failure, ← sink, ← recorded]
      exact given

/-- The measurements of one origin that have been sent but not merged. -/
def underWay (m : Merging) (origin : Origin) : List Measurement :=
  measurementsOf origin (m.merged.queue ++ (m.forwarder origin).held) ++ (m.input origin).queue

/-- The books of merging into a sink and onto measurements already recorded: what was sent
to the inputs and what has been merged, against the state. -/
structure Accounts (sink : RecordSink) (before : Origin → List Measurement)
    (sent merged : List Record) (m : Merging) : Prop where
  conserved : ∀ origin,
    measurementsOf origin sent = measurementsOf origin merged ++ m.underWay origin
  labelled : ∀ origin, ∀ record ∈ (m.forwarder origin).held, record.origin = origin
  recorded : ∀ origin,
    m.recorded origin = before origin ++ measurementsOf origin (merged.map Saver.stored)
  wrote : sink.Wrote (merged.map Saver.stored) m.failure m.sink
  inputsRead : ∀ origin, (m.input origin).reading = true
  mergedRead : m.merged.reading = true
  mergedRoom : 0 < m.merged.capacity
  mergedWriters : m.merged.writers =
    (if m.mergeEnded then 0 else 1) + (m.forwarder .server).handles + (m.forwarder .client).handles
  exhausted : ∀ origin, m.forwarder origin = .finished → (m.input origin).ended = true
  allFinished : m.mergeEnded = true → ∀ origin, m.forwarder origin = .finished
  drained : m.finished = true → m.merged.ended = true

namespace Accounts

variable {sink : RecordSink} {before : Origin → List Measurement} {sent merged : List Record}
  {m next : Merging}

private theorem handles_eq_zero (books : m.Accounts sink before sent merged)
    (ended : m.merged.ended = true) (origin : Origin) : (m.forwarder origin).handles = 0 := by
  have counted := books.mergedWriters
  rw [(Channel.ended_iff.mp ended).2] at counted
  cases origin <;> omega

/-- A record that was sent is on its way. -/
theorem send (books : m.Accounts sink before sent merged) (record : Record)
    (opened : (m.input record.origin).writers ≠ 0) :
    Accounts sink before (sent ++ [record]) merged
      { m with
        input := Function.update m.input record.origin
          { m.input record.origin with
            queue := (m.input record.origin).queue ++ [record.measurement] } } := by
  refine { books with conserved := ?_, inputsRead := ?_, exhausted := ?_ }
  · intro origin
    rw [measurementsOf_append, measurementsOf_singleton, books.conserved origin]
    by_cases own : origin = record.origin
    · subst own
      simp only [underWay, Function.update_self, ↓reduceIte, List.append_assoc]
    · simp only [underWay, Function.update_of_ne own, Ne.symm own, ↓reduceIte, List.append_nil]
  · apply (Function.forall_update_iff m.input fun _ c => c.reading = true).mpr
    exact ⟨books.inputsRead record.origin, fun origin _ => books.inputsRead origin⟩
  · apply (Function.forall_update_iff m.input fun origin c =>
      m.forwarder origin = .finished → c.ended = true).mpr
    refine ⟨fun finished => ?_, fun origin _ => books.exhausted origin⟩
    exact absurd (Channel.ended_iff.mp (books.exhausted _ finished)).2 opened

/-- Hanging up puts nothing on its way. -/
theorem close (books : m.Accounts sink before sent merged) (closing : Origin) :
    Accounts sink before sent merged
      { m with input := Function.update m.input closing (m.input closing).hangUp } := by
  refine { books with conserved := ?_, inputsRead := ?_, exhausted := ?_ }
  · intro origin
    rw [books.conserved origin]
    by_cases own : origin = closing
    · subst own
      simp only [underWay, Function.update_self, Channel.hangUp]
    · simp only [underWay, Function.update_of_ne own]
  · apply (Function.forall_update_iff m.input fun _ c => c.reading = true).mpr
    exact ⟨books.inputsRead closing, fun origin _ => books.inputsRead origin⟩
  · apply (Function.forall_update_iff m.input fun origin c =>
      m.forwarder origin = .finished → c.ended = true).mpr
    exact ⟨fun finished => Channel.ended_hangUp (books.exhausted closing finished),
      fun origin _ => books.exhausted origin⟩

private theorem take (books : m.Accounts sink before sent merged) {taker : Origin}
    {value : Measurement} {source : Channel Measurement} (waiting : m.forwarder taker = .waiting)
    (taken : (m.input taker).take? = some (value, source)) :
    Accounts sink before sent merged
      { m with
        input := Function.update m.input taker source
        forwarder := Function.update m.forwarder taker (.holding ⟨taker, value⟩) } := by
  obtain ⟨queued, frame⟩ := Channel.take?_eq_some taken
  refine { books with
    conserved := ?_, labelled := ?_, inputsRead := ?_, mergedWriters := ?_, exhausted := ?_,
    allFinished := ?_ }
  · intro origin
    rw [books.conserved origin]
    by_cases own : origin = taker
    · subst own
      simp only [underWay, waiting, queued, Function.update_self, Forwarder.held,
        measurementsOf_append, measurementsOf_singleton, ↓reduceIte, List.append_assoc,
        List.cons_append, List.nil_append, List.append_nil]
    · simp only [underWay, Function.update_of_ne own]
  · apply (Function.forall_update_iff m.forwarder fun origin f =>
      ∀ record ∈ f.held, record.origin = origin).mpr
    refine ⟨fun record member => ?_, fun origin _ => books.labelled origin⟩
    rw [List.mem_singleton.mp member]
  · apply (Function.forall_update_iff m.input fun _ c => c.reading = true).mpr
    refine ⟨?_, fun origin _ => books.inputsRead origin⟩
    rw [frame]
    exact books.inputsRead taker
  · rw [books.mergedWriters]
    cases taker <;>
      simp only [waiting, Function.update_self, ne_eq, reduceCtorEq, not_false_eq_true,
        Function.update_of_ne, Forwarder.handles]
  · intro origin finished
    by_cases own : origin = taker
    · subst own
      simp only [Function.update_self, reduceCtorEq] at finished
    · simp only [Function.update_of_ne own] at finished ⊢
      exact books.exhausted origin finished
  · intro ended origin
    have finished := books.allFinished ended taker
    rw [waiting] at finished
    cases finished

private theorem finish (books : m.Accounts sink before sent merged) {finisher : Origin}
    (waiting : m.forwarder finisher = .waiting) (ended : (m.input finisher).ended = true) :
    Accounts sink before sent merged
      { m with
        forwarder := Function.update m.forwarder finisher .finished
        merged := m.merged.hangUp } := by
  refine { books with
    conserved := ?_, labelled := ?_, mergedWriters := ?_, exhausted := ?_,
    allFinished := ?_, drained := ?_ }
  · intro origin
    rw [books.conserved origin]
    by_cases own : origin = finisher
    · subst own
      simp only [underWay, waiting, Function.update_self, Forwarder.held, Channel.hangUp]
    · simp only [underWay, Function.update_of_ne own, Channel.hangUp]
  · apply (Function.forall_update_iff m.forwarder fun origin f =>
      ∀ record ∈ f.held, record.origin = origin).mpr
    refine ⟨?_, fun origin _ => books.labelled origin⟩
    intro record member
    cases member
  · have counted := books.mergedWriters
    cases finisher <;>
      simp only [waiting, Forwarder.handles, Channel.hangUp, Function.update_self, ne_eq,
        reduceCtorEq, not_false_eq_true, Function.update_of_ne] at counted ⊢ <;>
      omega
  · apply (Function.forall_update_iff m.forwarder fun origin f =>
      f = .finished → (m.input origin).ended = true).mpr
    exact ⟨fun _ => ended, fun origin _ => books.exhausted origin⟩
  · intro mergeEnded
    have finished := books.allFinished mergeEnded finisher
    rw [waiting] at finished
    cases finished
  · intro finished
    exact Channel.ended_hangUp (books.drained finished)

private theorem hand (books : m.Accounts sink before sent merged) {giver : Origin} {record : Record}
    {delivery : Delivery} {channel : Channel Record}
    (holding : m.forwarder giver = .holding record)
    (handed : m.merged.send? record = some (delivery, channel)) :
    Accounts sink before sent merged
      { m with
        forwarder := Function.update m.forwarder giver .waiting
        merged := channel } := by
  obtain ⟨-, -, rfl⟩ := Channel.send?_eq_some books.mergedRead handed
  have label : record.origin = giver := by
    apply books.labelled giver
    rw [holding]
    exact List.mem_singleton_self record
  refine { books with
    conserved := ?_, labelled := ?_, mergedWriters := ?_, exhausted := ?_,
    allFinished := ?_, drained := ?_ }
  · intro origin
    rw [books.conserved origin]
    by_cases own : origin = giver
    · subst own
      simp only [underWay, holding, Function.update_self, Forwarder.held, List.append_nil]
    · have other : giver ≠ origin := Ne.symm own
      simp only [underWay, Function.update_of_ne own, measurementsOf_append,
        measurementsOf_singleton, label, other, ↓reduceIte, List.append_nil]
  · apply (Function.forall_update_iff m.forwarder fun origin f =>
      ∀ record ∈ f.held, record.origin = origin).mpr
    refine ⟨?_, fun origin _ => books.labelled origin⟩
    intro record member
    cases member
  · rw [books.mergedWriters]
    cases giver <;>
      simp only [holding, Function.update_self, ne_eq, reduceCtorEq, not_false_eq_true,
        Function.update_of_ne, Forwarder.handles]
  · apply (Function.forall_update_iff m.forwarder fun origin f =>
      f = .finished → (m.input origin).ended = true).mpr
    refine ⟨?_, fun origin _ => books.exhausted origin⟩
    intro finished
    cases finished
  · intro mergeEnded
    have finished := books.allFinished mergeEnded giver
    rw [holding] at finished
    cases finished
  · intro finished
    have none_left := books.handles_eq_zero (books.drained finished) giver
    rw [holding] at none_left
    cases none_left

/-- The last handle is dropped when both forwarders have finished. -/
theorem endMerge (books : m.Accounts sink before sent merged) (once : m.mergeEnded = false)
    (finished : ∀ origin, m.forwarder origin = .finished) :
    Accounts sink before sent merged
      { m with mergeEnded := true, merged := m.merged.hangUp } := by
  refine { books with mergedWriters := ?_, allFinished := ?_, drained := ?_ }
  · have counted := books.mergedWriters
    simp only [once, finished, Forwarder.handles, Bool.false_eq_true, ↓reduceIte,
      Channel.hangUp] at counted ⊢
    omega
  · exact fun _ => finished
  · exact fun stopped => Channel.ended_hangUp (books.drained stopped)

/-- A record that is saved has been merged, and is recorded and written as it is stored. -/
private theorem save (books : m.Accounts sink before sent merged) {record : Record}
    {channel : Channel Record} (unfinished : m.finished = false)
    (taken : m.merged.take? = some (record, channel)) :
    Accounts sink before sent (merged ++ [record])
      { m with
        merged := channel
        failure := (m.sink.writeAfter m.failure (Saver.stored record)).1
        sink := (m.sink.writeAfter m.failure (Saver.stored record)).2
        recorded := Function.update m.recorded record.origin
          (m.recorded record.origin ++ [(Saver.stored record).measurement]) } := by
  obtain ⟨queued, frame⟩ := Channel.take?_eq_some taken
  refine { books with
    conserved := ?_, recorded := ?_, wrote := ?_, mergedRead := ?_, mergedRoom := ?_,
    mergedWriters := ?_, drained := ?_ }
  · intro origin
    rw [books.conserved origin]
    have first : measurementsOf origin m.merged.queue =
        measurementsOf origin [record] ++ measurementsOf origin channel.queue := by
      rw [queued, ← measurementsOf_append, List.singleton_append]
    simp only [underWay, measurementsOf_append, first, List.append_assoc]
  · intro origin
    rw [List.map_append, measurementsOf_append, List.map_singleton, measurementsOf_singleton,
      Saver.stored_origin]
    by_cases own : origin = record.origin
    · subst own
      simp only [Function.update_self, books.recorded, ↓reduceIte, List.append_assoc]
    · simp only [Function.update_of_ne own, books.recorded, Ne.symm own, ↓reduceIte,
        List.append_nil]
  · rw [List.map_append, List.map_singleton]
    exact books.wrote.concat _
  · rw [frame]
    exact books.mergedRead
  · rw [frame]
    exact books.mergedRoom
  · rw [frame]
    exact books.mergedWriters
  · intro finished
    exact absurd (unfinished.symm.trans finished) Bool.false_ne_true

/-- Every step keeps the books. -/
theorem step {events : List Event} (books : m.Accounts sink before sent merged)
    (moved : Step m events next) :
    next.Accounts sink before (sent ++ sentOf events) (merged ++ mergedOf events) := by
  cases moved with
  | send opened =>
      simpa only [sentOf, mergedOf, List.filterMap_cons, List.filterMap_nil, List.append_nil] using
        books.send _ opened
  | close =>
      simpa only [sentOf, mergedOf, List.filterMap_nil, List.append_nil] using
        books.close _
  | take waiting taken =>
      simpa only [sentOf, mergedOf, List.filterMap_nil, List.append_nil] using
        books.take waiting taken
  | finish waiting ended =>
      simpa only [sentOf, mergedOf, List.filterMap_nil, List.append_nil] using
        books.finish waiting ended
  | hand holding handed =>
      simpa only [sentOf, mergedOf, List.filterMap_nil, List.append_nil] using
        books.hand holding handed
  | endMerge once finished =>
      simpa only [sentOf, mergedOf, List.filterMap_nil, List.append_nil] using
        books.endMerge once finished
  | save unfinished taken =>
      simpa only [sentOf, mergedOf, List.filterMap_cons, List.filterMap_nil, List.append_nil] using
        books.save unfinished taken
  | stop ended =>
      simpa only [sentOf, mergedOf, List.filterMap_nil, List.append_nil] using
        { books with drained := fun _ => ended }

/-- A step that shows nothing keeps the books as they are. -/
theorem quiet (books : m.Accounts sink before sent merged) (moved : Step m [] next) :
    next.Accounts sink before sent merged := by
  have kept := books.step moved
  rw [sentOf, mergedOf, List.filterMap_nil, List.filterMap_nil, List.append_nil,
    List.append_nil] at kept
  exact kept

/-- Once the saver has stopped, both inputs have ended and nothing is on its way. -/
theorem settled (books : m.Accounts sink before sent merged) (finished : m.finished = true)
    (origin : Origin) : (m.input origin).ended = true ∧ m.underWay origin = [] := by
  have ended := books.drained finished
  have last : m.forwarder origin = .finished := by
    have none_left := books.handles_eq_zero ended origin
    cases state : m.forwarder origin with
    | finished => rfl
    | waiting => rw [state] at none_left; cases none_left
    | holding _ => rw [state] at none_left; cases none_left
  have exhausted := books.exhausted origin last
  refine ⟨exhausted, ?_⟩
  rw [underWay, last, (Channel.ended_iff.mp ended).1, (Channel.ended_iff.mp exhausted).1]
  rfl

end Accounts

end Merging

end LinkGauge
