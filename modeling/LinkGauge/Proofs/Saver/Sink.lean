import LinkGauge.Stage.Saver

/-!
# What a saver leaves behind

A record is stored under its origin, without the identity of the connection when it is the
server's (`Saver.measurementsOf_server_stored`, `Saver.measurementsOf_client_stored`). Records
that are handed to a sink are written one after another until a write fails, and then no more
(`RecordSink.Wrote`). Saving one record both records it and goes on with writing
(`Saver.save_archive`, `Saver.save_written`).
-/

namespace LinkGauge

/-- The measurements that one side made, in their order. -/
def Record.measurementsOf (origin : Origin) (records : List Record) : List Measurement :=
  (records.filter (·.origin = origin)).map (·.measurement)

namespace Record

/-- The measurements of an origin in two stretches are those of each. -/
@[simp] theorem measurementsOf_append (origin : Origin) (first second : List Record) :
    measurementsOf origin (first ++ second) =
      measurementsOf origin first ++ measurementsOf origin second := by
  simp only [measurementsOf, List.filter_append, List.map_append]

/-- A record counts for its own origin. -/
theorem measurementsOf_singleton (origin : Origin) (r : Record) :
    measurementsOf origin [r] = if r.origin = origin then [r.measurement] else [] := by
  by_cases own : r.origin = origin <;>
    simp only [measurementsOf, own, decide_true, decide_false, Bool.false_eq_true,
      not_false_eq_true, List.filter_cons_of_pos, List.filter_cons_of_neg, List.filter_nil,
      List.map_cons, List.map_nil, ↓reduceIte]

/-- One more record of an origin comes last in its measurements. -/
theorem measurementsOf_concat_self (records : List Record) (origin : Origin) (m : Measurement) :
    measurementsOf origin (records ++ [⟨origin, m⟩]) = measurementsOf origin records ++ [m] := by
  rw [measurementsOf_append, measurementsOf_singleton, if_pos rfl]

/-- One more record of the other origin changes nothing. -/
theorem measurementsOf_concat_of_ne {origin other : Origin} (records : List Record)
    (m : Measurement) (different : other ≠ origin) :
    measurementsOf origin (records ++ [⟨other, m⟩]) = measurementsOf origin records := by
  rw [measurementsOf_append, measurementsOf_singleton, if_neg different, List.append_nil]

end Record

namespace RecordSink

/-- Whether a sink takes all of the records, one after another. -/
def Accepts (sink : RecordSink) (records : List Record) : Prop :=
  ∀ before record after, records = before ++ record :: after →
    sink.refusal? (before.reverse ++ sink.tried) record = none

/-- The sink after further writes, whatever their answers. -/
def after (sink : RecordSink) (records : List Record) : RecordSink :=
  { sink with tried := records.reverse ++ sink.tried }

/-- What has become of records that were to be written, one after another: either every
write succeeded, or the writes end with the first one that failed. -/
inductive Wrote (sink : RecordSink) (records : List Record) :
    Option StoreError → RecordSink → Prop where
  | all (accepted : sink.Accepts records) : Wrote sink records none (sink.after records)
  | failed {before rest : List Record} {record : Record} {error : StoreError}
      (split : records = before ++ record :: rest) (accepted : sink.Accepts before)
      (refused : sink.refusal? (before.reverse ++ sink.tried) record = some error) :
      Wrote sink records (some error) (sink.after (before ++ [record]))

/-- Every sink accepts nothing at all. -/
theorem accepts_nil (sink : RecordSink) : sink.Accepts [] := by
  intro before record after split
  cases before <;> cases split

private theorem Accepts.concat {sink : RecordSink} {records : List Record} {record : Record}
    (accepted : sink.Accepts records)
    (taken : sink.refusal? (records.reverse ++ sink.tried) record = none) :
    sink.Accepts (records ++ [record]) := by
  intro before other after split
  rcases List.eq_nil_or_concat after with rfl | ⟨early, last, rfl⟩
  · obtain ⟨rfl, same⟩ := List.append_inj' split rfl
    cases same
    exact taken
  · have regrouped : records ++ [record] = (before ++ other :: early) ++ [last] := by
      rw [split, List.concat_eq_append, List.append_assoc, List.cons_append]
    obtain ⟨rfl, _⟩ := List.append_inj' regrouped rfl
    exact accepted before other early rfl

/-- How writing goes on with one more record: not at all after a failure. -/
def writeAfter (sink : RecordSink) (failure : Option StoreError) (record : Record) :
    Option StoreError × RecordSink :=
  match failure with
  | some error => (some error, sink)
  | none => sink.write record

/-- Going on with one more record. -/
theorem Wrote.concat {sink current : RecordSink} {records : List Record}
    {failure : Option StoreError} (wrote : sink.Wrote records failure current) (record : Record) :
    sink.Wrote (records ++ [record]) (current.writeAfter failure record).1
      (current.writeAfter failure record).2 := by
  cases wrote with
  | @failed before rest refusedRecord _ split accepted refused =>
      have extended : records ++ [record] = before ++ refusedRecord :: (rest ++ [record]) := by
        rw [split, List.append_assoc, List.cons_append]
      exact .failed extended accepted refused
  | all accepted =>
      have tried : ((sink.after records).writeAfter none record).2 =
          sink.after (records ++ [record]) := by
        unfold writeAfter RecordSink.write after
        simp only [List.reverse_append, List.reverse_cons, List.reverse_nil, List.nil_append,
          List.cons_append]
      rw [tried]
      cases answer : ((sink.after records).writeAfter none record).1 with
      | none => exact .all (accepted.concat answer)
      | some error =>
          have split : records ++ [record] = records ++ record :: [] := rfl
          exact .failed split accepted answer

end RecordSink

namespace Saver

/-- A record is stored under its origin. -/
@[simp] theorem stored_origin (r : Record) : (stored r).origin = r.origin := by
  unfold stored
  split <;> rfl

/-- The measurements of the server are stored without the identity of the connection. -/
theorem measurementsOf_server_stored (records : List Record) :
    Record.measurementsOf .server (records.map stored) =
      (Record.measurementsOf .server records).map Measurement.withoutIdentity := by
  induction records with
  | nil => rfl
  | cons r rest ih =>
      obtain ⟨origin, m⟩ := r
      cases origin
      · exact congrArg (m.withoutIdentity :: ·) ih
      · exact ih

/-- The measurements of the client are stored as they are. -/
theorem measurementsOf_client_stored (records : List Record) :
    Record.measurementsOf .client (records.map stored) =
      Record.measurementsOf .client records := by
  induction records with
  | nil => rfl
  | cons r rest ih =>
      obtain ⟨origin, m⟩ := r
      cases origin
      · exact ih
      · exact congrArg (m :: ·) ih

/-- Saving a record records it, whether or not anything is written. -/
theorem save_archive (s : Saver) (v : View) (r : Record) :
    (s.save v r).2.archive = v.archive.record r := by
  unfold save
  split
  · rfl
  · dsimp only
    split <;> rfl

/-- Saving takes nothing from what is merged. -/
theorem save_merged (s : Saver) (v : View) (r : Record) : (s.save v r).2.merged = v.merged := by
  unfold save
  split
  · rfl
  · dsimp only
    split <;> rfl

/-- Saving does not finish the saver. -/
theorem save_finished (s : Saver) (v : View) (r : Record) :
    (s.save v r).1.finished = s.finished := by
  unfold save
  split
  · rfl
  · dsimp only
    split <;> rfl

/-- Saving a record writes it, unless a write has failed before. -/
theorem save_written (s : Saver) (v : View) (r : Record) :
    ((s.save v r).1.failure, (s.save v r).2.sink) = v.sink.writeAfter s.failure r := by
  unfold save
  split
  · next error failed =>
      rw [failed]
      rfl
  · next unfailed =>
      rw [unfailed, RecordSink.writeAfter]
      dsimp only
      split
      · next answered =>
          rw [answered, ← unfailed]
      · next answered =>
          rw [answered]

/-- What a saver can do: save the next record, or finish after the last one. -/
inductive Moved (s : Saver) (v : View) : Saver → View → Prop where
  | save {record : Record} {merged : Channel Record} (unfinished : s.finished = false)
      (taken : v.merged.take? = some (record, merged)) :
      Moved s v (s.save { v with merged } (stored record)).1
        (s.save { v with merged } (stored record)).2
  | finish (unfinished : s.finished = false) (nothing : v.merged.take? = none)
      (ended : v.merged.ended = true) :
      Moved s v { s with finished := true } v

/-- Only a saver without a result moves. -/
theorem Moved.running {s next : Saver} {v after : View} (moved : Moved s v next after) :
    s.result? = none := by
  cases moved with
  | save unfinished | finish unfinished => rw [result?, unfinished, if_neg Bool.false_ne_true]

/-- The moves of a saver are those that `Moved` describes. -/
theorem mem_moves_iff {s next : Saver} {v after : View} :
    (next, after) ∈ s.moves v ↔ Moved s v next after := by
  constructor
  · intro member
    unfold moves at member
    split at member
    · cases member
    · next running =>
        have unfinished := Bool.eq_false_iff.mpr running
        split at member
        · next record merged taken =>
            have saved := List.mem_singleton.mp member
            have given := Moved.save unfinished taken
            rwa [← saved] at given
        · next nothing =>
            split at member
            · next ended =>
                cases List.mem_singleton.mp member
                exact .finish unfinished nothing ended
            · cases member
  · intro moved
    cases moved with
    | save unfinished taken =>
        rw [moves, if_neg (Bool.eq_false_iff.mp unfinished), taken]
        exact List.mem_singleton_self _
    | finish unfinished nothing ended =>
        rw [moves, if_neg (Bool.eq_false_iff.mp unfinished), nothing]
        dsimp only
        rw [if_pos ended]
        exact List.mem_singleton_self _

/-- Only a saver that has not finished moves. -/
theorem Moved.unfinished {s next : Saver} {v after : View} (moved : s.Moved v next after) :
    s.finished = false := by
  cases moved with
  | save unfinished | finish unfinished => exact unfinished

/-- A saver has no result exactly as long as it has not finished. -/
theorem result?_eq_none_iff {s : Saver} : s.result? = none ↔ s.finished = false := by
  rw [result?]
  split
  · next finished =>
      rw [finished]
      split <;> exact ⟨nofun, nofun⟩
  · next running => simp only [Bool.eq_false_iff.mpr running]

/-- A saver that has finished returns the first failure. -/
theorem result?_eq_some_iff {s : Saver} {result : Except StoreError Unit} :
    s.result? = some result ↔
      s.finished = true ∧ result = match s.failure with
        | none => .ok ()
        | some error => .error error := by
  rw [result?]
  split
  · next finished =>
      rw [finished]
      split <;> simp only [*, Option.some.injEq, true_and, eq_comm]
  · next running => simp only [running, reduceCtorEq, false_and]

end Saver

end LinkGauge
