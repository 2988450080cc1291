import LinkGauge.Proofs.Results.Framing

/-!
# Lines in a sink that fills up

A sink with room for a number of bytes holds the first ones of everything that it was given
(`ByteSink.Holds`), however what it is given is divided into writes. So a line is refused exactly
when it does not end within the room, a refusal tells whether only the newline was too much, and
what is held is whole lines and the beginning of one more (`ByteSink.lines_cut_off`).
-/

namespace LinkGauge.ByteSink

/-- The bytes of values, a line each. -/
def linesOf (values : List Json) : List UInt8 :=
  values.flatMap fun value => lineOf value ++ [newline]

private theorem linesOf_cons (value : Json) (rest : List Json) :
    linesOf (value :: rest) = lineOf value ++ [newline] ++ linesOf rest :=
  List.flatMap_cons

/-- The lines of two lists of values stand one behind the other. -/
theorem linesOf_append (first second : List Json) :
    linesOf (first ++ second) = linesOf first ++ linesOf second :=
  List.flatMap_append

private theorem length_linesOf_cons (value : Json) (rest : List Json) :
    (linesOf (value :: rest)).length = (lineOf value).length + 1 + (linesOf rest).length := by
  rw [linesOf_cons, List.length_append, List.length_append, List.length_singleton]

private theorem length_linesOf_take {values : List Json} {i : Nat} {value : Json}
    (there : values[i]? = some value) :
    (linesOf (values.take (i + 1))).length =
      (linesOf (values.take i)).length + (lineOf value).length + 1 := by
  rw [List.take_add_one, there, Option.toList_some, linesOf_append, List.length_append,
    length_linesOf_cons, Nat.add_assoc]
  rfl

private theorem lineOf_ne_nil (value : Json) : lineOf value ≠ [] := by
  intro empty
  have read := readLine?_lineOf value
  rw [empty] at read
  exact nomatch read

/-! ### What a sink holds -/

/-- A sink with room for a number of bytes holds the first ones of what it was given. -/
structure Holds (room : Nat) (refusal : String) (given : List UInt8) (s : ByteSink) : Prop where
  bytes : s.bytes = given.take room
  room : s.room = some (room - given.length)
  refusal : s.refusal = refusal

variable {room : Nat} {refusal : String} {given : List UInt8} {s : ByteSink}

namespace Holds

private theorem start : Holds room refusal [] { room := some room, refusal } where
  bytes := (List.take_nil).symm
  room := rfl
  refusal := rfl

private theorem beyond (holds : Holds room refusal given s) (full : room ≤ given.length)
    (more : List UInt8) : Holds room refusal (given ++ more) s where
  bytes := by rw [holds.bytes, List.take_append_of_le_length full]
  room := by
    rw [holds.room, List.length_append, Nat.sub_eq_zero_of_le full,
      Nat.sub_eq_zero_of_le (Nat.le_add_right_of_le full)]
  refusal := holds.refusal

private theorem write (holds : Holds room refusal given s) (bytes : List UInt8) :
    Holds room refusal (given ++ bytes) (s.write bytes).2 := by
  have written : s.write bytes = (decide (bytes.length ≤ room - given.length),
      { s with
        room := some (room - given.length - bytes.length)
        pieces := bytes.take (room - given.length) :: s.pieces }) := by
    rw [ByteSink.write, holds.room]
  rw [written]
  refine ⟨?_, ?_, holds.refusal⟩
  · rw [List.take_append, ← holds.bytes]
    simp only [ByteSink.bytes, List.reverse_cons, List.flatten_append, List.flatten_cons,
      List.flatten_nil, List.append_nil]
  · rw [List.length_append, Nat.sub_add_eq]

private theorem write_eq (holds : Holds room refusal given s) (bytes : List UInt8) :
    (s.write bytes).1 = decide (bytes.length ≤ room - given.length) := by
  rw [ByteSink.write, holds.room]

end Holds

/-! ### Writing in pieces -/

/-- A way to divide the text of every value into the pieces in which it is written. -/
structure Division where
  pieces : Json → List (List UInt8)
  whole (value : Json) : (pieces value).flatten = lineOf value

/-- The text of a value as one piece. -/
def Division.one : Division where
  pieces value := [lineOf value]
  whole _ := List.flatten_singleton

/-- Writes pieces one after another until one is refused. -/
def writePieces (s : ByteSink) : List (List UInt8) → Bool × ByteSink
  | [] => (true, s)
  | piece :: rest =>
    match s.write piece with
    | (false, s) => (false, s)
    | (true, s) => s.writePieces rest

/-- Writes a value piece by piece, and the end of its line. -/
def writeLineIn (d : Division) (s : ByteSink) (value : Json) :
    Except StoreError Unit × ByteSink :=
  match s.writePieces (d.pieces value) with
  | (false, s) => (.error (.encoding s.refusal), s)
  | (true, s) =>
    match s.write [newline] with
    | (false, s) => (.error (.io (.other s.refusal)), s)
    | (true, s) => (.ok (), s)

/-- Writes values piece by piece, a line each. -/
def writeLinesIn (d : Division) (s : ByteSink) :
    List Json → List (Except StoreError Unit) × ByteSink
  | [] => ([], s)
  | value :: rest =>
    let (answer, s) := s.writeLineIn d value
    let (answers, s) := s.writeLinesIn d rest
    (answer :: answers, s)

private theorem writeLine_eq (s : ByteSink) (value : Json) :
    s.writeLine value = s.writeLineIn .one value := by
  have one : s.writePieces [lineOf value] = s.write (lineOf value) := by
    rw [writePieces]
    rcases s.write (lineOf value) with ⟨_ | _, _⟩ <;> rfl
  rw [writeLineIn, Division.one, one]
  rfl

private theorem writeLines_eq (s : ByteSink) (values : List Json) :
    s.writeLines values = s.writeLinesIn .one values := by
  induction values generalizing s with
  | nil => rfl
  | cons value rest ih => simp only [writeLines, writeLinesIn, writeLine_eq, ih]

private theorem length_writeLines (s : ByteSink) (values : List Json) :
    (s.writeLines values).1.length = values.length := by
  induction values generalizing s with
  | nil => rfl
  | cons value rest ih => exact congrArg Nat.succ (ih _)

private theorem Holds.writePieces (holds : Holds room refusal given s) (pieces : List (List UInt8))
    (asks : given.length ≤ room ∨ pieces.flatten ≠ []) :
    Holds room refusal (given ++ pieces.flatten) (s.writePieces pieces).2 ∧
      ((s.writePieces pieces).1 = true ↔ (given ++ pieces.flatten).length ≤ room) := by
  induction pieces generalizing given s with
  | nil =>
      have fits : given.length ≤ room := asks.resolve_right fun some_piece => some_piece rfl
      rw [List.flatten_nil, List.append_nil]
      exact ⟨holds, iff_of_true rfl fits⟩
  | cons piece rest ih =>
      have taken := holds.write_eq piece
      have after := holds.write piece
      have joined : given ++ (piece :: rest).flatten = given ++ piece ++ rest.flatten := by
        rw [List.flatten_cons, List.append_assoc]
      rw [joined, ByteSink.writePieces]
      rcases written : s.write piece with ⟨_ | _, next⟩
      · rw [written] at taken after
        have exceeds : room < (given ++ piece).length := by
          have tooLong := of_decide_eq_false taken.symm
          rw [List.length_append]
          omega
        refine ⟨after.beyond (Nat.le_of_lt exceeds) rest.flatten, iff_of_false nofun ?_⟩
        rw [List.length_append]
        omega
      · rw [written] at taken after
        have short := of_decide_eq_true taken.symm
        refine ih after ?_
        rcases asks with fits | some_byte
        · left
          rw [List.length_append]
          omega
        · by_cases fits : given.length ≤ room
          · left
            rw [List.length_append]
            omega
          · right
            have empty : piece = [] := List.eq_nil_of_length_eq_zero (by omega)
            rwa [empty, List.flatten_cons, List.nil_append] at some_byte

/-- What the write of a line is answered whose value would reach so far. -/
def answerWithin (room : Nat) (refusal : String) (reach : Nat) : Except StoreError Unit :=
  if reach < room then .ok ()
  else if reach = room then .error (.io (.other refusal))
  else .error (.encoding refusal)

private theorem Holds.writeLineIn (holds : Holds room refusal given s) (d : Division)
    (value : Json) :
    Holds room refusal (given ++ (lineOf value ++ [newline])) (s.writeLineIn d value).2 ∧
      (s.writeLineIn d value).1 =
        answerWithin room refusal (given.length + (lineOf value).length) := by
  have some_byte : (d.pieces value).flatten ≠ [] := d.whole value ▸ lineOf_ne_nil value
  obtain ⟨after, fits⟩ := holds.writePieces (d.pieces value) (.inr some_byte)
  rw [d.whole, List.length_append] at fits
  rw [d.whole] at after
  rw [← List.append_assoc, ByteSink.writeLineIn, answerWithin]
  rcases written : s.writePieces (d.pieces value) with ⟨_ | _, next⟩
  · rw [written] at fits after
    have exceeds : room < given.length + (lineOf value).length :=
      Nat.lt_of_not_le fun within => Bool.false_ne_true (fits.mpr within)
    have full : room ≤ (given ++ lineOf value).length := by
      rw [List.length_append]
      exact Nat.le_of_lt exceeds
    refine ⟨after.beyond full [newline], ?_⟩
    rw [if_neg (Nat.lt_asymm exceeds), if_neg (Nat.ne_of_gt exceeds)]
    exact congrArg (fun text => Except.error (StoreError.encoding text)) after.refusal
  · rw [written] at fits after
    have within : given.length + (lineOf value).length ≤ room := fits.mp rfl
    have taken := after.write_eq [newline]
    have ended := after.write [newline]
    rw [List.length_append, List.length_singleton] at taken
    dsimp only at taken ended ⊢
    rcases wrote : next.write [newline] with ⟨_ | _, last⟩
    · rw [wrote] at taken ended
      have tooLong := of_decide_eq_false taken.symm
      refine ⟨ended, ?_⟩
      rw [if_neg (by omega), if_pos (by omega)]
      exact congrArg (fun text => Except.error (StoreError.io (.other text))) ended.refusal
    · rw [wrote] at taken ended
      have short := of_decide_eq_true taken.symm
      refine ⟨ended, ?_⟩
      rw [if_pos (by omega)]

private theorem Holds.writeLinesIn (holds : Holds room refusal given s) (d : Division)
    (values : List Json) :
    Holds room refusal (given ++ linesOf values) (s.writeLinesIn d values).2 ∧
      ∀ i, (s.writeLinesIn d values).1[i]? = values[i]?.map fun value =>
        answerWithin room refusal
          (given.length + (linesOf (values.take i)).length + (lineOf value).length) := by
  induction values generalizing given s with
  | nil =>
      refine ⟨?_, fun i => rfl⟩
      have nothing : given ++ linesOf [] = given := List.append_nil given
      rw [nothing]
      exact holds
  | cons value rest ih =>
      obtain ⟨after, answer⟩ := holds.writeLineIn d value
      obtain ⟨later, answers⟩ := ih after
      rw [linesOf_cons, ← List.append_assoc]
      refine ⟨later, fun i => ?_⟩
      cases i with
      | zero => exact congrArg some answer
      | succ i =>
          refine (answers i).trans ?_
          have further : (given ++ (lineOf value ++ [newline])).length +
              (linesOf (rest.take i)).length =
                given.length + (linesOf ((value :: rest).take (i + 1))).length := by
            rw [List.take_succ_cons, length_linesOf_cons, List.length_append, List.length_append,
              List.length_singleton]
            omega
          rw [further]
          rfl

/-! ### Whole lines -/

/-- The first bytes of lines are whole lines and the beginning of one more. -/
theorem exists_take_linesOf (values : List Json) (room : Nat) :
    ∃ count torn, count ≤ values.length ∧
      (linesOf values).take room = linesOf (values.take count) ++ torn ∧ newline ∉ torn ∧
      ∀ i < values.length, (linesOf (values.take (i + 1))).length ≤ room ↔ i < count := by
  induction values generalizing room with
  | nil => exact ⟨0, [], Nat.le_refl 0, List.take_nil, List.not_mem_nil, nofun⟩
  | cons value rest ih =>
      by_cases fits : (lineOf value).length + 1 ≤ room
      · obtain ⟨count, torn, few, first, open_end, whole⟩ :=
          ih (room - ((lineOf value).length + 1))
        refine ⟨count + 1, torn, Nat.succ_le_succ few, ?_, open_end, fun i inside => ?_⟩
        · have line : (lineOf value ++ [newline]).length = (lineOf value).length + 1 := by
            rw [List.length_append, List.length_singleton]
          rw [linesOf_cons, List.take_append, List.take_of_length_le (line ▸ fits), line, first,
            List.take_succ_cons, linesOf_cons, ← List.append_assoc]
        · cases i with
          | zero =>
              rw [List.take_succ_cons, length_linesOf_cons]
              exact iff_of_true fits (Nat.succ_pos count)
          | succ i =>
              rw [List.take_succ_cons, length_linesOf_cons, Nat.succ_lt_succ_iff,
                ← whole i (Nat.lt_of_succ_lt_succ inside)]
              omega
      · refine ⟨0, (lineOf value).take room, Nat.zero_le _, ?_, ?_, fun i _ => ?_⟩
        · rw [linesOf_cons, List.append_assoc, List.take_append_of_le_length (by omega)]
          rfl
        · exact fun member => newline_notMem_lineOf value (List.mem_of_mem_take member)
        · rw [List.take_succ_cons, length_linesOf_cons]
          exact iff_of_false (by omega) (Nat.not_lt_zero i)

section Start

variable (room : Nat) (refusal : String) (values : List Json)

private theorem bytes_writeLines :
    (writeLines { room := some room, refusal } values).2.bytes = (linesOf values).take room := by
  rw [writeLines_eq]
  exact (Holds.start.writeLinesIn .one values).1.bytes

variable {values} {i : Nat} (inside : i < values.length)
include inside

private theorem answer_writeLines :
    (writeLines { room := some room, refusal } values).1[i]? = some (answerWithin room refusal
      ((linesOf (values.take i)).length + (lineOf values[i]).length)) := by
  rw [writeLines_eq, (Holds.start.writeLinesIn .one values).2, List.getElem?_eq_getElem inside,
    Option.map_some, List.length_nil, Nat.zero_add]

/-- A line is written exactly when it ends within the room. -/
theorem writeLines_eq_ok_iff :
    (writeLines { room := some room, refusal } values).1[i]? = some (.ok ()) ↔
      (linesOf (values.take (i + 1))).length ≤ room := by
  rw [answer_writeLines room refusal inside, answerWithin,
    length_linesOf_take (List.getElem?_eq_getElem inside)]
  split
  · exact iff_of_true rfl (by omega)
  · split <;> exact iff_of_false nofun (by omega)

/-- A line that is refused tells whether only its newline was too much. -/
theorem answer_of_refused (refused : room < (linesOf (values.take (i + 1))).length) :
    (writeLines { room := some room, refusal } values).1[i]? = some (.error (
      if (linesOf (values.take (i + 1))).length = room + 1 then .io (.other refusal)
      else .encoding refusal)) := by
  have line := length_linesOf_take (List.getElem?_eq_getElem inside)
  rw [answer_writeLines room refusal inside, answerWithin, if_neg (by omega)]
  by_cases newlineOnly : (linesOf (values.take (i + 1))).length = room + 1
  · rw [if_pos newlineOnly, if_pos (by omega)]
  · rw [if_neg newlineOnly, if_neg (by omega)]

private theorem later_refusal (before : room < (linesOf (values.take i)).length) :
    (writeLines { room := some room, refusal } values).1[i]? =
        some (.error (.encoding refusal)) ∧
      (writeLines { room := some room, refusal } (values.take i)).2.bytes =
        (writeLines { room := some room, refusal } values).2.bytes := by
  refine ⟨?_, ?_⟩
  · rw [answer_writeLines room refusal inside, answerWithin, if_neg (by omega), if_neg (by omega)]
  · have split : linesOf values = linesOf (values.take i) ++ linesOf (values.drop i) := by
      rw [← linesOf_append, List.take_append_drop]
    rw [bytes_writeLines, bytes_writeLines, split,
      List.take_append_of_le_length (Nat.le_of_lt before)]

end Start

/-- **Lines in a sink that fills up.** A sink holds the first bytes of the lines that were written
to it, as many as there was room for. A line is written exactly when it ends within the room. The
first line that is refused is refused with an input/output error when all but its newline fits,
and with an encoding error otherwise. Every later one is refused with an encoding error and leaves
the sink as it was. So the newlines in the sink end the lines that were written, whole and in
their order. None of this depends on the pieces in which values are written. -/
theorem lines_cut_off (room : Nat) (refusal : String) (values : List Json) :
    ∃ answers sink, writeLines { room := some room, refusal } values = (answers, sink) ∧
      sink.bytes = (linesOf values).take room ∧
      answers.length = values.length ∧
      (∀ i < values.length,
        (answers[i]? = some (.ok ()) ↔ (linesOf (values.take (i + 1))).length ≤ room) ∧
        ((linesOf (values.take i)).length ≤ room → room < (linesOf (values.take (i + 1))).length →
          answers[i]? = some (.error (
            if (linesOf (values.take (i + 1))).length = room + 1 then .io (.other refusal)
            else .encoding refusal))) ∧
        (room < (linesOf (values.take i)).length →
          answers[i]? = some (.error (.encoding refusal)) ∧
          (writeLines { room := some room, refusal } (values.take i)).2.bytes = sink.bytes)) ∧
      (∃ written torn, written <+: values ∧
        (∀ i < values.length, answers[i]? = some (.ok ()) ↔ i < written.length) ∧
        sink.bytes.splitOn newline = written.map lineOf ++ [torn] ∧
        ∀ value ∈ written, readLine? (lineOf value) = some value) ∧
      ∀ d : Division, (writeLinesIn d { room := some room, refusal } values).1 = answers ∧
        (writeLinesIn d { room := some room, refusal } values).2.bytes = sink.bytes := by
  refine ⟨_, _, rfl, bytes_writeLines room refusal values, length_writeLines _ values,
    fun i inside => ⟨writeLines_eq_ok_iff room refusal inside,
      fun _ => answer_of_refused room refusal inside, later_refusal room refusal inside⟩,
    ?_, fun d => ?_⟩
  · obtain ⟨count, torn, few, first, open_end, whole⟩ := exists_take_linesOf values room
    refine ⟨values.take count, torn, List.take_prefix _ _, fun i inside => ?_, ?_, ?_⟩
    · rw [writeLines_eq_ok_iff room refusal inside, whole i inside, List.length_take_of_le few]
    · rw [bytes_writeLines, first]
      exact splitOn_lines_append _ open_end
    · exact fun value _ => readLine?_lineOf value
  · have start : Holds room refusal [] { room := some room, refusal } := .start
    obtain ⟨divided, same⟩ := start.writeLinesIn d values
    refine ⟨List.ext_getElem? fun i => ?_, ?_⟩
    · rw [writeLines_eq, same, (start.writeLinesIn .one values).2]
    · rw [bytes_writeLines]
      exact divided.bytes

example : (writeLines { room := some 3 } [.int 1, .int 2, .int 3]).1 =
    [.ok (), .error (.io (.other "disk full")), .error (.encoding "disk full")] := by cbv

end LinkGauge.ByteSink
