import LinkGauge.Proofs.Json.Reading
import LinkGauge.Proofs.Measurement
import LinkGauge.Proofs.Text.Utf8
import LinkGauge.Proofs.TextMap
import LinkGauge.Results.Lines

/-!
# Results are framed by newlines

A value is written as the bytes of its text and a newline behind them, and there is no other
newline. So what a sink was given splits at its newlines into the values that were written
(`ByteSink.splitOn_lines`), and a header with records behind it is read back line by
line, whatever the texts in it are (`ByteSink.lines_framed`).
-/

namespace LinkGauge

open Json

namespace Json

/-- A member that may not be missing. -/
def Field.required {α : Type} (name : String) (read? : Json → Option α) (write : α → Json) :
    Field α where
  name
  read?
  write a := some (write a)
  absent := none
  past := none

/-- A required field is lawful when it reads back every value. -/
theorem Field.lawful_required {α : Type} {name : String} {read? : Json → Option α}
    {write : α → Json} (back : ∀ a, read? (write a) = some a) :
    (required name read? write).Lawful where
  written {a json} written := by
    cases written
    exact back a
  omitted nothing := nomatch nothing

end Json

namespace Record

/-- The members of a record's line. -/
def schema : Schema [Origin, Measurement] :=
  .cons (.required "origin" Origin.ofJson? Origin.toJson) <|
  .cons (.required "measurement" Measurement.ofJson? Measurement.toJson) .nil

/-- Reads a record, which has an origin and a measurement. -/
def ofJson? (value : Json) : Option Record :=
  (schema.read? value).map fun (origin, measurement, ()) => { origin, measurement }

private theorem ofJson?_toJson (r : Record) : ofJson? r.toJson = some r := by
  have lawful : schema.All Field.Lawful :=
    ⟨Field.lawful_required Origin.ofJson?_toJson,
      Field.lawful_required Measurement.ofJson?_toJson, trivial⟩
  have read := Schema.read?_write lawful (by decide) (r.origin, r.measurement, ())
  exact congrArg (Option.map _) read

end Record

namespace ByteSink

/-- The byte at the end of a line. -/
def newline : UInt8 := 10

/-- The bytes of a value's line, without its end. -/
def lineOf (value : Json) : List UInt8 := Text.utf8 value.write

/-- Reads the value of a line. -/
def readLine? (line : List UInt8) : Option Json := parse? (Text.glyphs line)

/-- Writes values, a line each; the answers to the writes in their order, and the sink. -/
def writeLines (s : ByteSink) : List Json → List (Except StoreError Unit) × ByteSink
  | [] => ([], s)
  | value :: rest =>
    let (answer, s) := s.writeLine value
    let (answers, s) := s.writeLines rest
    (answer :: answers, s)

/-- The line of a value has no newline in it. -/
theorem newline_notMem_lineOf (value : Json) : newline ∉ lineOf value := by
  apply Text.newline_notMem_utf8
  rw [Json.write, String.toList_ofList]
  exact newline_notMem_chars value

/-- A value is read back from its line. -/
theorem readLine?_lineOf (value : Json) : readLine? (lineOf value) = some value := by
  rw [readLine?, lineOf, Text.glyphs_utf8]
  exact ofText?_write value

/-- A sink that takes any number of bytes takes what is written. -/
theorem bytes_write {s : ByteSink} (roomless : s.room = none) (bytes : List UInt8) :
    (s.write bytes).2.room = none ∧ (s.write bytes).2.bytes = s.bytes ++ bytes := by
  simp only [write, roomless, ByteSink.bytes, List.reverse_cons, List.flatten_append,
    List.flatten_cons, List.flatten_nil, List.append_nil, and_self]

private theorem writeLine_of_roomless {s : ByteSink} (roomless : s.room = none) (value : Json) :
    s.writeLine value =
      (.ok (), { s with pieces := [newline] :: lineOf value :: s.pieces }) := by
  simp only [writeLine, ByteSink.write, roomless]
  rfl

private theorem bytes_writeLine {s : ByteSink} (roomless : s.room = none) (value : Json) :
    (s.writeLine value).2.room = none ∧
      (s.writeLine value).2.bytes = s.bytes ++ (lineOf value ++ [newline]) := by
  rw [writeLine_of_roomless roomless]
  refine ⟨roomless, ?_⟩
  simp only [bytes, List.reverse_cons, List.append_assoc, List.flatten_append, List.flatten_cons,
    List.flatten_nil, List.cons_append, List.nil_append, List.append_nil]

/-- A sink that takes any number of bytes takes every line with its end. -/
theorem writeLines_of_roomless {s : ByteSink} (roomless : s.room = none) (values : List Json) :
    (s.writeLines values).1 = values.map (fun _ => .ok ()) ∧
      (s.writeLines values).2.bytes =
        s.bytes ++ values.flatMap fun value => lineOf value ++ [newline] := by
  induction values generalizing s with
  | nil => exact ⟨rfl, (List.append_nil _).symm⟩
  | cons value rest ih =>
      obtain ⟨stillRoomless, grown⟩ := bytes_writeLine roomless value
      obtain ⟨answers, written⟩ := ih stillRoomless
      have answer : (s.writeLine value).1 = .ok () := by rw [writeLine_of_roomless roomless]
      refine ⟨?_, ?_⟩
      · exact congrArg₂ (· :: ·) answer answers
      · rw [List.flatMap_cons, ← List.append_assoc, ← grown]
        exact written

/-- Lines are found again between the newlines, and behind the last one what is no line. -/
theorem splitOn_lines_append (values : List Json) {torn : List UInt8} (open_end : newline ∉ torn) :
    ((values.flatMap fun value => lineOf value ++ [newline]) ++ torn).splitOn newline =
      values.map lineOf ++ [torn] := by
  induction values with
  | nil => exact List.splitOn_eq_singleton open_end
  | cons value rest ih =>
      rw [List.flatMap_cons, List.append_assoc, List.append_assoc, List.singleton_append,
        List.splitOn_append_cons_self_of_not_mem (newline_notMem_lineOf value), ih, List.map_cons,
        List.cons_append]

/-- Between the newlines stand the lines. -/
theorem splitOn_lines (values : List Json) :
    (values.flatMap fun value => lineOf value ++ [newline]).splitOn newline =
      values.map lineOf ++ [[]] := by
  rw [← splitOn_lines_append values List.not_mem_nil, List.append_nil]

private theorem count_lines (values : List Json) :
    (values.flatMap fun value => lineOf value ++ [newline]).count newline = values.length := by
  induction values with
  | nil => rfl
  | cons value rest ih =>
      have inside : (lineOf value).count newline = 0 :=
        List.count_eq_zero.mpr (newline_notMem_lineOf value)
      rw [List.flatMap_cons, List.count_append, List.count_append, inside, ih,
        List.count_singleton_self, List.length_cons]
      omega

private theorem getLast?_lines {values : List Json} (some_written : values ≠ []) :
    (values.flatMap fun value => lineOf value ++ [newline]).getLast? = some newline := by
  obtain ⟨early, last, rfl⟩ := List.eq_nil_or_concat values |>.resolve_left some_written
  rw [List.concat_eq_append, List.flatMap_append, List.flatMap_singleton, ← List.append_assoc,
    List.getLast?_concat]

/-- **Results are framed by newlines.** A header and the records behind it are all written. There
is one newline for each of them and one is the last byte. Between the newlines stand a line that
is read as this header and then lines that are read as these records, in their order. -/
theorem lines_framed (header : TextMap) (records : List Record) :
    ∃ sink first lines,
      writeLines {} (Archive.mapToJson header :: records.map Record.toJson) =
        (.ok () :: records.map (fun _ => .ok ()), sink) ∧
      sink.bytes.count newline = 1 + records.length ∧
      sink.bytes.getLast? = some newline ∧
      sink.bytes.splitOn newline = first :: lines ++ [[]] ∧
      (readLine? first).bind Archive.mapOfJson? = some header ∧
      lines.map (fun line => (readLine? line).bind Record.ofJson?) = records.map some := by
  obtain ⟨answers, written⟩ := writeLines_of_roomless (s := {}) rfl
    (Archive.mapToJson header :: records.map Record.toJson)
  have start : bytes {} = [] := rfl
  rw [start, List.nil_append] at written
  refine ⟨_, lineOf (Archive.mapToJson header), records.map (fun r => lineOf r.toJson),
    Prod.ext ?_ rfl, ?_, ?_, ?_, ?_, ?_⟩
  · rw [answers, List.map_cons, List.map_map]
    rfl
  · rw [written, count_lines, List.length_cons, List.length_map, Nat.add_comm]
  · rw [written]
    exact getLast?_lines (List.cons_ne_nil _ _)
  · rw [written, splitOn_lines, List.map_cons, List.map_map]
    rfl
  · rw [readLine?_lineOf, Option.bind_some, Archive.mapOfJson?_mapToJson]
  · rw [List.map_map]
    apply List.map_congr_left
    intro r _
    rw [Function.comp_apply, readLine?_lineOf, Option.bind_some, Record.ofJson?_toJson]

end ByteSink

end LinkGauge
