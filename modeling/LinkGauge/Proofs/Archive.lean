import LinkGauge.Proofs.Measurement
import LinkGauge.Proofs.Results.Framing
import LinkGauge.Proofs.UtcTime

/-!
# Archives are read back

An archive is read back from its text as it was, with its times to the nanosecond, its
measurements in their order and its maps. Only a leap second inside a minute comes back as the
second after it, which is what it shows. A time that is absent is written as `null`, and a map
without entries is left out and read again as a map without entries
(`Archive.restored_from_text`).
-/

namespace LinkGauge.Archive

open Json

/-- What stands in an archive's object for a time. -/
def timeToJson : Option UtcTime → Json
  | some t => .text t.toText
  | none => .null

private theorem lawful_uuidField : uuidField.Lawful := Field.lawful_required fun _ => rfl

private theorem restores_timeField (name : String) {time : Option UtcTime}
    (regular : ∀ t ∈ time, t.Regular) : (timeField name).Restores time where
  written {json} written := by
    cases time with
    | none =>
        cases written
        rfl
    | some t =>
        cases written
        simp only [timeField, optional?, Json.text, text?, Option.bind_eq_bind, Option.bind_some,
          UtcTime.ofText?_of_regular (regular t rfl), Option.map_some]
  omitted nothing := by
    cases time <;> exact nomatch nothing

private theorem list?_map {α : Type} {read? : Json → Option α} {write : α → Json}
    (back : ∀ a, read? (write a) = some a) (items : List α) :
    list? read? (.array (items.map write)) = some items := by
  rw [list?]
  induction items with
  | nil => rfl
  | cons item rest ih =>
      rw [List.map_cons, List.mapM_cons, back, ih]
      rfl

private theorem lawful_measurementsField (name : String) : (measurementsField name).Lawful where
  written {a json} written := by
    cases written
    exact list?_map Measurement.ofJson?_toJson a
  omitted nothing := nomatch nothing

private theorem lawful_mapField (name : String) : (mapField name).Lawful where
  written {a json} written := by
    by_cases empty : a.isEmpty = true
    · have nothing : (mapField name).write a = none := if_pos empty
      rw [nothing] at written
      exact nomatch written
    · have object : (mapField name).write a = some (mapToJson a) := if_neg empty
      rw [object] at written
      cases written
      exact mapOfJson?_mapToJson a
  omitted {a} nothing := by
    by_cases empty : a.isEmpty = true
    · have same : {} = a := TextMap.ext (List.isEmpty_iff.mp empty).symm
      exact congrArg some same
    · have object : (mapField name).write a = some (mapToJson a) := if_neg empty
      rw [object] at nothing
      exact nomatch nothing

private theorem ofText?_of_regular {a : Archive} (begins : ∀ t ∈ a.startTime, t.Regular)
    (ends : ∀ t ∈ a.endTime, t.Regular) : Archive.ofText? a.toText = some a := by
  have restores : schema.Restores a.toRow :=
    ⟨lawful_uuidField.restores _, restores_timeField _ begins,
      restores_timeField _ ends, (lawful_measurementsField _).restores _,
      (lawful_measurementsField _).restores _, (lawful_mapField _).restores _,
      (lawful_mapField _).restores _, trivial⟩
  have read := Schema.read?_write_of_restores (by decide) restores
  rw [ofText?, toText, Json.ofText?_write]
  exact congrArg (Option.map ofRow) read

/-- The archive with the moments that its times show. -/
def shown (a : Archive) : Archive :=
  { a with startTime := a.startTime.map UtcTime.shown, endTime := a.endTime.map UtcTime.shown }

private theorem regular_of_mem_shown {time : Option UtcTime} :
    ∀ t ∈ time.map UtcTime.shown, t.Regular := by
  intro t found
  obtain ⟨moment, -, rfl⟩ := Option.map_eq_some_iff.mp found
  exact moment.regular_shown

private theorem map_shown_eq_self_iff {time : Option UtcTime} :
    time.map UtcTime.shown = time ↔ ∀ t ∈ time, t.Regular := by
  cases time with
  | none => exact ⟨fun _ _ found => absurd found (Option.not_mem_none _), fun _ => rfl⟩
  | some t =>
      rw [Option.map_some, Option.some_inj, UtcTime.shown_eq_self_iff]
      exact ⟨fun regular moment found => Option.some.inj found ▸ regular, fun all => all t rfl⟩

private theorem shown_eq_self_iff {a : Archive} :
    a.shown = a ↔ (∀ t ∈ a.startTime, t.Regular) ∧ ∀ t ∈ a.endTime, t.Regular := by
  rw [← map_shown_eq_self_iff, ← map_shown_eq_self_iff]
  constructor
  · intro same
    exact ⟨congrArg startTime same, congrArg endTime same⟩
  · rintro ⟨begins, ends⟩
    rw [shown, begins, ends]

private theorem write_timeField_shown (name : String) (time : Option UtcTime) :
    (timeField name).write (time.map UtcTime.shown) = (timeField name).write time := by
  cases time with
  | none => rfl
  | some t => exact congrArg (some ∘ Json.text) t.toText_shown

/-- The text does not tell whether a time is the moment that it shows. -/
theorem toText_shown (a : Archive) : a.shown.toText = a.toText := by
  have begins := write_timeField_shown "StartTime" a.startTime
  have ends := write_timeField_shown "EndTime" a.endTime
  have same : schema.members a.shown.toRow = schema.members a.toRow := by
    simp only [schema, toRow, shown, Schema.members, begins, ends]
  rw [toText, toText, toJson, toJson, Schema.write, Schema.write, same]

/-- From its text an archive is read back with the moments that its times show. -/
theorem ofText?_toText (a : Archive) : Archive.ofText? a.toText = some a.shown := by
  rw [← a.toText_shown]
  exact ofText?_of_regular regular_of_mem_shown regular_of_mem_shown

/-- The names of the members, and whether they are written. -/
def parts (a : Archive) : List (String × Bool) :=
  [("UUID", true), ("StartTime", true), ("EndTime", true), ("ServerMeasurements", true),
    ("ClientMeasurements", true), ("ClientMetadata", !a.clientMetadata.isEmpty),
    ("ServerMetadata", !a.serverMetadata.isEmpty)]

private theorem written_mapField {name : String} (m : TextMap) :
    ((mapField name).write m).isSome = !m.isEmpty := by
  simp only [mapField]
  cases m.isEmpty <;> rfl

private theorem written_toRow (a : Archive) :
    schema.written a.toRow = (a.parts.filter (·.2)).map (·.1) := by
  simp only [schema, toRow, Schema.written, parts, Measurement.present_cons, written_mapField,
    List.filter_nil, List.map_nil]
  rfl

private theorem named_startTime (a : Archive) :
    Members.named (schema.members a.toRow) "StartTime" = [timeToJson a.startTime] :=
  (Schema.named_members_of_ne (by decide) _ _).trans (Schema.named_members_self (by decide) _ _)

private theorem named_endTime (a : Archive) :
    Members.named (schema.members a.toRow) "EndTime" = [timeToJson a.endTime] :=
  (Schema.named_members_of_ne (by decide) _ _).trans <|
    (Schema.named_members_of_ne (by decide) _ _).trans (Schema.named_members_self (by decide) _ _)

/-- **Archives are read back.** The text of an archive is read as an archive that differs from it
in no part but its times, which are read as the moments that they show. So it is read as the
archive that was written if and only if its times are absent or regular, and the archives that
have this text are those that show the same. It is the text of an object that leaves out exactly
the maps without entries. A time is written as `null` if and only if it is absent, and otherwise
as a text whose fraction has the fewest of no, three, six and nine digits that give it exactly;
it is read as this time unless that has a leap second inside a minute. -/
theorem restored_from_text (a : Archive) :
    Archive.ofText? a.toText =
        some { a with
          startTime := a.startTime.map UtcTime.shown, endTime := a.endTime.map UtcTime.shown } ∧
      (Archive.ofText? a.toText = some a ↔
        (∀ t ∈ a.startTime, t.Regular) ∧ ∀ t ∈ a.endTime, t.Regular) ∧
      (∀ other : Archive, other.toText = a.toText ↔ other.shown = a.shown) ∧
      (∃ members, Json.ofText? a.toText = some (.object members) ∧
        members.map (·.1) = (a.parts.filter (·.2)).map (some ·.1) ∧
        Members.named members "StartTime" = [timeToJson a.startTime] ∧
        Members.named members "EndTime" = [timeToJson a.endTime]) ∧
      ∀ t : UtcTime, UtcTime.ofText? t.toText = some t.shown ∧ (t.shown = t ↔ t.Regular) ∧
        '.' ∉ t.toSecond ∧
        ∃ digits, t.toText.toList = t.toSecond ++ UtcTime.pointed digits ++ ['Z'] ∧
          (∀ c ∈ digits, c.isDigit = true) ∧
          UtcTime.ShortestExact t.fraction digits.length := by
  refine ⟨ofText?_toText a, ?_, fun other => ⟨fun same => ?_, fun same => ?_⟩,
    ⟨schema.members a.toRow, Json.ofText?_write _, ?_, named_startTime a, named_endTime a⟩,
    fun t => ⟨t.ofText?_toText, t.shown_eq_self_iff, t.toText_shortest⟩⟩
  · rw [ofText?_toText, Option.some_inj]
    exact shown_eq_self_iff
  · have read := ofText?_toText other
    rw [same, ofText?_toText a] at read
    exact (Option.some.inj read).symm
  · rw [← other.toText_shown, same, toText_shown]
  · rw [Schema.keys_members, written_toRow, List.map_map]
    rfl

/-- The archive of a test that began at a moment. -/
def begun (t : UtcTime) : Archive := { uuid := "", startTime := some t }

/-- A leap second inside a minute is not read back: it comes back as the second after it. -/
theorem insideMinute_not_restored :
    Archive.ofText? (begun .insideMinute).toText = some (begun .afterwards) ∧
      Archive.ofText? (begun .insideMinute).toText ≠ some (begun .insideMinute) := by
  have read : Archive.ofText? (begun .insideMinute).toText = some (begun .afterwards) := by
    rw [ofText?_toText, shown, begun, Option.map_some, UtcTime.shown_insideMinute]
    rfl
  refine ⟨read, fun same => ?_⟩
  have moments := congrArg startTime (Option.some.inj (read.symm.trans same))
  exact absurd (Option.some.inj moments) (by decide)

end LinkGauge.Archive
