import LinkGauge.Measurement.Basic
import LinkGauge.Proofs.Json.Reading
import LinkGauge.Proofs.Json.Record
import LinkGauge.Proofs.Json.Spelled

/-!
# Measurements are read back

Every measurement is read back from its text as it was, with any of its parts and any counters
and texts in them. The text has a member for exactly the parts that are present and no `null`, so
a part that was not measured is not mistaken for one that is zero, and different measurements
have different texts (`Measurement.text_roundTrip`).
-/

namespace LinkGauge

open Json

private theorem AppInfo.explicit_schema : AppInfo.schema.All Field.Explicit :=
  ⟨Field.explicit_counter _, Field.explicit_counter _, trivial⟩

private theorem AppInfo.ofJson?_toJson (a : AppInfo) : AppInfo.ofJson? a.toJson = some a :=
  Schema.map_read?_write _ explicit_schema (by decide) _

private theorem Identity.explicit_schema : Identity.schema.All Field.Explicit :=
  ⟨Field.explicit_text _, Field.explicit_text _, Field.explicit_text _, trivial⟩

private theorem Identity.ofJson?_toJson (i : Identity) : Identity.ofJson? i.toJson = some i :=
  Schema.map_read?_write _ explicit_schema (by decide) _

private theorem Congestion.explicit_schema : Congestion.schema.All Field.Explicit :=
  ⟨Field.explicit_counter _, Field.explicit_counter _, Field.explicit_counter _, trivial⟩

private theorem Congestion.ofJson?_toJson (c : Congestion) : Congestion.ofJson? c.toJson = some c :=
  Schema.map_read?_write _ explicit_schema (by decide) _

private theorem RttSample.explicit_schema : RttSample.schema.All Field.Explicit :=
  ⟨Field.explicit_counter _, Field.explicit_counter _, Field.explicit_counter _, trivial⟩

private theorem RttSample.ofJson?_toJson (r : RttSample) : RttSample.ofJson? r.toJson = some r :=
  Schema.map_read?_write _ explicit_schema (by decide) _

private theorem TcpStats.explicit_schema : TcpStats.schema.All Field.Explicit := by
  simp only [schema, Schema.All, Field.explicit_counter, and_self]

private theorem TcpStats.ofJson?_toJson (s : TcpStats) : TcpStats.ofJson? s.toJson = some s :=
  Schema.map_read?_write _ explicit_schema (by decide +kernel) _

/-- An origin is read back from its name. -/
theorem Origin.ofJson?_toJson (origin : Origin) : Origin.ofJson? origin.toJson = some origin := by
  cases origin <;> rfl

private theorem Subtest.ofJson?_toJson (subtest : Subtest) :
    Subtest.ofJson? subtest.toJson = some subtest := by
  cases subtest <;> rfl

namespace Measurement

private theorem explicit_schema : Measurement.schema.All Field.Explicit :=
  ⟨Field.explicit_optional AppInfo.ofJson?_toJson
      fun _ => Schema.nullFree_write AppInfo.explicit_schema _,
    Field.explicit_optional Identity.ofJson?_toJson
      fun _ => Schema.nullFree_write Identity.explicit_schema _,
    Field.explicit_optional Congestion.ofJson?_toJson
      fun _ => Schema.nullFree_write Congestion.explicit_schema _,
    Field.explicit_optional TcpStats.ofJson?_toJson
      fun _ => Schema.nullFree_write TcpStats.explicit_schema _,
    Field.explicit_optional RttSample.ofJson?_toJson
      fun _ => Schema.nullFree_write RttSample.explicit_schema _,
    Field.explicit_optional Origin.ofJson?_toJson fun _ => .string _,
    Field.explicit_optional Subtest.ofJson?_toJson fun _ => .string _, trivial⟩

/-- A measurement is read back from its value. -/
theorem ofJson?_toJson (m : Measurement) : Measurement.ofJson? m.toJson = some m :=
  Schema.map_read?_write _ explicit_schema (by decide) _

private theorem ofText?_toText (m : Measurement) : Measurement.ofText? m.toText = some m := by
  rw [ofText?, toText, Json.ofText?_write]
  exact ofJson?_toJson m

/-- The names under which the parts are written, and whether they are present. -/
def parts (m : Measurement) : List (String × Bool) :=
  [("AppInfo", m.appInfo.isSome), ("ConnectionInfo", m.identity.isSome),
    ("BBRInfo", m.congestion.isSome), ("TCPInfo", m.tcpStats.isSome),
    ("WSPingInfo", m.rtt.isSome), ("Origin", m.origin.isSome), ("Test", m.test.isSome)]

/-- The names that are present, one after another. -/
theorem present_cons (name : String) (present : Bool) (rest : List (String × Bool)) :
    (((name, present) :: rest).filter (·.2)).map (·.1) =
      if present then name :: (rest.filter (·.2)).map (·.1) else (rest.filter (·.2)).map (·.1) := by
  cases present <;> rfl

private theorem written_toRow (m : Measurement) :
    schema.written m.toRow = (m.parts.filter (·.2)).map (·.1) := by
  simp only [schema, toRow, Schema.written, parts, present_cons, Field.optional, Option.isSome_map,
    List.filter_nil, List.map_nil]

/-- **Measurements are read back.** The text of a measurement is that of an object with a member
for exactly the parts that are present and without any `null`. It is read as the measurement that
was written, which is the only one with this text. -/
theorem text_roundTrip (m : Measurement) :
    Measurement.ofText? m.toText = some m ∧
      (∃ members, Json.ofText? m.toText = some (.object members) ∧
        members.map (·.1) = (m.parts.filter (·.2)).map (some ·.1) ∧
        NullFree (.object members)) ∧
      ∀ other : Measurement, other.toText = m.toText → other = m := by
  refine ⟨ofText?_toText m, ⟨schema.members m.toRow, Json.ofText?_write _, ?_, ?_⟩, ?_⟩
  · rw [Schema.keys_members, written_toRow, List.map_map]
    rfl
  · exact Schema.nullFree_write explicit_schema m.toRow
  · intro other same
    have read := ofText?_toText other
    rw [same, ofText?_toText] at read
    exact (Option.some.inj read).symm

end Measurement

end LinkGauge

namespace LinkGauge.Measurement

/-!
## Measurements from texts of any order

An object is read as a record in five places of a measurement besides the whole. In each of them
the reading depends only on what the record takes from the object
(`Measurement.Place.ofText?_congr`), so its members may stand in any order, and members that the
record does not know may stand between them (`Measurement.read_in_any_order`).
-/

open Json

/-- The parts of a measurement that are records. -/
inductive Part where
  | appInfo
  | identity
  | congestion
  | tcpStats
  | rtt

namespace Part

/-- The name under which a part stands. -/
def name : Part → String
  | .appInfo => "AppInfo"
  | .identity => "ConnectionInfo"
  | .congestion => "BBRInfo"
  | .tcpStats => "TCPInfo"
  | .rtt => "WSPingInfo"

/-- The types of a part's fields. -/
def types : Part → List Type
  | .appInfo => [Int64, Int64]
  | .identity => [String, String, String]
  | .congestion => [Int64, Int64, Int64]
  | .tcpStats => TcpStats.Types
  | .rtt => [Int64, Int64, Int64]

/-- The fields of a part. -/
def schema : (part : Part) → Schema part.types
  | .appInfo => AppInfo.schema
  | .identity => Identity.schema
  | .congestion => Congestion.schema
  | .tcpStats => TcpStats.schema
  | .rtt => RttSample.schema

private theorem name_mem (part : Part) : part.name ∈ Measurement.schema.names := by
  cases part <;> decide

private theorem reads (part : Part) : Measurement.schema.All fun field => field.name = part.name →
    ∃ f, ∀ members, field.read? (.object members) =
      (part.schema.read? (.object members)).map f := by
  cases part
  all_goals
    refine ⟨?_, ?_, ?_, ?_, ?_, ?_, ?_, trivial⟩
  all_goals
    first
    | exact fun other => absurd other (by decide)
    | exact fun _ => ⟨_, fun _ => Option.map_map ..⟩

variable {part : Part} {members others : Members}

private theorem alike
    (same : part.schema.read? (.object members) = part.schema.read? (.object others)) :
    Measurement.schema.All fun field => field.name = part.name →
      field.read? (.object members) = field.read? (.object others) := by
  refine part.reads.imp fun {α field} reads named => ?_
  obtain ⟨f, read⟩ := reads named
  rw [read, read, same]

private theorem refuses (refused : part.schema.read? (.object members) = none) :
    Measurement.schema.All fun field => field.name = part.name →
      field.read? (.object members) = none := by
  refine part.reads.imp fun {α field} reads named => ?_
  obtain ⟨f, read⟩ := reads named
  rw [read, refused]
  rfl

end Part

/-- A place in the text of a measurement where an object is read as a record: the whole text, or
the value of a member under the name of a part. -/
inductive Place where
  | whole (braces : Braces)
  | part (record : Part) (key : String)
      (reads : Json.ofText? key = some (.string (some record.name))) (inner outer : Braces)
      (before after : List MemberText)

namespace Place

/-- The text of a measurement with an object at a place. -/
def text : Place → List MemberText → String
  | .whole braces, members => objectText braces members
  | .part record key reads inner outer before after, members =>
    objectText outer (before ++ .ofObject key record.name reads inner members :: after)

/-- The types of the fields that are read at a place. -/
def types : Place → List Type
  | .whole _ => Types
  | .part record .. => record.types

/-- The fields that are read at a place. -/
def schema : (place : Place) → Schema place.types
  | .whole _ => Measurement.schema
  | .part record .. => record.schema

/-- What is read at a place from the object of members. -/
def read? (place : Place) (members : List MemberText) : Option (Row place.types) :=
  place.schema.read? (.object (members.map (·.member)))

variable {place : Place} {members others : List MemberText}

private theorem ofText?_objectText (braces : Braces) (members : List MemberText) :
    ofText? (objectText braces members) =
      (Measurement.schema.read? (.object (members.map (·.member)))).map ofRow := by
  rw [ofText?, Json.ofText?_objectText]
  rfl

/-- Measurements are read alike when the records at a place are. -/
theorem ofText?_congr (same : place.read? members = place.read? others) :
    ofText? (place.text members) = ofText? (place.text others) := by
  cases place with
  | whole braces =>
      rw [text, text, ofText?_objectText, ofText?_objectText]
      exact congrArg _ same
  | part record key reads inner outer before after =>
      rw [text, text, ofText?_objectText, ofText?_objectText, List.map_append, List.map_append]
      exact congrArg _ (Schema.read?_replace (Part.alike same) _ _)

/-- No measurement is read when the record at a place is refused. -/
theorem ofText?_eq_none (refused : place.read? members = none) :
    ofText? (place.text members) = none := by
  cases place with
  | whole braces =>
      rw [text, ofText?_objectText]
      exact congrArg _ refused
  | part record key reads inner outer before after =>
      rw [text, ofText?_objectText, List.map_append]
      exact congrArg _ (Schema.read?_eq_none_of_refused record.name_mem (Part.refuses refused)
        (List.mem_append_right _ List.mem_cons_self))

end Place

/-- A measurement is read from its members in any order, with unknown members between them. -/
theorem ofText?_mixed (m : Measurement) (braces : Braces) {members extra mixed : List MemberText}
    (own : members.map (·.member) = schema.members m.toRow)
    (unknown : ∀ member ∈ extra, ∃ name, member.name = some name ∧ name ∉ schema.names)
    (perm : mixed.Perm (members ++ extra)) : ofText? (objectText braces mixed) = some m := by
  have others : ∀ member ∈ extra.map (·.member),
      ∃ name, member.1 = some name ∧ name ∉ schema.names := by
    intro member found
    obtain ⟨text, given, rfl⟩ := List.mem_map.mp found
    exact unknown text given
  have together : (mixed.map (·.member)).Perm
      (schema.members m.toRow ++ extra.map (·.member)) := by
    rw [← own, ← List.map_append]
    exact perm.map _
  rw [Place.ofText?_objectText,
    Schema.read?_mixed (explicit_schema.imp (·.toLawful)) (by decide) m.toRow others together]
  rfl

/-- **Order and unknown members do not matter.** Every text that is read as an object is made of
the texts of its members. Every measurement is read from the members that are written for it, in
any order and with any unknown members between them. Wherever an object is read as a record, be it
the whole measurement or one of its parts, the outcome is the same in every order of the members,
and with or without a member under an unknown name, whatever its value is and wherever it stands.
No measurement is read when a known name stands in one object twice or a key is no text. -/
theorem read_in_any_order :
    (∀ text object, Json.ofText? text = some (.object object) →
      ∃ braces members, text = objectText braces members ∧
        members.map MemberText.member = object) ∧
    (∀ (m : Measurement) (braces : Braces) (members extra mixed : List MemberText),
      members.map (·.member) = schema.members m.toRow →
        (∀ member ∈ extra, ∃ name, member.name = some name ∧ name ∉ schema.names) →
          mixed.Perm (members ++ extra) → ofText? (objectText braces mixed) = some m) ∧
    ∀ place : Place,
      (∀ members permuted : List MemberText, members.Perm permuted →
        ofText? (place.text permuted) = ofText? (place.text members)) ∧
      (∀ (before after : List MemberText) (member : MemberText) (name : String),
        member.name = some name → name ∉ place.schema.names →
          ofText? (place.text (before ++ member :: after)) =
            ofText? (place.text (before ++ after))) ∧
      (∀ (members : List MemberText), ∀ name ∈ place.schema.names,
        2 ≤ members.countP (·.name == some name) → ofText? (place.text members) = none) ∧
      ∀ members : List MemberText, (∃ member ∈ members, member.name = none) →
        ofText? (place.text members) = none := by
  refine ⟨fun text object read => exists_objectText read,
    fun m braces members extra mixed => ofText?_mixed m braces, fun place => ⟨?_, ?_, ?_, ?_⟩⟩
  · intro members permuted perm
    exact Place.ofText?_congr (Schema.read?_perm (perm.symm.map _))
  · intro before after member name spelled unknown
    refine Place.ofText?_congr ?_
    rw [Place.read?, Place.read?, List.map_append, List.map_append, List.map_cons,
      MemberText.member, spelled]
    exact Schema.read?_insert unknown member.content _ _
  · intro members name known twice
    refine Place.ofText?_eq_none (Schema.read?_eq_none_of_twice known ?_)
    rw [List.countP_map]
    exact twice
  · rintro members ⟨member, found, unkeyed⟩
    have unkeyedMember : (none, member.content) ∈ members.map (·.member) :=
      List.mem_map.mpr ⟨member, found, by rw [MemberText.member, unkeyed]⟩
    exact Place.ofText?_eq_none (Schema.read?_eq_none_of_unkeyed unkeyedMember)

/-- A member whose key is an escape for half of a pair. -/
def unpaired : MemberText where
  key := "\"\\ud800\""
  value := "1"
  name := none
  content := .int 1
  key_reads := rfl
  value_reads := rfl

/-- A key that is no text is not known and makes a difference all the same. -/
theorem refuses_unpaired :
    (∀ name ∈ schema.names, unpaired.name ≠ some name) ∧
      objectText {} [] = "\x7b\x7d" ∧ ofText? (objectText {} []) = some {} ∧
      objectText {} [unpaired] = "\x7b\"\\ud800\":1\x7d" ∧
      ofText? (objectText {} [unpaired]) = none :=
  ⟨fun _ _ => nofun, rfl, rfl, rfl, rfl⟩

end LinkGauge.Measurement
