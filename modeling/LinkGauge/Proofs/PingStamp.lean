import LinkGauge.PingStamp
import LinkGauge.Proofs.Json.Reading
import LinkGauge.Proofs.Json.Record
import LinkGauge.Proofs.Text.Utf8
import LinkGauge.Time

/-!
# Echoes and their payloads

A payload carries a time if and only if it is an object with one integer under the name of the
time, or an array of one integer (`PingStamp.parse?_eq_some_iff`); what carries none is malformed
(`Echo.read_eq_malformed_iff`). The payload of a ping carries the moment of the ping, so its echo
tells the round trip (`Echo.tells_round_trip`).
-/

namespace LinkGauge

private theorem Json.counter?_eq_some_iff {value : Json} {n : Int64} :
    counter? value = some n ↔ value = .int n.toInt := by
  constructor
  · intro read
    unfold counter? at read
    split at read
    · next written =>
        split at read
        · next range =>
            obtain rfl := Option.some.inj read
            have least : -2 ^ 63 ≤ written := range.1
            have greatest : written ≤ 2 ^ 63 - 1 := range.2
            exact congrArg Json.int (Int64.toInt_ofInt_of_le least (by omega)).symm
        · cases read
    · cases read
  · rintro rfl
    exact Field.counter?_ofCounter n

namespace PingStamp

private theorem lawful_schema : schema.All Json.Field.Lawful := by
  refine ⟨⟨fun written => ?_, nofun⟩, trivial⟩
  cases written
  exact Json.Field.counter?_ofCounter _

/-- What is written for a stamp is read as the stamp. -/
theorem parse?_toText (stamp : PingStamp) :
    parse? (Text.glyphs (Text.utf8 stamp.toText)) = some stamp := by
  have written : Json.parse? (Text.glyphsOf stamp.toText) = some (schema.write (stamp.sent, ())) :=
    Json.ofText?_write _
  have read := Json.Schema.read?_write lawful_schema (by decide) (stamp.sent, ())
  rw [Text.glyphs_utf8, parse?, written]
  exact congrArg (Option.map _) read

/-- Whether a value carries a time: in an object under its name, once, or in an array alone. -/
inductive Carries (sent : Int64) : Json → Prop where
  | member {members : Json.Members} (keyed : members.all (·.1.isSome) = true)
      (one : members.named "Ndt7TS" = [.int sent.toInt]) : Carries sent (.object members)
  | item : Carries sent (.array [.int sent.toInt])

private theorem readMembers?_eq_some_iff {members : Json.Members} {sent : Int64} :
    schema.readMembers? members = some (sent, ()) ↔
      members.named "Ndt7TS" = [.int sent.toInt] := by
  simp only [schema, Json.Schema.readMembers?]
  constructor
  · intro read
    cases named : members.named "Ndt7TS" with
    | nil =>
        rw [named] at read
        cases read
    | cons value others =>
        rw [named] at read
        cases others with
        | nil =>
            obtain ⟨n, counted, same⟩ := Option.bind_eq_some_iff.mp read
            cases same
            rw [Json.counter?_eq_some_iff.mp counted]
        | cons => cases read
  · intro one
    have counted := Json.counter?_eq_some_iff.mpr (rfl : Json.int sent.toInt = .int sent.toInt)
    simp only [one, counted]
    rfl

private theorem readItems?_eq_some_iff {items : List Json} {sent : Int64} :
    schema.readItems? items = some (sent, ()) ↔ items = [.int sent.toInt] := by
  simp only [schema]
  cases items with
  | nil => exact ⟨nofun, nofun⟩
  | cons item others =>
      cases others with
      | nil =>
          constructor
          · intro read
            obtain ⟨n, counted, same⟩ := Option.bind_eq_some_iff.mp read
            cases same
            rw [Json.counter?_eq_some_iff.mp counted]
          · intro one
            obtain rfl := (List.cons.inj one).1
            have counted :=
              Json.counter?_eq_some_iff.mpr (rfl : Json.int sent.toInt = .int sent.toInt)
            simp only [Json.Schema.readItems?, counted]
            rfl
      | cons second rest =>
          constructor
          · intro read
            obtain ⟨n, counted, nothing⟩ := Option.bind_eq_some_iff.mp read
            cases nothing
          · exact nofun

/-- A value is read as a stamp if and only if it carries its time. -/
theorem read?_eq_some_iff {value : Json} {sent : Int64} :
    schema.read? value = some (sent, ()) ↔ Carries sent value := by
  constructor
  · intro read
    unfold Json.Schema.read? at read
    split at read
    · split at read
      · next keyed => exact .member keyed (readMembers?_eq_some_iff.mp read)
      · cases read
    · obtain rfl := readItems?_eq_some_iff.mp read
      exact .item
    · cases read
  · intro carries
    cases carries with
    | member keyed one =>
        rw [Json.Schema.read?, if_pos keyed]
        exact readMembers?_eq_some_iff.mpr one
    | item => exact readItems?_eq_some_iff.mpr rfl

/-- A payload is read as a stamp if and only if it carries its time. -/
theorem parse?_eq_some_iff {payload : List Text.Glyph} {stamp : PingStamp} :
    parse? payload = some stamp ↔
      ∃ value, Json.parse? payload = some value ∧ Carries stamp.sent value := by
  obtain ⟨sent⟩ := stamp
  constructor
  · intro parsed
    obtain ⟨value, there, read⟩ := Option.bind_eq_some_iff.mp parsed
    obtain ⟨⟨time, ⟨⟩⟩, carried, same⟩ := Option.map_eq_some_iff.mp read
    cases same
    exact ⟨value, there, read?_eq_some_iff.mp carried⟩
  · rintro ⟨value, there, carries⟩
    rw [parse?, there]
    exact congrArg (Option.map _) (read?_eq_some_iff.mpr carries)

/-- Nothing is read as a stamp that has no integer of 64 bits where its time would stand. -/
theorem parse?_eq_none {payload : List Text.Glyph}
    (noMember : ∀ members (n : Int64), Json.parse? payload = some (.object members) →
      (some "Ndt7TS", .int n.toInt) ∉ members)
    (noItem : ∀ n : Int64, Json.parse? payload ≠ some (.array [.int n.toInt])) :
    parse? payload = none := by
  refine Option.eq_none_iff_forall_not_mem.mpr fun stamp parsed => ?_
  obtain ⟨value, there, carries⟩ := parse?_eq_some_iff.mp parsed
  cases carries with
  | @member members _ one =>
      have under : Json.int stamp.sent.toInt ∈ members.named "Ndt7TS" :=
        one ▸ List.mem_singleton_self _
      obtain ⟨⟨key, _⟩, found, rfl⟩ := List.mem_map.mp under
      obtain ⟨member, named⟩ := List.mem_filter.mp found
      obtain rfl : key = some "Ndt7TS" := eq_of_beq named
      exact noMember members _ there member
  | item => exact noItem _ there

private theorem toInt_ofElapsed (elapsed : Nanos) :
    (ofElapsed elapsed).sent.toInt = saturatedNanos elapsed := by
  have range : saturatedNanos elapsed ≤ 2 ^ 63 - 1 := Nat.min_le_right _ _
  exact Int64.toInt_ofInt_of_le (by omega) (by omega)

end PingStamp

private theorem saturatedNanos_le (span : Nanos) : saturatedNanos span ≤ span := Nat.min_le_left _ _

private theorem saturatedNanos_mono {shorter longer : Nanos} (le : shorter ≤ longer) :
    saturatedNanos shorter ≤ saturatedNanos longer :=
  Nat.le_min.mpr ⟨Nat.le_trans (saturatedNanos_le shorter) le, Nat.min_le_right _ _⟩

/-- A span that fits in its counter is counted exactly. -/
theorem saturatedNanos_of_lt {span : Nanos} (few : span < 2 ^ 63) : saturatedNanos span = span :=
  Nat.min_eq_left (Nat.le_of_lt_succ few)

namespace Echo

variable {payload : List Text.Glyph} {stamp : PingStamp} {elapsed : Nanos} {echo : Echo}

/-- What a stamp is read as: out of range, or the span since it was sent. -/
theorem read_of_parse? (parsed : PingStamp.parse? payload = some stamp) (elapsed : Nanos) :
    read payload elapsed =
      if stamp.sent.toInt < 0 ∨ saturatedNanos elapsed < stamp.sent.toInt then
        .error (.outOfRange stamp.sent.toInt (saturatedNanos elapsed))
      else .ok ⟨elapsed, saturatedNanos elapsed - stamp.sent.toInt.toNat⟩ := by
  simp only [read, parsed]

/-- A payload is malformed if and only if it carries no time, whenever it comes. -/
theorem read_eq_malformed_iff :
    read payload elapsed = .error .malformed ↔ PingStamp.parse? payload = none := by
  constructor
  · intro malformed
    cases parsed : PingStamp.parse? payload with
    | none => rfl
    | some stamp =>
        rw [read_of_parse? parsed] at malformed
        split at malformed <;> cases malformed
  · intro nothing
    simp only [read, nothing]

/-- What is taken for an echo carries a time that is not later than its arrival. -/
private theorem stamp_of_read (accepted : read payload elapsed = .ok echo) :
    ∃ stamp, PingStamp.parse? payload = some stamp ∧ 0 ≤ stamp.sent.toInt ∧
      stamp.sent.toInt ≤ saturatedNanos elapsed ∧
      echo = ⟨elapsed, saturatedNanos elapsed - stamp.sent.toInt.toNat⟩ := by
  cases parsed : PingStamp.parse? payload with
  | none =>
      rw [read_eq_malformed_iff.mpr parsed] at accepted
      cases accepted
  | some stamp =>
      rw [read_of_parse? parsed] at accepted
      split at accepted
      · cases accepted
      · next range =>
          obtain ⟨past, early⟩ := not_or.mp range
          cases accepted
          exact ⟨stamp, rfl, Int.not_lt.mp past, Int.not_lt.mp early, rfl⟩

/-- The echo of a ping, by the moments of the two. -/
theorem read_ofElapsed (sent elapsed : Nanos) :
    read (Text.glyphs (Text.utf8 (PingStamp.ofElapsed sent).toText)) elapsed =
      if saturatedNanos sent ≤ saturatedNanos elapsed then
        .ok ⟨elapsed, saturatedNanos elapsed - saturatedNanos sent⟩
      else .error (.outOfRange (saturatedNanos sent) (saturatedNanos elapsed)) := by
  rw [read_of_parse? (PingStamp.parse?_toText _), PingStamp.toInt_ofElapsed, Int.toNat_natCast]
  by_cases early : saturatedNanos sent ≤ saturatedNanos elapsed
  · rw [if_pos early, if_neg (by omega)]
  · rw [if_neg early, if_pos (by omega)]

private theorem toInt_sub_sent {stamp : PingStamp} (past : 0 ≤ stamp.sent.toInt)
    (early : stamp.sent.toInt ≤ saturatedNanos elapsed) :
    (Int64.ofInt (saturatedNanos elapsed) - stamp.sent).toInt =
      saturatedNanos elapsed - stamp.sent.toInt := by
  have range : saturatedNanos elapsed ≤ 2 ^ 63 - 1 := Nat.min_le_right _ _
  rw [← Int64.ofInt_toInt stamp.sent, ← Int64.ofInt_sub, Int64.ofInt_toInt]
  exact Int64.toInt_ofInt_of_le (by omega) (by omega)

/-- **Echoes tell the round trip.** The echo of a ping is accepted if and only if the ping was not
sent later than the echo came, as far as the signed numbers of nanoseconds reach, and then tells
when it came and the difference of the two; otherwise its time is out of range, and it is never
malformed. So an echo that comes after its ping is accepted. Whatever payload is accepted, its
time lies in the past, the difference is the one of the signed numbers, and the round trip is no
longer than the time since the start. -/
theorem tells_round_trip (sent elapsed : Nanos) :
    read (Text.glyphs (Text.utf8 (PingStamp.ofElapsed sent).toText)) elapsed =
        (if saturatedNanos sent ≤ saturatedNanos elapsed then
          .ok ⟨elapsed, saturatedNanos elapsed - saturatedNanos sent⟩
        else .error (.outOfRange (saturatedNanos sent) (saturatedNanos elapsed))) ∧
      (sent ≤ elapsed → ∃ roundTrip,
        read (Text.glyphs (Text.utf8 (PingStamp.ofElapsed sent).toText)) elapsed =
          .ok ⟨elapsed, roundTrip⟩) ∧
      ∀ payload echo, read payload elapsed = .ok echo →
        echo.elapsed = elapsed ∧ echo.roundTrip ≤ elapsed ∧
          ∃ stamp, PingStamp.parse? payload = some stamp ∧ 0 ≤ stamp.sent.toInt ∧
            stamp.sent.toInt ≤ saturatedNanos elapsed ∧
            (Int64.ofInt (saturatedNanos elapsed) - stamp.sent).toInt =
              saturatedNanos elapsed - stamp.sent.toInt ∧
            (Int64.ofInt (saturatedNanos elapsed) - stamp.sent).toInt = echo.roundTrip := by
  refine ⟨read_ofElapsed sent elapsed, fun honest => ?_, fun payload echo accepted => ?_⟩
  · rw [read_ofElapsed, if_pos (saturatedNanos_mono honest)]
    exact ⟨_, rfl⟩
  · obtain ⟨stamp, parsed, past, early, rfl⟩ := stamp_of_read accepted
    have difference := toInt_sub_sent past early
    have shorter := saturatedNanos_le elapsed
    refine ⟨rfl, ?_, stamp, parsed, past, early, difference, ?_⟩
    · exact Nat.le_trans (Nat.sub_le _ _) shorter
    · rw [difference]
      dsimp only
      omega

end Echo

end LinkGauge
