import LinkGauge.Proofs.PingStamp
import LinkGauge.Proofs.Receiver.Reading

/-!
# Pongs that echo nothing

A payload without a time says nothing and stops nothing: the step in which it is read leaves the
receiver as it was (`Receiver.eq_of_step_foreign`). That is every payload without an integer of 64
bits where a ping has its time (`Receiver.skips_foreign_pong`), which stands under its name in an
object, but may also stand alone in an array (`Receiver.lone_item_taken_for_echo`).
-/

namespace LinkGauge.Receiver

variable {config : Config} {earlier : List Nanos} {least : Option Nanos} {moment : Nanos}
  {payload : List Text.Glyph} {r : Receiver} {v : View} {next : Receiver × View}

/-- A foreign pong is no echo. -/
theorem echo?_of_foreign (foreign : PingStamp.parse? payload = none) :
    echo? config (moment, .pong payload) = none := by
  simp only [echo?, Echo.read_eq_malformed_iff.mpr foreign, Except.toOption, ite_self]

private theorem received?_of_foreign (foreign : PingStamp.parse? payload = none) :
    received? config earlier (moment, .pong payload) = none := by
  simp only [received?, Arrival.message?, echo?_of_foreign foreign]

private theorem leastAfter_of_foreign (foreign : PingStamp.parse? payload = none) :
    leastAfter config least (moment, .pong payload) = least :=
  leastAfter_of_no_echo (echo?_of_foreign foreign)

private theorem stops_of_foreign (foreign : PingStamp.parse? payload = none) :
    stops config (moment, .pong payload) = false := by
  simp only [stops, Echo.read_eq_malformed_iff.mpr foreign, Bool.and_false]

/-- A receiver that reads a payload without a time goes on reading as before. -/
theorem eq_of_step_foreign (foreign : PingStamp.parse? payload = none)
    (step : Step config (r, v) [.read moment (.pong payload)] next) :
    r.activity = .reading ∧ next = (r, { v with wire := next.2.wire }) := by
  generalize shows : [Event.read moment (.pong payload)] = more at step
  cases step with
  | move moved =>
      have acted := (mem_moves_iff.mp moved).acted
      rw [← shows] at acted
      cases acted with
      | hear reading there goesOn told =>
          exact nomatch told.symm.trans (received?_of_foreign foreign)
      | skip reading there goesOn nothing =>
          refine ⟨reading, ?_⟩
          rw [leastAfter_of_foreign foreign, ← reading]
      | refuse reading there last other =>
          exact nomatch last.symm.trans (stops_of_foreign foreign)
  | take | leave | outside | reschedule => cases shows

private theorem step_foreign (foreign : PingStamp.parse? payload = none)
    (reading : r.activity = .reading)
    {wire : Wire} (there : v.wire.read? v.now = some (.pong payload, wire)) :
    Step config (r, v) [.read v.now (.pong payload)] (r, { v with wire }) := by
  have shows : shown r v (r.take config { v with wire } (.pong payload)) =
      [.read v.now (.pong payload)] := by
    rw [shown_of_reading reading, take_wire, Wire.readBetween_of_read? there]
    rfl
  have step : Step config (r, v) (shown r v (r.take config { v with wire } (.pong payload)))
      (r.take config { v with wire } (.pong payload)) :=
    .move (mem_moves_of_moved (.take reading there))
  rw [shows] at step
  obtain ⟨-, same⟩ := eq_of_step_foreign foreign step
  rw [take_wire] at same
  rwa [same] at step

/-- **Foreign pongs are skipped.** A payload that is neither an object with an integer of 64 bits
under the name of the time nor an array of nothing but one such integer is malformed, whenever it
comes. A receiver that reads and has it next can read it, and whenever it is read, the receiver
was reading and stays as it is, with its shortest round trip: nothing is handed on, logged or
stopped. -/
theorem skips_foreign_pong {bytes : List UInt8}
    (noMember : ∀ members (n : Int64), Json.parse? (Text.glyphs bytes) = some (.object members) →
      (some "Ndt7TS", .int n.toInt) ∉ members)
    (noItem : ∀ n : Int64, Json.parse? (Text.glyphs bytes) ≠ some (.array [.int n.toInt])) :
    (∀ elapsed, Echo.read (Text.glyphs bytes) elapsed = .error .malformed) ∧
      (∀ (config : Config) (r : Receiver) (v : View) (wire : Wire), r.activity = .reading →
        v.wire.read? v.now = some (.pong (Text.glyphs bytes), wire) →
          Step config (r, v) [.read v.now (.pong (Text.glyphs bytes))] (r, { v with wire })) ∧
      ∀ (config : Config) (r : Receiver) (v : View) (moment : Nanos) (next : Receiver × View),
        Step config (r, v) [.read moment (.pong (Text.glyphs bytes))] next →
          r.activity = .reading ∧ next = (r, { v with wire := next.2.wire }) := by
  have foreign := PingStamp.parse?_eq_none noMember noItem
  refine ⟨fun elapsed => Echo.read_eq_malformed_iff.mpr foreign, ?_, ?_⟩
  · intro config r v wire reading there
    exact step_foreign foreign reading there
  · intro config r v moment next step
    exact eq_of_step_foreign foreign step

/-- The bytes of a bare number, as some clients send it. -/
def bareNumber : List UInt8 := Text.utf8 "12345"

private theorem parse?_bareNumber : Json.parse? (Text.glyphs bareNumber) = some (.int 12345) := by
  rw [bareNumber, Text.glyphs_utf8]
  rfl

/-- A bare number is a foreign pong. -/
theorem skips_foreign_pong_bareNumber :
    (∀ members (n : Int64), Json.parse? (Text.glyphs bareNumber) = some (.object members) →
        (some "Ndt7TS", .int n.toInt) ∉ members) ∧
      (∀ n : Int64, Json.parse? (Text.glyphs bareNumber) ≠ some (.array [.int n.toInt])) ∧
      Echo.read (Text.glyphs bareNumber) (seconds 1) = .error .malformed := by
  have noMember : ∀ members (n : Int64),
      Json.parse? (Text.glyphs bareNumber) = some (.object members) →
        (some "Ndt7TS", .int n.toInt) ∉ members := by
    rw [parse?_bareNumber]
    exact nofun
  have noItem : ∀ n : Int64,
      Json.parse? (Text.glyphs bareNumber) ≠ some (.array [.int n.toInt]) := by
    rw [parse?_bareNumber]
    exact nofun
  exact ⟨noMember, noItem, (skips_foreign_pong noMember noItem).1 (seconds 1)⟩

/-- The bytes of a list of one number. -/
def loneItem : List UInt8 := Text.utf8 "[5]"

/-- A list of one number has no time under its name, and is taken for an echo all the same. -/
theorem lone_item_taken_for_echo :
    (∀ members n, Json.parse? (Text.glyphs loneItem) = some (.object members) →
        (some "Ndt7TS", .int n) ∉ members) ∧
      Echo.read (Text.glyphs loneItem) (seconds 1) ≠ .error .malformed ∧
      Echo.read (Text.glyphs loneItem) (seconds 1) = .ok ⟨seconds 1, 999999995⟩ ∧
      received? { subtest := .ping } [] (seconds 1, .pong (Text.glyphs loneItem)) =
        some ⟨.server, { rtt := some ⟨1000000, 999999, 999999⟩ }⟩ := by
  have parsed : Json.parse? (Text.glyphs loneItem) = some (.array [.int 5]) := by
    rw [loneItem, Text.glyphs_utf8]
    rfl
  have stamped : PingStamp.parse? (Text.glyphs loneItem) = some ⟨5⟩ :=
    PingStamp.parse?_eq_some_iff.mpr ⟨_, parsed, .item⟩
  have accepted : Echo.read (Text.glyphs loneItem) (seconds 1) = .ok ⟨seconds 1, 999999995⟩ := by
    rw [Echo.read_of_parse? stamped]
    rfl
  refine ⟨?_, ?_, accepted, ?_⟩
  · rw [parsed]
    exact nofun
  · rw [accepted]
    exact nofun
  · have elapsed : elapsedSince 0 (seconds 1) = seconds 1 := rfl
    simp only [received?, Arrival.message?, echo?, ↓reduceIte, elapsed, accepted]
    rfl

end LinkGauge.Receiver
