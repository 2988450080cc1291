import LinkGauge.Stage.Receiver

/-!
# What arrivals say

Which arrival is the last one that is read (`Receiver.stops`) and what the arrivals before it
say (`Receiver.decoded`) depends on nothing but the subtest, the arrivals and the moments at
which they are read. The receiver takes every arrival for what it says (`Receiver.means_decode`).
-/

namespace LinkGauge

/-- The measurement in a text. -/
def Arrival.message? : Arrival → Option Measurement
  | .text content => Measurement.ofText? content
  | _ => none

namespace Receiver

/-- The echo of a ping, if an arrival that is read at a moment is one. -/
def echo? (config : Config) (read : Nanos × Arrival) : Option Echo :=
  match read.2 with
  | .pong payload =>
    if config.subtest = .ping then
      (Echo.read payload (elapsedSince config.start read.1)).toOption
    else none
  | _ => none

/-- Whether nothing is read after an arrival that is read at a moment: a close frame, a failure,
the end of the stream, a text without a measurement, filler outside an upload, and in a ping run
a pong whose time is out of range. -/
def stops (config : Config) (read : Nanos × Arrival) : Bool :=
  match read.2 with
  | .text content => (Measurement.ofText? content).isNone
  | .binary _ => config.subtest ≠ .upload
  | .pong payload =>
    config.subtest = .ping &&
      (Echo.read payload (elapsedSince config.start read.1) matches .error (.outOfRange _ _))
  | .ping => false
  | .close | .failure _ | .finished => true

/-- The round trips of the echoes among some arrivals. -/
def roundTrips (config : Config) (reads : List (Nanos × Arrival)) : List Nanos :=
  (reads.filterMap (echo? config)).map (·.roundTrip)

/-- What an arrival says after echoes with the given round trips. A text is a measurement of the
client. An echo is one of the server, which tells when the echo came, how long it took, and the
least time that any echo has taken, all in microseconds. -/
def received? (config : Config) (earlier : List Nanos) (read : Nanos × Arrival) :
    Option Received :=
  match read.2.message?, echo? config read with
  | some m, _ => some ⟨.client, m⟩
  | none, some echo =>
    let sample : RttSample :=
      { elapsedTime := micros echo.elapsed
        lastRtt := micros echo.roundTrip
        minRtt := micros (earlier.foldl min echo.roundTrip) }
    some ⟨.server, { rtt := some sample }⟩
  | none, none => none

/-- What arrivals say in their order, after echoes with the given round trips. -/
def decoded (config : Config) : List Nanos → List (Nanos × Arrival) → List Received
  | _, [] => []
  | earlier, read :: rest =>
    (received? config earlier read).toList ++
      decoded config (earlier ++ roundTrips config [read]) rest

/-- The shortest round trip after an arrival. -/
def leastAfter (config : Config) (least : Option Nanos) (read : Nanos × Arrival) :
    Option Nanos :=
  (least.toList ++ roundTrips config [read]).min?

variable {config : Config} {earlier : List Nanos} {least : Option Nanos}
  {reads : List (Nanos × Arrival)} {read : Nanos × Arrival}

/-- The round trips of one more arrival come last. -/
theorem roundTrips_concat :
    roundTrips config (reads ++ [read]) = roundTrips config reads ++ roundTrips config [read] := by
  rw [roundTrips, List.filterMap_append, List.map_append]
  rfl

private theorem roundTrips_of_echo? {echo : Echo} (echoes : echo? config read = some echo) :
    roundTrips config [read] = [echo.roundTrip] := by
  rw [roundTrips, List.filterMap_cons_some echoes]
  rfl

/-- What is no echo has no round trip. -/
theorem roundTrips_of_no_echo (none : echo? config read = none) :
    roundTrips config [read] = [] := by
  rw [roundTrips, List.filterMap_cons_none none]
  rfl

/-- What is decoded from one more arrival comes last, with the round trips before it. -/
theorem decoded_concat :
    decoded config earlier (reads ++ [read]) =
      decoded config earlier reads ++
        (received? config (earlier ++ roundTrips config reads) read).toList := by
  induction reads generalizing earlier with
  | nil =>
      rw [List.nil_append, decoded, decoded, decoded, List.append_nil, List.nil_append]
      exact congrArg (fun before => (received? config before read).toList)
        (List.append_nil earlier).symm
  | cons first rest ih =>
      have split : roundTrips config (first :: rest) =
          roundTrips config [first] ++ roundTrips config rest := by
        rw [roundTrips, ← List.singleton_append, List.filterMap_append, List.map_append]
        rfl
      rw [List.cons_append, decoded, decoded, ih, split, List.append_assoc, List.append_assoc]

/-! ### The least of some round trips -/

private theorem foldl_min (spans : List Nanos) (first second : Nanos) :
    spans.foldl min (min first second) = min first (spans.foldl min second) :=
  List.foldl_assoc

private theorem foldl_min_min? (spans : List Nanos) (span : Nanos) :
    spans.min?.toList.foldl min span = spans.foldl min span := by
  cases spans with
  | nil => rfl
  | cons first rest =>
      rw [List.min?_cons', Option.toList_some, List.foldl_cons, List.foldl_nil, List.foldl_cons,
        foldl_min]

/-- The least of some spans and one more. -/
theorem min?_concat (spans : List Nanos) (span : Nanos) :
    (spans ++ [span]).min? = some (spans.foldl min span) := by
  cases spans with
  | nil => rfl
  | cons first rest =>
      rw [List.cons_append, List.min?_cons', List.foldl_append, List.foldl_cons, List.foldl_cons,
        List.foldl_nil, foldl_min, Nat.min_comm]

/-- Of the round trips before it an echo needs only the least. -/
theorem received?_min? (config : Config) (earlier : List Nanos) (read : Nanos × Arrival) :
    received? config earlier.min?.toList read = received? config earlier read := by
  unfold received?
  simp only [foldl_min_min?]

/-- The shortest round trip is the least one among the echoes. -/
theorem leastAfter_min? :
    leastAfter config (roundTrips config reads).min? read =
      (roundTrips config (reads ++ [read])).min? := by
  rw [leastAfter, roundTrips_concat]
  cases echoes : echo? config read with
  | none =>
      rw [roundTrips_of_no_echo echoes, List.append_nil, List.append_nil]
      cases (roundTrips config reads).min? <;> rfl
  | some echo =>
      rw [roundTrips_of_echo? echoes, min?_concat, min?_concat, foldl_min_min?]

/-- What is no echo leaves the least round trip as it was. -/
theorem leastAfter_of_no_echo (none : echo? config read = none) :
    leastAfter config least read = least := by
  rw [leastAfter, roundTrips_of_no_echo none, List.append_nil]
  cases least <;> rfl

private theorem shortest_eq_foldl (least : Option Nanos) (roundTrip : Nanos) :
    shortest least roundTrip = least.toList.foldl min roundTrip := by
  cases least with
  | none => rfl
  | some other => exact Nat.min_comm other roundTrip

/-- The last arrival that is read says nothing. -/
theorem received?_of_stops (last : stops config read = true) :
    received? config earlier read = none := by
  obtain ⟨moment, arrival⟩ := read
  cases arrival with
  | text content =>
      have malformed : Measurement.ofText? content = none := Option.isNone_iff_eq_none.mp last
      simp only [received?, Arrival.message?, malformed, echo?]
  | pong payload =>
      obtain ⟨ping, refused⟩ := Bool.and_eq_true_iff.mp last
      simp only [received?, Arrival.message?, echo?, of_decide_eq_true ping, ↓reduceIte]
      cases reading : Echo.read payload (elapsedSince config.start moment) with
      | ok echo =>
          rw [reading] at refused
          cases refused
      | error => rfl
  | binary | ping | close | failure | finished => rfl

/-- What an arrival means to a receiver that knows the shortest round trip, by what it says. -/
inductive Means (config : Config) (least : Option Nanos) (read : Nanos × Arrival) :
    Meaning → Prop where
  | emit {received : Received} (goesOn : stops config read = false)
      (told : received? config least.toList read = some received) :
      Means config least read (.emit received)
  | skip (goesOn : stops config read = false)
      (nothing : received? config least.toList read = none) : Means config least read .skip
  | stop {warning : Option LogEvent} (last : stops config read = true) (other : read.2 ≠ .close) :
      Means config least read (.stop warning)
  | peerClosed (closing : read.2 = .close) : Means config least read .peerClosed

private theorem means_decodePong (ping : config.subtest = .ping) (moment : Nanos)
    (payload : List Text.Glyph) :
    Means config least (moment, .pong payload)
        (decodePong least (elapsedSince config.start moment) payload).1 ∧
      (decodePong least (elapsedSince config.start moment) payload).2 =
        leastAfter config least (moment, .pong payload) := by
  cases reading : Echo.read payload (elapsedSince config.start moment) with
  | ok echo =>
      have echoes : echo? config (moment, .pong payload) = some echo := by
        simp only [echo?, ping, ↓reduceIte, reading, Except.toOption]
      simp only [decodePong, reading, leastAfter, roundTrips_of_echo? echoes, min?_concat,
        shortest_eq_foldl, and_true]
      refine .emit ?_ ?_
      · simp only [stops, reading, Bool.and_false]
      · simp only [received?, Arrival.message?, echoes]
        rfl
  | error refusal =>
      have echoes : echo? config (moment, .pong payload) = none := by
        simp only [echo?, ping, ↓reduceIte, reading, Except.toOption]
      cases refusal with
      | malformed =>
          simp only [decodePong, reading, leastAfter_of_no_echo echoes, and_true]
          refine .skip ?_ ?_
          · simp only [stops, reading, Bool.and_false]
          · simp only [received?, Arrival.message?, echoes]
      | outOfRange =>
          simp only [decodePong, reading, leastAfter_of_no_echo echoes, and_true]
          refine .stop ?_ nofun
          simp only [stops, reading, ping, decide_true, Bool.and_true]

/-- A receiver takes an arrival for what it says. -/
theorem means_decode (config : Config) (least : Option Nanos) (moment : Nanos)
    (arrival : Arrival) :
    Means config least (moment, arrival)
        (decode config.subtest least (elapsedSince config.start moment) arrival).1 ∧
      (decode config.subtest least (elapsedSince config.start moment) arrival).2 =
        leastAfter config least (moment, arrival) := by
  cases arrival with
  | text content =>
      cases contents : Measurement.ofText? content with
      | some m =>
          simp only [decode, contents]
          exact ⟨.emit (by simp only [stops, contents, Option.isNone_some])
            (by simp only [received?, Arrival.message?, contents]),
            (leastAfter_of_no_echo rfl).symm⟩
      | none =>
          simp only [decode, contents]
          exact ⟨.stop (by simp only [stops, contents, Option.isNone_none]) nofun,
            (leastAfter_of_no_echo rfl).symm⟩
  | binary size =>
      by_cases upload : config.subtest = .upload
      · simp only [decode, upload, ↓reduceIte]
        exact ⟨.skip (by simp only [stops, upload, ne_eq, not_true, decide_false]) rfl,
          (leastAfter_of_no_echo rfl).symm⟩
      · simp only [decode, upload, ↓reduceIte]
        exact ⟨.stop (decide_eq_true upload) nofun, (leastAfter_of_no_echo rfl).symm⟩
  | ping => exact ⟨.skip rfl rfl, (leastAfter_of_no_echo rfl).symm⟩
  | pong payload =>
      by_cases ping : config.subtest = .ping
      · simp only [decode, ping, ↓reduceIte]
        exact means_decodePong ping moment payload
      · have echoes : echo? config (moment, .pong payload) = none := by
          simp only [echo?, ping, ↓reduceIte]
        simp only [decode, ping, ↓reduceIte, leastAfter_of_no_echo echoes, and_true]
        refine .skip ?_ ?_
        · simp only [stops, ping, decide_false, Bool.false_and]
        · simp only [received?, Arrival.message?, echoes]
  | close => exact ⟨.peerClosed rfl, (leastAfter_of_no_echo rfl).symm⟩
  | failure reason => exact ⟨.stop rfl nofun, (leastAfter_of_no_echo rfl).symm⟩
  | finished => exact ⟨.stop rfl nofun, (leastAfter_of_no_echo rfl).symm⟩

/-! ### What either side says -/

/-- The pongs among some arrivals, each with the moment at which it is read. -/
def pongs (reads : List (Nanos × Arrival)) : List (Nanos × List Text.Glyph) :=
  reads.filterMap fun
    | (moment, .pong payload) => some (moment, payload)
    | _ => none

/-- The measurements that one side has made, in their order. -/
def saidBy (side : Origin) (said : List Received) : List Measurement :=
  (said.filter (·.origin = side)).map (·.measurement)

/-- What a side has said in two stretches is what it has said in each. -/
@[simp] theorem saidBy_append (side : Origin) (first second : List Received) :
    saidBy side (first ++ second) = saidBy side first ++ saidBy side second := by
  simp only [saidBy, List.filter_append, List.map_append]

/-- The client's are the measurements in its texts, in their order. -/
theorem said_by_client :
    saidBy .client (decoded config earlier reads) = reads.filterMap (·.2.message?) := by
  induction reads generalizing earlier with
  | nil => rfl
  | cons read rest ih =>
      rw [decoded, saidBy_append, ih, List.filterMap_cons]
      cases message : read.2.message? with
      | some m =>
          simp only [received?, message]
          rfl
      | none =>
          simp only [received?, message]
          cases echo? config read <;> rfl

/-- The server's are the round trips of the pongs, whatever else arrives. -/
theorem said_by_server :
    saidBy .server (decoded config earlier reads) =
      saidBy .server (decoded config earlier
        ((pongs reads).map fun (moment, payload) => (moment, .pong payload))) := by
  induction reads generalizing earlier with
  | nil => rfl
  | cons read rest ih =>
      obtain ⟨moment, arrival⟩ := read
      rw [decoded, saidBy_append, ih]
      cases arrival with
      | pong payload =>
          have first : pongs ((moment, .pong payload) :: rest) = (moment, payload) :: pongs rest :=
            rfl
          rw [first, List.map_cons, decoded, saidBy_append]
      | text content =>
          have silent :
              saidBy .server (received? config earlier (moment, .text content)).toList = [] := by
            cases message : Arrival.message? (.text content) <;>
              simp only [received?, message, echo?] <;> rfl
          rw [silent, roundTrips_of_no_echo rfl, List.append_nil]
          rfl
      | binary | ping | close | failure | finished =>
          rw [roundTrips_of_no_echo rfl, List.append_nil]
          rfl

/-- Whatever the server has measured is a round trip. -/
theorem timed_by_server {m : Measurement}
    (member : m ∈ saidBy .server (decoded config earlier reads)) : m.rtt.isSome = true := by
  induction reads generalizing earlier with
  | nil => cases member
  | cons read rest ih =>
      rw [decoded, saidBy_append, List.mem_append] at member
      rcases member with here | later
      · unfold received? at here
        split at here
        · cases here
        · obtain rfl := List.mem_singleton.mp here
          rfl
        · cases here
      · exact ih later

end Receiver

end LinkGauge
