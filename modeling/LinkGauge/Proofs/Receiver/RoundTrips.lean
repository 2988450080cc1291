import LinkGauge.Archive
import LinkGauge.Proofs.Receiver.ForeignPongs
import LinkGauge.Proofs.Run
import Mathlib.Data.List.Induction

/-!
# Round trips

A receiver of a ping run takes a pong for an echo if its payload carries a time that is not
negative and not later than its arrival (`Receiver.reply?`). What it hands on for the echoes, all
but the last one at most, tells their round trips and the shortest one so far, in whole
microseconds (`Receiver.round_trips_follow`). That is the shortest of what has been told, since a
shorter span never has a larger counter (`Timed.min?_map_micros`), and so the archive, which looks
at nothing but the shortest ones, finds the shortest of all.
-/

namespace LinkGauge

/-- Echoes and the samples of their round trips: each sample tells the shortest round trip up to
its echo. -/
inductive Timed : List Echo → List RttSample → Prop where
  | nil : Timed [] []
  | concat {echoes : List Echo} {samples : List RttSample} {echo : Echo} {least : Nanos}
      (timed : Timed echoes samples)
      (shortest : ((echoes ++ [echo]).map (·.roundTrip)).min? = some least) :
      Timed (echoes ++ [echo])
        (samples ++ [⟨micros echo.elapsed, micros echo.roundTrip, micros least⟩])

namespace Timed

variable {echoes : List Echo} {samples : List RttSample} {sample : RttSample}

private theorem length (timed : Timed echoes samples) : samples.length = echoes.length := by
  induction timed with
  | nil => rfl
  | concat _ _ ih => rw [List.length_append, List.length_append, ih, List.length_singleton,
      List.length_singleton]

private theorem lastRtts (timed : Timed echoes samples) :
    samples.map (·.lastRtt) = (echoes.map (·.roundTrip)).map micros := by
  induction timed with
  | nil => rfl
  | concat _ _ ih => rw [List.map_append, List.map_append, List.map_append, ih]; rfl

private theorem take (timed : Timed echoes samples) (n : Nat) :
    Timed (echoes.take n) (samples.take n) := by
  induction timed with
  | nil =>
      rw [List.take_nil, List.take_nil]
      exact .nil
  | @concat echoes samples echo least timed shortest ih =>
      have same := timed.length
      by_cases early : n ≤ samples.length
      · rw [List.take_append_of_le_length (same ▸ early), List.take_append_of_le_length early]
        exact ih
      · have all : ∀ {α : Type} (xs : List α) (x : α), xs.length = samples.length →
            (xs ++ [x]).take n = xs ++ [x] := by
          intro α xs x equal
          refine List.take_of_length_le ?_
          rw [List.length_append, List.length_singleton, equal]
          omega
        rw [all _ _ same.symm, all _ _ rfl]
        exact .concat timed shortest

private theorem last (timed : Timed echoes (samples ++ [sample])) :
    ∃ early echo least, echoes = early ++ [echo] ∧ early.length = samples.length ∧
      (echoes.map (·.roundTrip)).min? = some least ∧
      sample = ⟨micros echo.elapsed, micros echo.roundTrip, micros least⟩ := by
  generalize all : samples ++ [sample] = told at timed
  cases timed with
  | nil => exact absurd (congrArg List.length all) (by simp)
  | @concat early before echo least timed shortest =>
      obtain ⟨rfl, same⟩ := List.append_inj' all rfl
      exact ⟨early, echo, least, rfl, timed.length.symm, shortest, (List.cons.inj same).1⟩

/-- Whether the time of every echo has room in a counter of microseconds, and none of them is
longer under way than since the start. -/
def Countable (echoes : List Echo) : Prop :=
  ∀ echo ∈ echoes, echo.elapsed < microsOverflow ∧ echo.roundTrip ≤ echo.elapsed

/-- The shortest of some spans has the least of their counters. -/
theorem min?_map_micros {spans : List Nanos} {least : Nanos}
    (short : ∀ span ∈ spans, span < microsOverflow) (shortest : spans.min? = some least) :
    (spans.map micros).min? = some (micros least) := by
  obtain ⟨member, smaller⟩ := List.min?_eq_some_iff.mp shortest
  refine List.min?_eq_some_iff.mpr ⟨List.mem_map_of_mem member, fun counter found => ?_⟩
  obtain ⟨span, there, rfl⟩ := List.mem_map.mp found
  exact micros_mono (smaller span there) (short span there)

private theorem least_of_last (timed : Timed echoes (samples ++ [sample]))
    (countable : Countable echoes) :
    ((samples ++ [sample]).map (·.lastRtt)).min? = some sample.minRtt := by
  obtain ⟨early, echo, least, -, -, shortest, rfl⟩ := timed.last
  rw [timed.lastRtts]
  refine min?_map_micros (fun span found => ?_) shortest
  obtain ⟨echo, there, rfl⟩ := List.mem_map.mp found
  obtain ⟨short, within⟩ := countable echo there
  exact Nat.lt_of_le_of_lt within short

private theorem take_concat {k : Nat} (there : samples[k]? = some sample) :
    samples.take (k + 1) = samples.take k ++ [sample] := by
  rw [List.take_add_one, there]
  rfl

private theorem countable_take (countable : Countable echoes) (n : Nat) :
    Countable (echoes.take n) :=
  fun echo found => countable echo (List.mem_of_mem_take found)

/-- Every sample tells the least of the round trips up to its own. -/
theorem least (timed : Timed echoes samples) (countable : Countable echoes) {k : Nat}
    (there : samples[k]? = some sample) :
    ((samples.take (k + 1)).map (·.lastRtt)).min? = some sample.minRtt := by
  have upTo := timed.take (k + 1)
  rw [take_concat there] at upTo ⊢
  exact upTo.least_of_last (countable_take countable _)

private theorem echo (timed : Timed echoes samples) {k : Nat} (there : samples[k]? = some sample) :
    ∃ echo, echoes[k]? = some echo ∧ sample.elapsedTime = micros echo.elapsed ∧
      sample.lastRtt = micros echo.roundTrip := by
  have upTo := timed.take (k + 1)
  rw [take_concat there] at upTo
  obtain ⟨early, echo, _, split, count, -, rfl⟩ := upTo.last
  have inside := (List.getElem?_eq_some_iff.mp there).1
  rw [List.length_take, Nat.min_eq_left (Nat.le_of_lt inside)] at count
  refine ⟨echo, ?_, rfl, rfl⟩
  rw [← List.getElem?_take_of_lt (Nat.lt_succ_self k), split, ← count,
    List.getElem?_concat_length]

private theorem minRtt_mem (timed : Timed echoes samples) (countable : Countable echoes)
    (found : sample ∈ samples) : sample.minRtt ∈ samples.map (·.lastRtt) := by
  obtain ⟨k, there⟩ := List.mem_iff_getElem?.mp found
  obtain ⟨member, -⟩ := List.min?_eq_some_iff.mp (timed.least countable there)
  exact List.map_subset _ (List.take_subset _ _) member

private theorem lastRtt_nonneg (timed : Timed echoes samples) (countable : Countable echoes)
    {counter : Int64} (found : counter ∈ samples.map (·.lastRtt)) : 0 ≤ counter := by
  rw [timed.lastRtts] at found
  obtain ⟨span, spans, rfl⟩ := List.mem_map.mp found
  obtain ⟨echo, there, rfl⟩ := List.mem_map.mp spans
  obtain ⟨short, within⟩ := countable echo there
  exact micros_nonneg (Nat.lt_of_le_of_lt within short)

/-- The shortest round trip so far never grows. -/
theorem falling (timed : Timed echoes samples) (countable : Countable echoes) :
    samples.Pairwise fun earlier later => later.minRtt ≤ earlier.minRtt := by
  induction timed with
  | nil => exact .nil
  | @concat echoes samples echo least timed shortest ih =>
      have before : Countable echoes := fun other found =>
        countable other (List.mem_append_left _ found)
      refine List.pairwise_append.mpr ⟨ih before, List.pairwise_singleton _ _, ?_⟩
      intro earlier found later last
      obtain rfl := List.mem_singleton.mp last
      have least := (timed.concat shortest).least_of_last countable
      refine (List.min?_eq_some_iff.mp least).2 _ ?_
      rw [List.map_append]
      exact List.mem_append_left _ (timed.minRtt_mem before found)

/-- The least of the shortest round trips is the least of all. -/
theorem min?_minRtts (timed : Timed echoes samples) (countable : Countable echoes) :
    (samples.map (·.minRtt)).min? = (samples.map (·.lastRtt)).min? := by
  rcases List.eq_nil_or_concat samples with rfl | ⟨before, last, rfl⟩
  · rfl
  · rw [List.concat_eq_append] at timed ⊢
    have least := timed.least_of_last countable
    rw [least]
    refine List.min?_eq_some_iff.mpr ⟨?_, fun counter found => ?_⟩
    · rw [List.map_append]
      exact List.mem_append_right _ (List.mem_singleton_self _)
    · obtain ⟨sample, there, rfl⟩ := List.mem_map.mp found
      exact (List.min?_eq_some_iff.mp least).2 _ (timed.minRtt_mem countable there)

end Timed

namespace Receiver

/-- The round trips that the server has measured, in their order. -/
def samplesOf (said : List Received) : List RttSample := (saidBy .server said).filterMap (·.rtt)

private theorem samplesOf_append (first second : List Received) :
    samplesOf (first ++ second) = samplesOf first ++ samplesOf second := by
  rw [samplesOf, saidBy_append, List.filterMap_append]
  rfl

variable {config : Config} {reads : List (Nanos × Arrival)}

private theorem samplesOf_received? (earlier : List Nanos) (read : Nanos × Arrival) :
    samplesOf (received? config earlier read).toList =
      ((echo? config read).map fun echo =>
        ⟨micros echo.elapsed, micros echo.roundTrip,
          micros (earlier.foldl min echo.roundTrip)⟩).toList := by
  obtain ⟨moment, arrival⟩ := read
  cases arrival with
  | text content =>
      cases message : Arrival.message? (.text content) <;>
        simp only [received?, message, echo?] <;> rfl
  | pong payload =>
      simp only [received?, Arrival.message?]
      cases echo? config (moment, .pong payload) <;> rfl
  | binary | ping | close | failure | finished => rfl

/-- What the server says about some arrivals are the samples of the echoes among them. -/
theorem timed_decoded (config : Config) (reads : List (Nanos × Arrival)) :
    Timed (reads.filterMap (echo? config)) (samplesOf (decoded config [] reads)) := by
  induction reads using List.reverseRecOn with
  | nil => exact .nil
  | append_singleton reads read ih =>
      rw [decoded_concat, samplesOf_append, samplesOf_received?, List.nil_append,
        filterMap_concat]
      cases echoes : echo? config read with
      | none => simpa using ih
      | some echo =>
          refine ih.concat ?_
          rw [List.map_append]
          exact min?_concat _ _

/-- When an accepted pong is read and when its ping was sent, both counted from the start. -/
structure Reply where
  arrived : Nanos
  sent : Nanos
  deriving DecidableEq

/-- A pong is accepted when its payload carries a time that is not negative and not later than
its arrival. -/
def reply? (config : Config) (pong : Nanos × List Text.Glyph) : Option Reply := do
  let stamp ← PingStamp.parse? pong.2
  let arrived := elapsedSince config.start pong.1
  if 0 ≤ stamp.sent.toInt ∧ stamp.sent.toInt ≤ arrived then
    return { arrived, sent := stamp.sent.toInt.toNat }
  else none

/-- The accepted pongs among some arrivals, in their order. -/
def replies (config : Config) (reads : List (Nanos × Arrival)) : List Reply :=
  (pongs reads).filterMap (reply? config)

/-- What the echo of a ping tells. -/
def Reply.echo (reply : Reply) : Echo := ⟨reply.arrived, reply.arrived - reply.sent⟩

private theorem echo?_pong (ping : config.subtest = .ping) {moment : Nanos}
    {payload : List Text.Glyph} (early : elapsedSince config.start moment < 2 ^ 63) :
    echo? config (moment, .pong payload) = (reply? config (moment, payload)).map Reply.echo := by
  have exact_now := saturatedNanos_of_lt early
  cases parsed : PingStamp.parse? payload with
  | none =>
      rw [echo?_of_foreign parsed, reply?, parsed]
      rfl
  | some stamp =>
      simp only [echo?, ping, ↓reduceIte, Echo.read_of_parse? parsed, exact_now, reply?, parsed,
        Option.bind_eq_bind, Option.bind_some]
      by_cases past : 0 ≤ stamp.sent.toInt ∧ stamp.sent.toInt ≤ elapsedSince config.start moment
      · have goesOn : ¬ (stamp.sent.toInt < 0 ∨
            (elapsedSince config.start moment : Int) < stamp.sent.toInt) :=
          not_or.mpr ⟨Int.not_lt.mpr past.1, Int.not_lt.mpr past.2⟩
        rw [if_neg goesOn, if_pos past]
        rfl
      · have refused : stamp.sent.toInt < 0 ∨
            (elapsedSince config.start moment : Int) < stamp.sent.toInt := by
          rcases not_and_or.mp past with negative | late
          · exact .inl (Int.not_le.mp negative)
          · exact .inr (Int.not_le.mp late)
        rw [if_pos refused, if_neg past]
        rfl

/-- The echoes are the accepted pongs, if all are read early enough. -/
theorem echoes_eq (ping : config.subtest = .ping)
    (early : ∀ pong ∈ pongs reads, elapsedSince config.start pong.1 < 2 ^ 63) :
    reads.filterMap (echo? config) = (replies config reads).map Reply.echo := by
  induction reads with
  | nil => rfl
  | cons read rest ih =>
      obtain ⟨moment, arrival⟩ := read
      cases arrival with
      | pong payload =>
          have split : pongs ((moment, .pong payload) :: rest) = (moment, payload) :: pongs rest :=
            rfl
          rw [split] at early
          obtain ⟨first, later⟩ := List.forall_mem_cons.mp early
          rw [List.filterMap_cons, echo?_pong ping first, ih later, replies, replies, split,
            List.filterMap_cons]
          cases reply? config (moment, payload) <;> rfl
      | text | binary | ping | close | failure | finished => exact ih early

private theorem reply_le {pong : Nanos × List Text.Glyph} {reply : Reply}
    (accepted : reply? config pong = some reply) :
    reply.arrived = elapsedSince config.start pong.1 ∧ reply.sent ≤ reply.arrived := by
  obtain ⟨stamp, -, answered⟩ := Option.bind_eq_some_iff.mp accepted
  dsimp only at answered
  split at answered
  · next past =>
      cases answered
      exact ⟨rfl, Int.toNat_le.mpr past.2⟩
  · cases answered

private theorem countable_echoes
    (early : ∀ pong ∈ pongs reads, elapsedSince config.start pong.1 < 2 ^ 63) :
    Timed.Countable ((replies config reads).map Reply.echo) := by
  intro echo found
  obtain ⟨reply, answered, rfl⟩ := List.mem_map.mp found
  obtain ⟨pong, there, accepted⟩ := List.mem_filterMap.mp answered
  obtain ⟨arrived, -⟩ := reply_le accepted
  refine ⟨?_, Nat.sub_le _ _⟩
  have soon := early pong there
  rw [← arrived] at soon
  exact Nat.lt_trans soon (by decide)

/-! ### The archive -/

/-- An archive in which everything is recorded that was handed on. -/
def recorded (archive : Archive) (said : List Received) : Archive :=
  said.foldl (fun archive received => archive.record ⟨received.origin, received.measurement⟩)
    archive

private theorem server_recorded (archive : Archive) (said : List Received) :
    (recorded archive said).server = archive.server ++ saidBy .server said := by
  induction said generalizing archive with
  | nil => exact (List.append_nil _).symm
  | cons received rest ih =>
      obtain ⟨origin, measurement⟩ := received
      rw [recorded, List.foldl_cons, ← recorded, ih]
      cases origin with
      | server => exact List.append_assoc ..
      | client => rfl

/-- The shortest round trip in an archive is the least that the samples in it tell. -/
theorem minPingRtt_recorded {archive : Archive} (said : List Received)
    (without : ∀ m ∈ archive.server, m.rtt = none) :
    (recorded archive said).minPingRtt = ((samplesOf said).map (·.minRtt)).min? := by
  have nothing : archive.server.filterMap (fun m => m.rtt.map (·.minRtt)) = [] := by
    refine List.filterMap_eq_nil_iff.mpr fun m there => ?_
    rw [without m there]
    rfl
  rw [Archive.minPingRtt, server_recorded, List.filterMap_append, nothing, List.nil_append,
    samplesOf, List.map_filterMap]

/-! ### Runs -/

variable {r : Receiver} {v w : View} {events more : List Event} {next : Receiver × View}

private theorem reads_of_acted (acted : Acted config r v more next) :
    next.2.now = v.now ∧ (readsOf more = [] ∨ ∃ arrival, readsOf more = [(v.now, arrival)]) := by
  cases acted with
  | hear | skip | refuse | close => exact ⟨rfl, .inr ⟨_, rfl⟩⟩
  | hand | halt | lose => exact ⟨rfl, .inl rfl⟩

/-- What has been read by a receiver, when, and what it knows of it. -/
structure Following (config : Config) (events : List Event) (r : Receiver) (now : Nanos) :
    Prop where
  reads : Reads config (readsOf events) (handedOf events) r
  rising : (readsOf events).Pairwise fun earlier later => earlier.1 ≤ later.1
  past : ∀ read ∈ readsOf events, read.1 ≤ now

namespace Following

variable {now : Nanos}

private theorem start (config : Config) (now : Nanos) : Following config [] {} now where
  reads := .start config
  rising := .nil
  past := nofun

private theorem aside {later : Nanos} (following : Following config events r now)
    (noReads : readsOf more = []) (nothing : handedOf more = []) (waits : now ≤ later) :
    Following config (events ++ more) r later := by
  have reads : readsOf (events ++ more) = readsOf events := by
    rw [readsOf, List.filterMap_append, ← readsOf, ← readsOf, noReads, List.append_nil]
  have handed : handedOf (events ++ more) = handedOf events := by
    rw [handedOf, List.filterMap_append, ← handedOf, ← handedOf, nothing, List.append_nil]
  refine ⟨?_, ?_, ?_⟩
  · rw [reads, handed]
    exact following.reads
  · rw [reads]
    exact following.rising
  · rw [reads]
    exact fun read found => Nat.le_trans (following.past read found) waits

private theorem act (following : Following config events r v.now)
    (acted : Acted config r v more next) : Following config (events ++ more) next.1 next.2.now := by
  have reads := following.reads.act acted
  obtain ⟨same, one⟩ := reads_of_acted acted
  have all : readsOf (events ++ more) = readsOf events ++ readsOf more := List.filterMap_append
  have present : ∀ read ∈ readsOf more, read.1 = v.now := by
    intro read found
    rcases one with nothing | ⟨arrival, here⟩
    · rw [nothing] at found
      cases found
    · rw [here] at found
      rw [List.mem_singleton.mp found]
  refine ⟨?_, ?_, ?_⟩
  · rw [all, handedOf, List.filterMap_append]
    exact reads
  · rw [all]
    refine List.pairwise_append.mpr ⟨following.rising, ?_, fun early found late here => ?_⟩
    · rcases one with nothing | ⟨arrival, here⟩
      · exact nothing ▸ .nil
      · exact here ▸ List.pairwise_singleton _ _
    · rw [present late here]
      exact following.past early found
  · rw [all, same]
    intro read found
    rcases List.mem_append.mp found with early | here
    · exact following.past read early
    · exact Nat.le_of_eq (present read here)

private theorem step (following : Following config events r v.now)
    (step : Step config (r, v) more next) :
    Following config (events ++ more) next.1 next.2.now := by
  cases step with
  | move moved => exact following.act (mem_moves_iff.mp moved).acted
  | take | leave | reschedule => exact following.aside rfl rfl (Nat.le_refl _)
  | outside later => exact following.aside rfl rfl later

end Following

private theorem following_of_run (run : Run (Step config) ({}, v) events (r, w)) :
    Following config events r w.now :=
  run.keeps (fun events s => Following config events s.1 s.2.now) (.start config v.now)
    fun following step => following.step step

/-- The samples that have been handed on are those of the first echoes, all but the last one at
most. -/
theorem Reads.timed {said : List Received} (known : Reads config reads said r) :
    ∃ n, Timed ((reads.filterMap (echo? config)).take n) (samplesOf said) ∧
      (samplesOf said).length ≤ (reads.filterMap (echo? config)).length ∧
      (reads.filterMap (echo? config)).length ≤ (samplesOf said).length + 1 := by
  obtain ⟨held, few, all⟩ := known.reached.all_but_one
  have timed := timed_decoded config reads
  have split : samplesOf (decoded config [] reads) = samplesOf said ++ samplesOf held := by
    rw [← all, samplesOf_append]
  have one : (samplesOf held).length ≤ 1 :=
    Nat.le_trans (List.length_filterMap_le _ _) (Nat.le_trans (by
      rw [saidBy, List.length_map]
      exact List.length_filter_le _ _) few)
  have counts := timed.length
  rw [split, List.length_append] at counts
  refine ⟨(samplesOf said).length, ?_, by omega, by omega⟩
  have early := timed.take (samplesOf said).length
  rwa [split, List.take_left] at early

/-- What the sample of an accepted pong tells, being the last one of some samples. -/
structure Reply.Told (reply : Reply) (upTo : List RttSample) (sample : RttSample) : Prop where
  past : reply.sent ≤ reply.arrived
  elapsed : sample.elapsedTime.toInt = (reply.arrived / 1000 : Nat)
  last : sample.lastRtt.toInt = ((reply.arrived - reply.sent) / 1000 : Nat)
  least : (upTo.map (·.lastRtt)).min? = some sample.minRtt
  nonneg : 0 ≤ sample.minRtt
  ordered : sample.minRtt ≤ sample.lastRtt ∧ sample.lastRtt ≤ sample.elapsedTime

private theorem told_of_timed {n k : Nat} {samples : List RttSample} {sample : RttSample}
    (early : ∀ pong ∈ pongs reads, elapsedSince config.start pong.1 < 2 ^ 63)
    (timed : Timed (((replies config reads).map Reply.echo).take n) samples)
    (there : samples[k]? = some sample) :
    ∃ reply, (replies config reads)[k]? = some reply ∧
      reply.Told (samples.take (k + 1)) sample := by
  have countable := Timed.countable_take (countable_echoes early) n
  obtain ⟨echo, at_k, elapsed, last⟩ := timed.echo there
  obtain ⟨short, within⟩ := countable echo (List.mem_of_getElem? at_k)
  have least := timed.least countable there
  have present : sample.lastRtt ∈ (samples.take (k + 1)).map (·.lastRtt) := by
    rw [Timed.take_concat there]
    exact List.mem_map_of_mem (List.mem_append_right _ (List.mem_singleton_self _))
  obtain ⟨reply, answered, rfl⟩ : ∃ reply, (replies config reads)[k]? = some reply ∧
      reply.echo = echo := by
    rw [← Option.map_eq_some_iff, ← List.getElem?_map]
    rw [List.getElem?_take] at at_k
    split at at_k
    · exact at_k
    · cases at_k
  obtain ⟨pong, -, accepted⟩ := List.mem_filterMap.mp (List.mem_of_getElem? answered)
  refine ⟨reply, answered, (reply_le accepted).2, ?_, ?_, least, ?_,
    (List.min?_eq_some_iff.mp least).2 _ present, ?_⟩
  · rw [elapsed]
    exact toInt_micros short
  · rw [last]
    exact toInt_micros (Nat.lt_of_le_of_lt within short)
  · exact timed.lastRtt_nonneg countable
      (timed.minRtt_mem countable (List.mem_of_getElem? there))
  · rw [elapsed, last]
    exact micros_mono within short

/-- **Round trips follow the pongs.** In every run of a ping test, arrivals are read in the order
of time. If every pong is read less than `2 ^ 63` nanoseconds after the start, the samples handed
on are those of the accepted pongs, in their order, all but the last one at most, and each tells
its own pong and the least round trip so far. The receiver knows the shortest of all in
nanoseconds, a pong without a time changes nothing, and an archive of all that has been handed on
has the least of the round trips told, if there is one. -/
theorem round_trips_follow {first w : View} {events : List Event} (ping : config.subtest = .ping)
    (run : Run (Step config) ({}, first) events (r, w))
    (early : ∀ pong ∈ pongs (readsOf events), elapsedSince config.start pong.1 < 2 ^ 63) :
    let samples := samplesOf (handedOf events)
    let accepted := replies config (readsOf events)
    (readsOf events).Pairwise (fun earlier later => earlier.1 ≤ later.1) ∧
      samples.length ≤ accepted.length ∧ accepted.length ≤ samples.length + 1 ∧
      (∀ k sample, samples[k]? = some sample →
        ∃ reply : Reply, accepted[k]? = some reply ∧ reply.Told (samples.take (k + 1)) sample) ∧
      samples.Pairwise (fun earlier later => later.minRtt ≤ earlier.minRtt) ∧
      r.minRtt = (accepted.map fun reply => reply.arrived - reply.sent).min? ∧
      (∀ moment payload next, PingStamp.parse? payload = none →
        Step config (r, w) [.read moment (.pong payload)] next → next.1 = r) ∧
      ∀ archive, (∀ m ∈ archive.server, m.rtt = none) →
        (recorded archive (handedOf events)).minPingRtt = (samples.map (·.lastRtt)).min? := by
  intro samples accepted
  have following := following_of_run run
  have echoes := echoes_eq ping early
  obtain ⟨n, timed, few, all⟩ := following.reads.timed
  rw [echoes] at timed few all
  rw [List.length_map] at few all
  have countable := Timed.countable_take (countable_echoes early) n
  refine ⟨following.rising, few, all, fun k sample there => told_of_timed early timed there,
    timed.falling countable, ?_, fun moment payload next foreign step => ?_,
    fun archive without => ?_⟩
  · rw [following.reads.least, roundTrips, echoes, List.map_map]
    rfl
  · rw [(eq_of_step_foreign foreign step).2]
  · rw [minPingRtt_recorded _ without, timed.min?_minRtts countable]

/-- A receiver whose peer echoes two pings, with another pong between them. -/
def echoingPeer : View where
  now := 5000
  context := ⟨seconds 1, false⟩
  connection := {}
  wire :=
    { arrivals :=
        [(4000, .pong (Text.glyphsOf "\x7b\"Ndt7TS\":1000\x7d")),
          (4000, .pong (Text.glyphsOf "12345")),
          (4000, .pong (Text.glyphsOf "\x7b\"Ndt7TS\":3000\x7d"))] }
  output := { capacity := 2 }
  stopRequested := false
  log := []

/-- The least round trip is that of the second echo; the other pong does not count. -/
theorem round_trips_follow_echoingPeer : ∃ events r w,
    Run (Step { subtest := .ping }) ({}, echoingPeer) events (r, w) ∧
      (∀ pong ∈ pongs (readsOf events), elapsedSince 0 pong.1 < 2 ^ 63) ∧
      ((replies { subtest := .ping } (readsOf events)).map fun reply =>
        reply.arrived - reply.sent).min? = some 2000 := by
  let config : Config := { subtest := .ping }
  obtain ⟨events, run⟩ : ∃ events,
      Run (Step config) ({}, echoingPeer) events ((alone config).settle 5 ({}, echoingPeer)) :=
    Run.stay.settle (alone config) (fun _ moved => ⟨_, .move (List.mem_of_mem_head? moved)⟩) 5
  have known : ((alone config).settle 5 ({}, echoingPeer)).1.minRtt = some 2000 := by
    decide +kernel
  have ended : ((alone config).settle 5 ({}, echoingPeer)).2.now = 5000 := by
    decide +kernel
  generalize (alone config).settle 5 ({}, echoingPeer) = s at run known ended
  obtain ⟨r, w⟩ := s
  have early : ∀ pong ∈ pongs (readsOf events), elapsedSince 0 pong.1 < 2 ^ 63 := by
    intro pong found
    obtain ⟨read, there, told⟩ := List.mem_filterMap.mp found
    have past := (following_of_run run).past read there
    obtain ⟨moment, arrival⟩ := read
    cases arrival with
    | pong payload =>
        cases told
        exact Nat.lt_of_le_of_lt (elapsedSince_mono 0 (Nat.le_trans past (Nat.le_of_eq ended)))
          (by decide)
    | text | binary | ping | close | failure | finished => cases told
  obtain ⟨-, -, -, -, -, least, -⟩ := round_trips_follow rfl run early
  exact ⟨events, _, _, run, early, least.symm.trans known⟩

end Receiver

end LinkGauge
