import LinkGauge.Proofs.Measurer
import LinkGauge.Proofs.Run

/-!
# Runs of a measurer

A measurer runs beside the consumer of its samples and whoever ends its context, any of whom may
act at any moment (`Measurer.Step`). Its ticks keep their distance, each gives one sample, and the
samples are handed on in their order until its context is done (`Measurer.samples_follow_ticks`).
-/

namespace LinkGauge.Measurer

variable {config : Config} {m : Measurer} {v : View} {next : Measurer × View}

/-- What can happen at a measurer. -/
inductive Step (config : Config) (s : Measurer × View) : List Event → Measurer × View → Prop where
  | move {next : Measurer × View} (moved : next ∈ s.1.moves config s.2) :
      Step config s (shown s.1 s.2 next.1) next
  | take {sample : Measurement} {output : Channel Measurement}
      (taken : s.2.output.take? = some (sample, output)) :
      Step config s [.taken sample] (s.1, { s.2 with output })
  /-- The consumer leaves. -/
  | leave : Step config s [] (s.1, { s.2 with output := s.2.output.stopReading })
  /-- Time passes, the context is cancelled, or something is logged. -/
  | outside {now : Nanos} {context : Context} {log : Log} (later : s.2.now ≤ now)
      (bound : context.deadline = s.2.context.deadline)
      (cancelled : s.2.context.cancelled = true → context.cancelled = true) :
      Step config s [] (s.1, { s.2 with now, context, log })

/-! ### Samples -/

/-- The elapsed times in a sample. -/
def elapsedTimes (sample : Measurement) : List Int64 :=
  (sample.congestion.map (·.elapsedTime)).toList ++ (sample.tcpStats.map (·.elapsedTime)).toList

/-- What is due at the tick after some others, where sampling began at a moment. -/
structure Due (config : Config) (began : Nanos) (early : List (Nanos × Measurement))
    (tick : Nanos × Measurement) : Prop where
  spaced : began + (early.length + 1) * config.sampling.least ≤ tick.1
  later : ∀ earlier ∈ early, earlier.1 ≤ tick.1
  origin : tick.2.origin = some .server
  test : tick.2.test = some config.subtest
  identity : tick.2.identity = some config.identity
  congestion : tick.2.congestion = (config.instrument.congestion early.length).map
    fun c => { c with elapsedTime := micros (elapsedSince config.start tick.1) }
  tcpStats : tick.2.tcpStats = (config.instrument.tcpStats early.length).map
    fun t => { t with elapsedTime := micros (elapsedSince config.start tick.1) }
  others : tick.2.appInfo = none ∧ tick.2.rtt = none

private theorem Due.eq_of_mem_elapsedTimes {began : Nanos} {early : List (Nanos × Measurement)}
    {tick : Nanos × Measurement} (due : Due config began early tick) {time : Int64}
    (found : time ∈ elapsedTimes tick.2) : time = micros (elapsedSince config.start tick.1) := by
  rw [elapsedTimes, due.congestion, due.tcpStats] at found
  rcases List.mem_append.mp found with estimate | counters
  · simp only [Option.map_map, Option.mem_toList, Option.map_eq_some_iff] at estimate
    obtain ⟨c, -, rfl⟩ := estimate
    rfl
  · simp only [Option.map_map, Option.mem_toList, Option.map_eq_some_iff] at counters
    obtain ⟨t, -, rfl⟩ := counters
    rfl

/-- The readings of some ticks, oldest first. -/
def readingsOf (began : List Nanos) (ticks : List (Nanos × Measurement)) : List Reading :=
  began.map (fun _ => .enable) ++ ticks.flatMap fun _ => [.congestion, .tcpStats]

private theorem readingsOf_concat (began : List Nanos) (ticks : List (Nanos × Measurement))
    (tick : Nanos × Measurement) :
    readingsOf began (ticks ++ [tick]) = readingsOf began ticks ++ [.congestion, .tcpStats] := by
  rw [readingsOf, readingsOf, List.flatMap_append, List.append_assoc]
  rfl

private theorem count_readingsOf (began : List Nanos) (ticks : List (Nanos × Measurement)) :
    (readingsOf began ticks).count .congestion = ticks.length ∧
      (readingsOf began ticks).count .tcpStats = ticks.length := by
  have enabled (reading : Reading) (other : reading ≠ .enable) :
      (began.map fun _ => Reading.enable).count reading = 0 := by
    refine List.count_eq_zero.mpr fun found => ?_
    obtain ⟨_, -, same⟩ := List.mem_map.mp found
    exact other same.symm
  rw [readingsOf, List.count_append, List.count_append, enabled .congestion nofun,
    enabled .tcpStats nofun, Nat.zero_add, Nat.zero_add]
  induction ticks with
  | nil => exact ⟨rfl, rfl⟩
  | cons _ rest ih =>
      rw [List.flatMap_cons, List.count_append, List.count_append, ih.1, ih.2, List.length_cons]
      exact ⟨Nat.add_comm 1 _, Nat.add_comm 1 _⟩

private theorem due_sample {began moment : Nanos} {ticks : List (Nanos × Measurement)}
    {starts : List Nanos} (readings : m.readings.reverse = readingsOf starts ticks)
    (spaced : began + (ticks.length + 1) * config.sampling.least ≤ moment)
    (later : ∀ tick ∈ ticks, tick.1 ≤ moment) :
    Due config began ticks (moment, m.sample config moment) := by
  obtain ⟨congestion, tcpStats⟩ := count_readingsOf starts ticks
  rw [← readings, List.count_reverse] at congestion tcpStats
  refine ⟨spaced, later, rfl, rfl, rfl, ?_, ?_, rfl, rfl⟩
  · rw [← congestion]
    rfl
  · rw [← tcpStats]
    rfl

/-! ### Books -/

variable {began : List Nanos} {ticks : List (Nanos × Measurement)} {said : List Measurement}

/-- What has been sampled and handed on, by what the measurer is doing. -/
inductive Reached (config : Config) (began : List Nanos) (ticks : List (Nanos × Measurement))
    (said : List Measurement) (now : Nanos) : Activity → Prop where
  | starting (fresh : began = []) (none : ticks = []) (silent : said = []) :
      Reached config began ticks said now .starting
  | ticking {start : Nanos} (one : began = [start])
      (since : start + ticks.length * config.sampling.least ≤ now)
      (all : said = ticks.map (·.2)) : Reached config began ticks said now .ticking
  | waiting {start ends : Nanos} (one : began = [start])
      (spaced : start + (ticks.length + 1) * config.sampling.least ≤ ends)
      (all : said = ticks.map (·.2)) : Reached config began ticks said now (.waiting ends)
  | emitting {start : Nanos} {sample : Measurement} (one : began = [start])
      (since : start + ticks.length * config.sampling.least ≤ now)
      (all : said ++ [sample] = ticks.map (·.2)) :
      Reached config began ticks said now (.emitting sample)
  | finished {start : Nanos} (one : began = [start]) (all : said = ticks.map (·.2)) :
      Reached config began ticks said now .finished
  /-- The last sample has not been handed on. -/
  | lost {start : Nanos} {sample : Measurement} (one : began = [start])
      (all : said ++ [sample] = ticks.map (·.2)) : Reached config began ticks said now .finished

namespace Reached

variable {now later : Nanos} {activity : Activity}

private theorem mono (reached : Reached config began ticks said now activity) (le : now ≤ later) :
    Reached config began ticks said later activity := by
  cases reached with
  | starting fresh none silent => exact .starting fresh none silent
  | ticking one since all => exact .ticking one (Nat.le_trans since le) all
  | waiting one spaced all => exact .waiting one spaced all
  | emitting one since all => exact .emitting one (Nat.le_trans since le) all
  | finished one all => exact .finished one all
  | lost one all => exact .lost one all

private theorem stop (reached : Reached config began ticks said now activity)
    (started : activity ≠ .starting) : Reached config began ticks said now .finished := by
  cases reached with
  | starting => exact absurd rfl started
  | ticking one _ all | waiting one _ all | finished one all => exact .finished one all
  | emitting one _ all | lost one all => exact .lost one all

private theorem began_once (reached : Reached config began ticks said now activity) :
    began = [] ∧ ticks = [] ∨ ∃ start, began = [start] := by
  cases reached with
  | starting fresh none => exact .inl ⟨fresh, none⟩
  | ticking one | waiting one | emitting one | finished one | lost one => exact .inr ⟨_, one⟩

private theorem all_but_one (reached : Reached config began ticks said now activity) :
    said <+: ticks.map (·.2) ∧ ticks.length ≤ said.length + 1 := by
  have count : (ticks.map (·.2)).length = ticks.length := List.length_map _
  rw [← count]
  cases reached with
  | starting _ none silent =>
      rw [none, silent]
      exact ⟨List.prefix_refl _, Nat.zero_le _⟩
  | ticking _ _ all | waiting _ _ all | finished _ all =>
      rw [← all]
      exact ⟨List.prefix_refl _, Nat.le_succ _⟩
  | emitting _ _ all | lost _ all =>
      rw [← all, List.length_append]
      exact ⟨List.prefix_append _ _, Nat.le_refl _⟩

end Reached

/-- A run of a measurer and what is left of it. -/
structure Books (config : Config) (first : View) (events : List Event) (m : Measurer) (v : View) :
    Prop where
  reached : Reached config (beganOf events) (ticksOf events) (handedOf events) v.now m.activity
  timely : ∀ start ∈ beganOf events, Timely (Due config start) (ticksOf events)
  past : ∀ tick ∈ ticksOf events, tick.1 ≤ v.now
  readings : m.readings.reverse = readingsOf (beganOf events) (ticksOf events)
  opened : m.activity ≠ .finished → v.output.writers = 1
  ended : m.activity = .finished → v.output.writers = 0
  delivered : v.output.reading = true →
    first.output.queue ++ handedOf events = takenOf events ++ v.output.queue

namespace Books

variable {first : View} {events more : List Event}

private theorem start {v : View} (own : v.output.writers = 1) : Books config v [] {} v where
  reached := .starting rfl rfl rfl
  timely _ found := nomatch found
  past _ found := nomatch found
  readings := rfl
  opened _ := own
  ended := nofun
  delivered _ := List.append_nil _

private theorem begin (books : Books config first events m v) (starting : m.activity = .starting)
    (log : Log) :
    Books config first (events ++ [.began v.now])
      { m with activity := .ticking, readings := .enable :: m.readings } { v with log } := by
  have reached := books.reached
  rw [starting] at reached
  cases reached with
  | starting fresh none silent =>
      have began : beganOf (events ++ [.began v.now]) = [v.now] := by
        rw [beganOf_concat, fresh]
        rfl
      have ticks : ticksOf (events ++ [.began v.now]) = [] := by
        rw [ticksOf_concat, none]
        rfl
      have handed : handedOf (events ++ [.began v.now]) = [] := by
        rw [handedOf_concat, silent]
        rfl
      have readings := books.readings
      rw [fresh, none] at readings
      constructor
      · rw [began, ticks, handed]
        refine .ticking rfl (Nat.le_of_eq ?_) rfl
        rw [List.length_nil, Nat.zero_mul, Nat.add_zero]
      · rw [ticks]
        exact fun _ _ => .nil
      · rw [ticks]
        exact fun _ found => nomatch found
      · rw [began, ticks, List.reverse_cons, readings]
        rfl
      · exact fun _ => books.opened (starting ▸ nofun)
      · exact nofun
      · intro reading
        simpa using books.delivered reading

private theorem sample (books : Books config first events m v) {ends : Nanos}
    (waiting : m.activity = .waiting ends) (due : ends ≤ v.now) :
    Books config first (events ++ [.ticked v.now (m.sample config v.now)])
      { m with
        activity := .emitting (m.sample config v.now)
        readings := .tcpStats :: .congestion :: m.readings } v := by
  have reached := books.reached
  rw [waiting] at reached
  cases reached with
  | waiting one spaced all =>
      have distant := Nat.le_trans spaced due
      have ticks : ticksOf (events ++ [.ticked v.now (m.sample config v.now)]) =
          ticksOf events ++ [(v.now, m.sample config v.now)] := ticksOf_concat _ _
      have began : beganOf (events ++ [.ticked v.now (m.sample config v.now)]) =
          beganOf events := by simp
      have handed : handedOf (events ++ [.ticked v.now (m.sample config v.now)]) =
          handedOf events := by simp
      have readings := books.readings
      constructor
      · rw [began, ticks, handed]
        refine .emitting one ?_ ?_
        · rw [List.length_append]
          exact distant
        · rw [List.map_append, ← all]
          rfl
      · rw [began, ticks]
        intro start found
        refine (books.timely start found).concat (due_sample readings ?_ books.past)
        rw [one] at found
        rw [List.mem_singleton.mp found]
        exact distant
      · rw [ticks]
        intro tick found
        rcases List.mem_append.mp found with early | here
        · exact books.past tick early
        · obtain rfl := List.mem_singleton.mp here
          exact Nat.le_refl v.now
      · rw [began, ticks, List.reverse_cons, List.reverse_cons, readings, readingsOf_concat,
          List.append_assoc]
        rfl
      · exact fun _ => books.opened (waiting ▸ nofun)
      · exact nofun
      · intro reading
        simpa using books.delivered reading

private theorem hand (books : Books config first events m v) {sample : Measurement}
    {output : Channel Measurement} (emitting : m.activity = .emitting sample)
    (sent : v.output.send? sample = some (.accepted, output)) :
    Books config first (events ++ [.handed sample]) { m with activity := .ticking }
      { v with output } := by
  have reached := books.reached
  rw [emitting] at reached
  cases reached with
  | emitting one since all =>
      obtain rfl := Channel.eq_of_send?_accepted sent
      have ticks : ticksOf (events ++ [.handed sample]) = ticksOf events := by simp
      have began : beganOf (events ++ [.handed sample]) = beganOf events := by simp
      have handed : handedOf (events ++ [.handed sample]) = handedOf events ++ [sample] :=
        handedOf_concat _ _
      have taken : takenOf (events ++ [.handed sample]) = takenOf events := by simp
      constructor
      · rw [began, ticks, handed]
        exact .ticking one since all
      · rw [began, ticks]
        exact books.timely
      · rw [ticks]
        exact books.past
      · rw [began, ticks]
        exact books.readings
      · exact fun _ => books.opened (emitting ▸ nofun)
      · exact nofun
      · intro reading
        have before := books.delivered reading
        rw [handed, taken, ← List.append_assoc, before, List.append_assoc]

private theorem act (books : Books config first events m v) (acted : Acted config m v more next) :
    Books config first (events ++ more) next.1 next.2 := by
  cases acted with
  | @begin log starting => exact books.begin starting log
  | rest ticking goesOn =>
      have reached := books.reached
      rw [ticking] at reached
      rw [List.append_nil]
      cases reached with
      | ticking one since all =>
          have spaced := Nat.add_le_add since
            (config.sampling.least_le_bounded (config.draws m.drawn))
          rw [Nat.add_assoc, ← Nat.succ_mul] at spaced
          exact
            { books with
              reached := .waiting one spaced all
              opened := fun _ => books.opened (ticking ▸ nofun)
              ended := nofun }
  | sample waiting goesOn due => exact books.sample waiting due
  | hand emitting sent => exact books.hand emitting sent
  | stop started running =>
      have writers := books.opened running
      rw [List.append_nil]
      exact
        { books with
          reached := books.reached.stop started
          opened := fun goesOn => absurd rfl goesOn
          ended := fun _ => congrArg (· - 1) writers }

private theorem aside {w : View} (books : Books config first events m v)
    (noStart : beganOf more = [])
    (noTick : ticksOf more = []) (nothing : handedOf more = []) (later : v.now ≤ w.now)
    (writers : w.output.writers = v.output.writers)
    (delivered : w.output.reading = true →
      first.output.queue ++ handedOf events = takenOf (events ++ more) ++ w.output.queue) :
    Books config first (events ++ more) m w := by
  have began : beganOf (events ++ more) = beganOf events := by
    rw [beganOf, List.filterMap_append, ← beganOf, ← beganOf, noStart, List.append_nil]
  have ticks : ticksOf (events ++ more) = ticksOf events := by
    rw [ticksOf, List.filterMap_append, ← ticksOf, ← ticksOf, noTick, List.append_nil]
  have handed : handedOf (events ++ more) = handedOf events := by
    rw [handedOf, List.filterMap_append, ← handedOf, ← handedOf, nothing, List.append_nil]
  constructor
  · rw [began, ticks, handed]
    exact books.reached.mono later
  · rw [began, ticks]
    exact books.timely
  · rw [ticks]
    exact fun tick found => Nat.le_trans (books.past tick found) later
  · rw [began, ticks]
    exact books.readings
  · rw [writers]
    exact books.opened
  · rw [writers]
    exact books.ended
  · rw [handed]
    exact delivered

private theorem step {s : Measurer × View} (valid : config.sampling.validate = .ok ())
    (books : Books config first events m v) (step : Step config (m, v) more s) :
    Books config first (events ++ more) s.1 s.2 := by
  cases step with
  | move moved => exact books.act ((mem_moves_iff.mp moved).acted valid)
  | @take sample output taken =>
      obtain ⟨queued, same⟩ := Channel.take?_eq_some taken
      dsimp only at queued same
      refine books.aside rfl rfl rfl (Nat.le_refl _) (by rw [same]) fun there => ?_
      have before := books.delivered (by rw [same] at there; exact there)
      rw [takenOf_concat, List.append_assoc, before, queued]
      rfl
  | leave => exact books.aside rfl rfl rfl (Nat.le_refl _) rfl nofun
  | outside later bound cancelled =>
      refine books.aside rfl rfl rfl later rfl fun there => ?_
      rw [List.append_nil]
      exact books.delivered there

end Books

private theorem books_of_run {first : View} {events : List Event}
    (valid : config.sampling.validate = .ok ()) (own : first.output.writers = 1)
    (run : Run (Step config) ({}, first) events (m, v)) : Books config first events m v :=
  run.keeps (fun events s => Books config first events s.1 s.2) (.start own)
    fun books step => books.step valid step

/-! ### After the end of the context -/

/-- The samples that a measurer has in its hands. -/
def inHand (m : Measurer) : Nat :=
  match m.activity with
  | .emitting _ => 1
  | _ => 0

private theorem inHand_le_one (m : Measurer) : inHand m ≤ 1 := by
  unfold inHand
  split <;> decide

/-- A measurer whose context is done takes no sample, and hands on what is in its hands only. -/
private theorem Acted.closing {events : List Event} (acted : Acted config m v events next)
    (done : v.context.isDone v.now = true) :
    ticksOf events = [] ∧ (handedOf events).length + inHand next.1 ≤ inHand m := by
  cases acted with
  | begin | stop => exact ⟨rfl, Nat.zero_le _⟩
  | rest _ goesOn | sample _ goesOn => exact nomatch done.symm.trans goesOn
  | hand emitting =>
      refine ⟨rfl, ?_⟩
      simp only [inHand, emitting]
      exact Nat.le_refl 1

/-- What is still shown by a measurer whose context is done. -/
structure Closing (more : List Event) (m : Measurer) (v : View) : Prop where
  done : v.context.isDone v.now = true
  noTick : ticksOf more = []
  few : (handedOf more).length + inHand m ≤ 1

private theorem Closing.step {shown more : List Event} (valid : config.sampling.validate = .ok ())
    (closing : Closing shown m v) (step : Step config (m, v) more next) :
    Closing (shown ++ more) next.1 next.2 := by
  obtain ⟨done, noTick, few⟩ := closing
  have ticks : ticksOf (shown ++ more) = ticksOf more := by
    rw [ticksOf, List.filterMap_append, ← ticksOf, ← ticksOf, noTick, List.nil_append]
  have handed : handedOf (shown ++ more) = handedOf shown ++ handedOf more :=
    List.filterMap_append
  rw [← List.append_nil (handedOf shown)] at few
  cases step with
  | move moved =>
      have acted := (mem_moves_iff.mp moved).acted valid
      obtain ⟨time, context⟩ := acted.same
      obtain ⟨noMore, fewer⟩ := acted.closing done
      refine ⟨by rw [time, context]; exact done, ticks.trans noMore, ?_⟩
      rw [handed, List.length_append]
      rw [List.append_nil] at few
      dsimp only at fewer ⊢
      omega
  | take | leave => exact ⟨done, ticks, handed ▸ few⟩
  | outside later bound cancelled =>
      exact ⟨Context.isDone_mono bound later cancelled done, ticks, handed ▸ few⟩

private theorem closing_of_run {events : List Event} {m' : Measurer} {v' : View}
    (valid : config.sampling.validate = .ok ()) (done : v.context.isDone v.now = true)
    (run : Run (Step config) (m, v) events (m', v')) : Closing events m' v' :=
  run.keeps (fun events s => Closing events s.1 s.2)
    ⟨done, rfl, by rw [handedOf, List.filterMap_nil, List.length_nil, Nat.zero_add]
                   exact inHand_le_one m⟩
    fun closing step => closing.step valid step

/-! ### Main result -/

private theorem rising_of_timely {start : Nanos} (timely : Timely (Due config start) ticks) :
    ticks.Pairwise fun earlier later => earlier.1 ≤ later.1 :=
  timely.pairwise fun _ _ _ due => due.later

/-- The elapsed times in the samples never decrease before their counter overflows. -/
theorem elapsedTimes_le {start : Nanos} (timely : Timely (Due config start) ticks)
    (short : ∀ tick ∈ ticks, elapsedSince config.start tick.1 < microsOverflow) :
    (ticks.map (·.2)).Pairwise fun earlier later =>
      ∀ a ∈ elapsedTimes earlier, ∀ b ∈ elapsedTimes later, a ≤ b := by
  have told : ∀ tick ∈ ticks, ∀ time ∈ elapsedTimes tick.2,
      time = micros (elapsedSince config.start tick.1) := by
    intro tick found time there
    obtain ⟨early, late, split⟩ := List.append_of_mem found
    exact (timely early tick late split).eq_of_mem_elapsedTimes there
  refine List.pairwise_map.mpr ((rising_of_timely timely).imp_of_mem ?_)
  intro earlier later first second le a inFirst b inSecond
  rw [told earlier first a inFirst, told later second b inSecond]
  exact micros_mono (elapsedSince_mono config.start le) (short later second)

/-- **Samples follow the ticks.** With valid intervals, no tick comes before sampling has begun,
and at each one is due what its place among the ticks says (`Due`): the n-th comes no earlier than
n times the least interval after the beginning, and its sample holds what the n-th reading of
either kind has given, the congestion estimate being read first. A beginning of the samples is
handed on, all of them but the last one at most, and their elapsed times never decrease if the
ticks come before the counter of microseconds overflows. The output has ended exactly when the
measurer has finished, and a measurer that has not waits for nothing but its next tick and its
consumer. Once the context is done, no tick comes, at most one more sample is handed on, and the
measurer does not wait before it finishes, with less to do after every move. -/
theorem samples_follow_ticks {first v : View} {events : List Event}
    (valid : config.sampling.validate = .ok ()) (own : first.output.writers = 1)
    (run : Run (Step config) ({}, first) events (m, v)) :
    (beganOf events = [] ∧ ticksOf events = [] ∨
        ∃ start, beganOf events = [start] ∧ Timely (Due config start) (ticksOf events)) ∧
      m.readings.reverse = readingsOf (beganOf events) (ticksOf events) ∧
      handedOf events <+: (ticksOf events).map (·.2) ∧
      (ticksOf events).length ≤ (handedOf events).length + 1 ∧
      ((∀ tick ∈ ticksOf events, elapsedSince config.start tick.1 < microsOverflow) →
        (handedOf events).Pairwise fun earlier later =>
          ∀ a ∈ elapsedTimes earlier, ∀ b ∈ elapsedTimes later, a ≤ b) ∧
      (v.output.reading = true →
        first.output.queue ++ handedOf events = takenOf events ++ v.output.queue) ∧
      (v.output.writers = 0 ↔ m.activity = .finished) ∧
      (m.moves config v = [] → m.activity = .finished ∨
        (v.context.isDone v.now = false ∧
          ((∃ ends, m.activity = .waiting ends ∧ v.now < ends) ∨
            ∃ sample, m.activity = .emitting sample ∧ v.output.ready = false))) ∧
      (v.context.isDone v.now = true → ∀ more m' v', Run (Step config) (m, v) more (m', v') →
        ticksOf more = [] ∧ (handedOf more).length ≤ 1 ∧
          (m'.moves config v' = [] → m'.activity = .finished ∧ v'.output.writers = 0) ∧
          ∀ next ∈ m'.moves config v', work next.1 < work m') := by
  have books := books_of_run valid own run
  obtain ⟨inOrder, few⟩ := books.reached.all_but_one
  have started := books.reached.began_once
  refine ⟨?_, books.readings, inOrder, few, fun short => ?_, books.delivered, ⟨fun closed => ?_,
    books.ended⟩, resting, fun done more m' v' onward => ?_⟩
  · rcases started with nothing | ⟨start, one⟩
    · exact .inl nothing
    · refine .inr ⟨start, one, books.timely start ?_⟩
      rw [one]
      exact List.mem_singleton_self _
  · rcases started with ⟨-, nothing⟩ | ⟨start, one⟩
    · rw [nothing] at inOrder
      rw [List.prefix_nil.mp inOrder]
      exact .nil
    · have timely := books.timely start (by rw [one]; exact List.mem_singleton_self _)
      exact (elapsedTimes_le timely short).sublist inOrder.sublist
  · by_contra running
    exact nomatch closed.symm.trans (books.opened running)
  · have closing := closing_of_run valid done onward
    have later := books_of_run valid own (run.trans onward)
    refine ⟨closing.noTick, Nat.le_trans (Nat.le_add_right _ _) closing.few, fun stuck => ?_,
      fun next moved => ((mem_moves_iff.mp moved).acted valid).work_lt closing.done⟩
    have finished := finished_of_done closing.done stuck
    exact ⟨finished, later.ended finished⟩

/-- A measurer whose consumer takes what it can, with what has happened. -/
def attended (config : Config) : Machine (List Event × Measurer × View) where
  step? s :=
    match (s.2.1.moves config s.2.2).head? with
    | some next => some (s.1 ++ shown s.2.1 s.2.2 next.1, next)
    | none => s.2.2.output.take?.map fun (sample, output) =>
        (s.1 ++ [.taken sample], s.2.1, { s.2.2 with output })
  alarms s := s.2.1.alarms s.2.2
  now s := s.2.2.now
  advance s now := (s.1, s.2.1, { s.2.2 with now })

private theorem run_attended (config : Config) (first : View) (steps : Nat) :
    Run (Step config) ({}, first) ((attended config).run steps ([], {}, first)).1
      ((attended config).run steps ([], {}, first)).2 := by
  refine Run.record (s := ([], {}, first)) .stay (attended config) ?_ ?_ steps
  · intro s t moved
    simp only [attended] at moved
    split at moved
    · next next there =>
        obtain rfl := Option.some.inj moved
        exact ⟨_, rfl, .move (List.mem_of_mem_head? there)⟩
    · obtain ⟨⟨sample, output⟩, taken, rfl⟩ := Option.map_eq_some_iff.mp moved
      exact ⟨_, rfl, .take taken⟩
  · intro s time alarm
    exact ⟨[], (List.append_nil _).symm, .outside (Machine.le_of_nextAlarm? alarm) rfl id⟩

/-- A measurer that samples every other millisecond. -/
def steady (start : Int) : Config where
  subtest := .download
  identity := { client := "c", server := "s", uuid := "u" }
  sampling := ⟨millis 2, millis 2, millis 2⟩
  instrument := { congestion := fun _ => some {}, tcpStats := fun _ => some {} }
  draws _ := 0
  start

/-- What a measurer shares at its start with a context of five milliseconds. -/
def brief : View where
  now := 0
  context := ⟨millis 5, false⟩
  output := {}
  log := []

/-- A sample at every tick, with the time that has elapsed in all of its parts. -/
theorem samples_follow_ticks_steady : ∃ events m v,
    (steady 0).sampling.validate = .ok () ∧ brief.output.writers = 1 ∧
      Run (Step (steady 0)) ({}, brief) events (m, v) ∧
      (handedOf events).map elapsedTimes = [[2000, 2000], [4000, 4000]] ∧
      (handedOf events).length ≤ (ticksOf events).length := by
  have run := run_attended (steady 0) brief 12
  have times : (handedOf ((attended (steady 0)).run 12 ([], {}, brief)).1).map elapsedTimes =
      [[2000, 2000], [4000, 4000]] := by
    decide +kernel
  generalize (attended (steady 0)).run 12 ([], {}, brief) = s at run times
  obtain ⟨events, m, v⟩ := s
  obtain ⟨-, -, inOrder, -⟩ := samples_follow_ticks rfl rfl run
  refine ⟨events, m, v, rfl, rfl, run, times, ?_⟩
  have few := inOrder.length_le
  rwa [List.length_map] at few

/-- The start of a subtest so long before that the counter of microseconds overflows between two
ticks. -/
def longAgo : Int := -(millis 9223372036854773 : Nat)

/-- An elapsed time decreases when its counter overflows. -/
theorem elapsedTimes_overflow : ∃ events m v,
    (steady longAgo).sampling.validate = .ok () ∧ brief.output.writers = 1 ∧
      Run (Step (steady longAgo)) ({}, brief) events (m, v) ∧
      (handedOf events).map elapsedTimes =
        [[9223372036854775000, 9223372036854775000],
          [-9223372036854774616, -9223372036854774616]] ∧
      ¬ (handedOf events).Pairwise fun earlier later =>
        ∀ a ∈ elapsedTimes earlier, ∀ b ∈ elapsedTimes later, a ≤ b := by
  have run := run_attended (steady longAgo) brief 12
  have times : (handedOf ((attended (steady longAgo)).run 12 ([], {}, brief)).1).map elapsedTimes =
      [[9223372036854775000, 9223372036854775000],
        [-9223372036854774616, -9223372036854774616]] := by
    decide +kernel
  generalize (attended (steady longAgo)).run 12 ([], {}, brief) = s at run times
  obtain ⟨events, m, v⟩ := s
  refine ⟨events, m, v, rfl, rfl, run, times, fun rising => ?_⟩
  have pairs : ((handedOf events).map elapsedTimes).Pairwise fun earlier later =>
      ∀ a ∈ earlier, ∀ b ∈ later, a ≤ b := List.pairwise_map.mpr rising
  rw [times] at pairs
  have risen := List.rel_of_pairwise_cons pairs (List.mem_singleton_self _) _ (.head _) _ (.head _)
  exact absurd risen (by decide)

end LinkGauge.Measurer
