import LinkGauge.Config.Resolve
import LinkGauge.Proofs.Config.Label
import LinkGauge.Proofs.Measurer
import LinkGauge.Session

/-!
# Settings that are accepted

Settings are resolved if and only if all of their groups fit together
(`Settings.exists_resolved_iff`), and otherwise the error is that of the first group that does not
(`Settings.resolve_eq_error_iff_first`). What is given is kept, and no stage of a test has to check
it again (`Settings.sound_of_resolve`).
-/

namespace LinkGauge

variable {s : Settings}

namespace Settings

/-! ## What the settings say -/

/-- Whether a text is an endpoint with white space around it. -/
def Listens (text : String) (endpoint : Endpoint) : Prop :=
  ∃ inner, Text.Trims text.toList inner ∧ Endpoint.ofText? (String.ofList inner) = some endpoint

/-- The sampling intervals in force. -/
def intervals (s : Settings) : Sampling where
  least := millis (s.sampling.least.getD 100)
  expected := millis (s.sampling.expected.getD 250)
  greatest := millis (s.sampling.greatest.getD 500)

/-- The time after which sampling stops. -/
def defaultRuntime (s : Settings) : Nanos := millis (s.runtime.defaultRuntime.getD 10000)

/-- The time after which a test ends at the latest. -/
def maxRuntime (s : Settings) : Nanos := millis (s.runtime.maxRuntime.getD 15000)

/-- The time that one write may take. -/
def ioTimeout (s : Settings) : Nanos := millis (s.runtime.ioTimeout.getD 7000)

/-- The sizes of filler in force. -/
def sizes (s : Settings) : FillerSizes where
  least := s.filler.least.getD 1024
  initial := s.filler.initial.getD 8192
  greatest := s.filler.greatest.getD 16777216
  scaled := s.filler.scaled.getD 1048576
  fraction := max (s.filler.fraction.getD 16) 1

/-- The groups of settings. -/
inductive Group where
  | address
  | sampling
  | runtime
  | filler
  | labels
  deriving DecidableEq

/-- The groups in the order in which they are checked. -/
def Group.all : List Group := [.address, .sampling, .runtime, .filler, .labels]

/-- When a group fits together. -/
def Fits (s : Settings) : Group → Prop
  | .address => ∀ text, s.listen = some text → ∃ endpoint, Listens text endpoint
  | .sampling =>
    0 < s.intervals.expected ∧ s.intervals.least ≤ s.intervals.expected ∧
      s.intervals.expected ≤ s.intervals.greatest
  | .runtime =>
    0 < s.defaultRuntime ∧ 0 < s.ioTimeout ∧ s.defaultRuntime ≤ s.maxRuntime
  | .filler =>
    0 < s.sizes.least ∧ s.sizes.least ≤ s.sizes.initial ∧ s.sizes.initial ≤ s.sizes.greatest ∧
      s.sizes.scaled ≤ s.sizes.greatest
  | .labels => ∀ entry ∈ s.labels.entries, LabelKey entry.1

/-- Why a group does not fit together. -/
inductive Misfit (s : Settings) : Group → ConfigError → Prop where
  | address {text : String} (given : s.listen = some text)
      (unread : ∀ endpoint, ¬ Listens text endpoint) : Misfit s .address (.listenAddress text)
  | zeroExpected (zero : s.intervals.expected = 0) :
      Misfit s .sampling (.sampling .zeroExpected)
  | unordered (positive : s.intervals.expected ≠ 0)
      (disorder : s.intervals.expected < s.intervals.least ∨
        s.intervals.greatest < s.intervals.expected) :
      Misfit s .sampling (.sampling (.unordered s.intervals))
  | zeroRuntime (zero : s.defaultRuntime = 0 ∨ s.ioTimeout = 0) : Misfit s .runtime .zeroRuntime
  | runtimeOrder (positive : ¬ (s.defaultRuntime = 0 ∨ s.ioTimeout = 0))
      (late : s.maxRuntime < s.defaultRuntime) :
      Misfit s .runtime (.runtimeOrder s.defaultRuntime s.maxRuntime)
  | fillerOrder
      (disorder : s.sizes.least = 0 ∨ s.sizes.initial < s.sizes.least ∨
        s.sizes.greatest < s.sizes.initial) :
      Misfit s .filler (.fillerOrder s.sizes)
  | fillerScale
      (ordered : ¬ (s.sizes.least = 0 ∨ s.sizes.initial < s.sizes.least ∨
        s.sizes.greatest < s.sizes.initial))
      (above : s.sizes.greatest < s.sizes.scaled) : Misfit s .filler .fillerScale
  | labelKey {front back : List (String × String)} {key value : String}
      (entries : s.labels.entries = front ++ (key, value) :: back)
      (sound : ∀ entry ∈ front, LabelKey entry.1) (unfit : ¬ LabelKey key) :
      Misfit s .labels (.labelKey key)

private theorem listens_iff {text : String} {endpoint : Endpoint} :
    Listens text endpoint ↔ Endpoint.ofText? (Text.trimmed text) = some endpoint := by
  constructor
  · rintro ⟨inner, trims, read⟩
    rw [Text.trimmed, Text.trim_eq_iff.mpr trims, read]
  · intro read
    exact ⟨_, Text.trims_trim _, read⟩

private theorem span_millis (given : Option Nat) (n : Nat) :
    span given (millis n) = millis (given.getD n) := by
  cases given <;> rfl

/-- The endpoint to listen on, or the usual one where the text is none. -/
def endpoint (s : Settings) : Endpoint :=
  match s.listenEndpoint ({} : ServerConfig).listen with
  | .ok endpoint => endpoint
  | .error _ => ({} : ServerConfig).listen

/-- The configuration that settings ask for. -/
def wanted (s : Settings) : ServerConfig where
  listen := s.endpoint
  dataDir := s.dataDir.getD "./data"
  compress := s.compress.getD true
  instrumentation := s.instrumentation.getD .kernel
  maxMessageSize := max (s.maxMessageSize.getD 16777216) 1024
  sampling := s.intervals
  defaultRuntime := s.defaultRuntime
  maxRuntime := s.maxRuntime
  ioTimeout := s.ioTimeout
  filler := s.sizes
  labels := s.labels

private theorem completed_endpoint (s : Settings) : s.completed s.endpoint = s.wanted := by
  have ten : seconds 10 = millis 10000 := rfl
  have fifteen : seconds 15 = millis 15000 := rfl
  have seven : seconds 7 = millis 7000 := rfl
  simp only [completed, wanted, intervals, defaultRuntime, maxRuntime, ioTimeout, sizes,
    span_millis, ten, fifteen, seven]

/-! ## One group after the other -/

end Settings

/-- The check of one group of a configuration. -/
def ServerConfig.verdict (c : ServerConfig) : Settings.Group → Except ConfigError Unit
  | .address => .ok ()
  | .sampling => c.sampling.validate.mapError .sampling
  | .runtime =>
    if c.defaultRuntime = 0 ∨ c.ioTimeout = 0 then .error .zeroRuntime
    else if c.maxRuntime < c.defaultRuntime then
      .error (.runtimeOrder c.defaultRuntime c.maxRuntime)
    else .ok ()
  | .filler =>
    if c.filler.least = 0 ∨ c.filler.initial < c.filler.least ∨
        c.filler.greatest < c.filler.initial then
      .error (.fillerOrder c.filler)
    else if c.filler.greatest < c.filler.scaled then .error .fillerScale
    else .ok ()
  | .labels =>
    match c.labels.entries.find? fun entry => !isLabelKey entry.1 with
    | some (key, _) => .error (.labelKey key)
    | none => .ok ()

private theorem ServerConfig.check_eq (c : ServerConfig) :
    c.check = forM [Settings.Group.sampling, .runtime, .filler, .labels] c.verdict := by
  simp only [check, List.forM_cons, List.forM_nil, verdict]
  cases c.sampling.validate with
  | error e => rfl
  | ok _ =>
      by_cases zero : c.defaultRuntime = 0 ∨ c.ioTimeout = 0
      · simp only [zero, ↓reduceIte]
        rfl
      by_cases late : c.maxRuntime < c.defaultRuntime
      · simp only [zero, late, ↓reduceIte]
        rfl
      by_cases disorder : c.filler.least = 0 ∨ c.filler.initial < c.filler.least ∨
          c.filler.greatest < c.filler.initial
      · simp only [zero, late, disorder, ↓reduceIte]
        rfl
      by_cases above : c.filler.greatest < c.filler.scaled
      · simp only [zero, late, disorder, above, ↓reduceIte]
        rfl
      simp only [zero, late, disorder, above, ↓reduceIte]
      cases c.labels.entries.find? fun entry => !isLabelKey entry.1 <;> rfl

namespace Settings

/-- The check of one group of settings. -/
def verdict (s : Settings) : Group → Except ConfigError Unit
  | .address => (s.listenEndpoint ({} : ServerConfig).listen).map fun _ => ()
  | .sampling => s.wanted.verdict .sampling
  | .runtime => s.wanted.verdict .runtime
  | .filler => s.wanted.verdict .filler
  | .labels => s.wanted.verdict .labels

/-- A group either passes its check and fits together, or is refused for what is wrong with it. -/
inductive Judged (s : Settings) (group : Group) : Except ConfigError Unit → Prop where
  | fits (fits : s.Fits group) : Judged s group (.ok ())
  | misfit {error : ConfigError} (misfit : s.Misfit group error) : Judged s group (.error error)

private theorem judged_address : Judged s .address (s.verdict .address) := by
  rw [verdict, listenEndpoint]
  cases given : s.listen with
  | none => exact .fits fun text some => nomatch given.symm.trans some
  | some text =>
      dsimp only
      cases read : Endpoint.ofText? (Text.trimmed text) with
      | none =>
          have unread (endpoint : Endpoint) : ¬ Listens text endpoint := fun listens =>
            nomatch read.symm.trans (listens_iff.mp listens)
          exact .misfit (.address given unread)
      | some endpoint =>
          have fits : s.Fits .address := by
            intro other some
            cases Option.some.inj (given.symm.trans some)
            exact ⟨endpoint, listens_iff.mpr read⟩
          exact .fits fits

private theorem judged_sampling : Judged s .sampling (s.verdict .sampling) := by
  rw [verdict, ServerConfig.verdict, wanted, Sampling.validate]
  by_cases zero : s.intervals.expected = 0
  · rw [if_pos zero]
    exact .misfit (.zeroExpected zero)
  rw [if_neg zero]
  by_cases disorder : s.intervals.expected < s.intervals.least ∨
      s.intervals.greatest < s.intervals.expected
  · rw [if_pos disorder]
    exact .misfit (.unordered zero disorder)
  · rw [if_neg disorder]
    obtain ⟨above, below⟩ := not_or.mp disorder
    exact .fits ⟨Nat.pos_of_ne_zero zero, Nat.not_lt.mp above, Nat.not_lt.mp below⟩

private theorem judged_runtime : Judged s .runtime (s.verdict .runtime) := by
  rw [verdict, ServerConfig.verdict, wanted]
  by_cases zero : s.defaultRuntime = 0 ∨ s.ioTimeout = 0
  · rw [if_pos zero]
    exact .misfit (.zeroRuntime zero)
  rw [if_neg zero]
  by_cases late : s.maxRuntime < s.defaultRuntime
  · rw [if_pos late]
    exact .misfit (.runtimeOrder zero late)
  · rw [if_neg late]
    obtain ⟨runs, writes⟩ := not_or.mp zero
    exact .fits ⟨Nat.pos_of_ne_zero runs, Nat.pos_of_ne_zero writes, Nat.not_lt.mp late⟩

private theorem judged_filler : Judged s .filler (s.verdict .filler) := by
  rw [verdict, ServerConfig.verdict, wanted]
  by_cases disorder : s.sizes.least = 0 ∨ s.sizes.initial < s.sizes.least ∨
      s.sizes.greatest < s.sizes.initial
  · rw [if_pos disorder]
    exact .misfit (.fillerOrder disorder)
  rw [if_neg disorder]
  by_cases above : s.sizes.greatest < s.sizes.scaled
  · rw [if_pos above]
    exact .misfit (.fillerScale disorder above)
  · rw [if_neg above]
    exact .fits ⟨by omega, by omega, by omega, Nat.not_lt.mp above⟩

private theorem judged_labels : Judged s .labels (s.verdict .labels) := by
  rw [verdict, ServerConfig.verdict, wanted]
  cases found : s.labels.entries.find? fun entry => !isLabelKey entry.1 with
  | none =>
      refine .fits fun entry among => isLabelKey_iff.mp ?_
      simpa using List.find?_eq_none.mp found entry among
  | some entry =>
      obtain ⟨unfit, front, back, entries, sound⟩ := List.find?_eq_some_iff_append.mp found
      refine .misfit (.labelKey entries (fun earlier among => ?_) fun key => ?_)
      · exact isLabelKey_iff.mp (by simpa using sound earlier among)
      · rw [isLabelKey_iff.mpr key] at unfit
        exact nomatch unfit

private theorem judged (s : Settings) : (group : Group) → Judged s group (s.verdict group)
  | .address => judged_address
  | .sampling => judged_sampling
  | .runtime => judged_runtime
  | .filler => judged_filler
  | .labels => judged_labels

/-- What is wrong with a group keeps it from fitting together. -/
theorem Misfit.not_fits {group : Group} {error : ConfigError} (misfit : s.Misfit group error) :
    ¬ s.Fits group := by
  intro fits
  cases misfit with
  | address given unread =>
      obtain ⟨endpoint, listens⟩ := fits _ given
      exact unread endpoint listens
  | zeroExpected zero => exact Nat.ne_of_gt fits.1 zero
  | unordered _ disorder =>
      obtain ⟨-, least, greatest⟩ := fits
      exact disorder.elim (Nat.not_lt.mpr least) (Nat.not_lt.mpr greatest)
  | zeroRuntime zero =>
      obtain ⟨runs, writes, -⟩ := fits
      exact zero.elim (Nat.ne_of_gt runs) (Nat.ne_of_gt writes)
  | runtimeOrder _ late => exact Nat.not_lt.mpr fits.2.2 late
  | fillerOrder disorder =>
      obtain ⟨positive, least, initial, -⟩ := fits
      omega
  | fillerScale _ above => exact Nat.not_lt.mpr fits.2.2.2 above
  | @labelKey front back key value entries _ unfit =>
      have among : (key, value) ∈ s.labels.entries := by
        rw [entries]
        exact List.mem_append_right _ List.mem_cons_self
      exact unfit (fits _ among)

private theorem Misfit.refused {group : Group} {error : ConfigError}
    (misfit : s.Misfit group error) : s.verdict group = .error error := by
  cases misfit with
  | @address text given unread =>
      have read : Endpoint.ofText? (Text.trimmed text) = none :=
        Option.eq_none_iff_forall_ne_some.mpr fun endpoint some =>
          unread endpoint (listens_iff.mpr some)
      simp only [verdict, listenEndpoint, given, read, Except.map]
  | zeroExpected zero =>
      rw [verdict, ServerConfig.verdict, wanted, Sampling.validate, if_pos zero, Except.mapError]
  | unordered positive disorder =>
      rw [verdict, ServerConfig.verdict, wanted, Sampling.validate, if_neg positive,
        if_pos disorder, Except.mapError]
  | zeroRuntime zero =>
      rw [verdict, ServerConfig.verdict, wanted, if_pos zero]
  | runtimeOrder positive late =>
      rw [verdict, ServerConfig.verdict, wanted, if_neg positive, if_pos late]
  | fillerOrder disorder =>
      rw [verdict, ServerConfig.verdict, wanted, if_pos disorder]
  | fillerScale ordered above =>
      rw [verdict, ServerConfig.verdict, wanted, if_neg ordered, if_pos above]
  | @labelKey front back key value entries sound unfit =>
      have found :
          s.labels.entries.find? (fun entry => !isLabelKey entry.1) = some (key, value) := by
        refine List.find?_eq_some_iff_append.mpr ⟨?_, front, back, entries, fun entry among => ?_⟩
        · simpa using fun keyed => unfit (isLabelKey_iff.mp keyed)
        · simpa using isLabelKey_iff.mpr (sound entry among)
      simp only [verdict, ServerConfig.verdict, wanted, found]

private theorem verdict_eq_ok_iff {group : Group} : s.verdict group = .ok () ↔ s.Fits group := by
  have judged := judged s group
  constructor
  · intro passed
    rw [passed] at judged
    cases judged with
    | fits fits => exact fits
  · intro fits
    generalize s.verdict group = verdict at judged
    cases judged with
    | fits _ => rfl
    | misfit misfit => exact absurd fits misfit.not_fits

private theorem verdict_eq_error_iff {group : Group} {error : ConfigError} :
    s.verdict group = .error error ↔ s.Misfit group error := by
  refine ⟨fun refused => ?_, Misfit.refused⟩
  have judged := judged s group
  rw [refused] at judged
  cases judged with
  | misfit misfit => exact misfit

/-! ## All groups -/

private theorem resolve_eq (s : Settings) :
    s.resolve = (forM Group.all s.verdict).map fun _ => s.wanted := by
  rw [Group.all, List.forM_cons, verdict, resolve]
  cases read : s.listenEndpoint ({} : ServerConfig).listen with
  | error e => rfl
  | ok endpoint =>
      have wanted : s.completed endpoint = s.wanted := by
        rw [← completed_endpoint, Settings.endpoint, read]
      have checked : s.wanted.check = forM [Group.sampling, .runtime, .filler, .labels] s.verdict :=
        s.wanted.check_eq
      rw [Except.map, ok_bind, ok_bind, wanted]
      dsimp only
      rw [checked]
      cases forM [Group.sampling, .runtime, .filler, .labels] s.verdict <;> rfl

private theorem resolve_eq_error_iff {error : ConfigError} :
    s.resolve = .error error ↔ forM Group.all s.verdict = .error error := by
  rw [resolve_eq]
  cases forM Group.all s.verdict with
  | error e => simp only [Except.map, Except.error.injEq]
  | ok _ => exact ⟨nofun, nofun⟩

private theorem resolve_eq_ok_iff {c : ServerConfig} :
    s.resolve = .ok c ↔ forM Group.all s.verdict = .ok () ∧ s.wanted = c := by
  rw [resolve_eq]
  cases forM Group.all s.verdict with
  | error e => exact ⟨nofun, fun resolved => nomatch resolved.1⟩
  | ok _ => exact ⟨fun same => ⟨rfl, Except.ok.inj same⟩, fun resolved => congrArg _ resolved.2⟩

/-! ## What is accepted -/

/-- A configuration that has what is given, and the usual values for what is not. -/
structure Carried (s : Settings) (c : ServerConfig) : Prop where
  listen : ∀ text, s.listen = some text → Listens text c.listen
  listen_usual : s.listen = none → c.listen = .v4 ⟨0, 0, 0, 0⟩ 8080
  dataDir : c.dataDir = s.dataDir.getD "./data"
  compress : c.compress = s.compress.getD true
  instrumentation : c.instrumentation = s.instrumentation.getD .kernel
  maxMessageSize : c.maxMessageSize = max (s.maxMessageSize.getD 16777216) 1024
  sampling : c.sampling = s.intervals
  defaultRuntime : c.defaultRuntime = s.defaultRuntime
  maxRuntime : c.maxRuntime = s.maxRuntime
  ioTimeout : c.ioTimeout = s.ioTimeout
  filler : c.filler = s.sizes
  labels : c.labels = s.labels

/-- Resolving succeeds if and only if all groups fit together. -/
theorem exists_resolved_iff : (∃ c, s.resolve = .ok c) ↔ ∀ group, s.Fits group := by
  have all (group : Group) : group ∈ Group.all := by
    cases group <;> decide
  constructor
  · rintro ⟨c, resolved⟩ group
    have passed := forM_eq_ok_iff.mp (resolve_eq_ok_iff.mp resolved).1 group (all group)
    exact verdict_eq_ok_iff.mp passed
  · intro fits
    refine ⟨_, resolve_eq_ok_iff.mpr ⟨forM_eq_ok_iff.mpr fun group _ => ?_, rfl⟩⟩
    exact verdict_eq_ok_iff.mpr (fits group)

/-- Resolving fails with what is wrong with the first group that does not fit together. -/
theorem resolve_eq_error_iff_first {error : ConfigError} :
    s.resolve = .error error ↔
      ∃ earlier group later, Group.all = earlier ++ group :: later ∧
        (∀ passed ∈ earlier, s.Fits passed) ∧ ¬ s.Fits group ∧ s.Misfit group error := by
  rw [resolve_eq_error_iff, forM_eq_error_iff]
  refine exists_congr fun earlier => exists_congr fun group => exists_congr fun later => ?_
  refine and_congr_right fun _ => and_congr (forall₂_congr fun _ _ => verdict_eq_ok_iff) ?_
  rw [verdict_eq_error_iff]
  exact (and_iff_right_of_imp Misfit.not_fits).symm

private theorem carried_of_resolve {c : ServerConfig} (resolved : s.resolve = .ok c) :
    s.Carried c := by
  obtain ⟨-, rfl⟩ := resolve_eq_ok_iff.mp resolved
  have fits := exists_resolved_iff.mp ⟨_, resolved⟩ .address
  refine ⟨?_, ?_, rfl, rfl, rfl, rfl, rfl, rfl, rfl, rfl, rfl, rfl⟩
  · intro text given
    obtain ⟨endpoint, listens⟩ := fits text given
    have read := listens_iff.mp listens
    simp only [wanted, Settings.endpoint, listenEndpoint, given, read]
    exact listens
  · intro given
    simp only [wanted, Settings.endpoint, listenEndpoint, given]

end Settings

/-- Sizes that fit together. -/
structure FillerSizes.Fit (s : FillerSizes) : Prop where
  least_pos : 0 < s.least
  least_le : s.least ≤ s.initial
  initial_le : s.initial ≤ s.greatest
  scaled_le : s.scaled ≤ s.greatest
  fraction_pos : 0 < s.fraction

/-- A configuration with which no stage of a test has to fail. -/
structure ServerConfig.Sound (c : ServerConfig) : Prop where
  sizes : c.filler.Fit
  valid : c.sampling.validate = .ok ()
  least_le_greatest : c.sampling.least ≤ c.sampling.greatest
  bounded (drawn : Nanos) :
    c.sampling.least ≤ c.sampling.bounded drawn ∧ c.sampling.bounded drawn ≤ c.sampling.greatest
  /-- The measurer goes on to its first tick. -/
  samples (session : Session) (configured : session.visit.config = c) (draws : Nat → Nanos)
    (view : Measurer.View) :
    ∃ log, Measurer.moves (session.pipelineConfig draws).measurer {} view =
      [({ activity := .ticking, readings := [.enable] }, { view with log })]
  /-- Sampling is bounded by what bounds the test, and has its whole time if it begins with it. -/
  derived (test : Context) (now : Nanos) :
    (test.child now c.defaultRuntime).deadline ≤ test.deadline ∧
      (test.deadline = now + c.maxRuntime →
        (test.child now c.defaultRuntime).deadline = now + c.defaultRuntime)
  bounds (session : Session) (configured : session.visit.config = c) (draws : Nat → Nanos)
    (wire : Wire) :
    (session.pipeline draws wire).samplingContext.deadline = c.defaultRuntime ∧
      (session.pipeline draws wire).context.deadline = c.maxRuntime ∧
      c.defaultRuntime ≤ c.maxRuntime

namespace Settings

private theorem valid_of_resolve {c : ServerConfig} (resolved : s.resolve = .ok c) :
    c.sampling.validate = .ok () := by
  have passed : s.intervals.validate.mapError ConfigError.sampling = .ok () :=
    verdict_eq_ok_iff.mpr (exists_resolved_iff.mp ⟨_, resolved⟩ .sampling)
  rw [(carried_of_resolve resolved).sampling]
  cases valid : s.intervals.validate with
  | error e =>
      rw [valid] at passed
      exact nomatch passed
  | ok _ => rfl

/-- The filler of a configuration that was resolved is fit. -/
theorem fit_of_resolve {config : ServerConfig} (resolved : s.resolve = .ok config) :
    config.filler.Fit := by
  obtain ⟨least, initial, greatest, scaled⟩ := exists_resolved_iff.mp ⟨_, resolved⟩ .filler
  rw [(carried_of_resolve resolved).filler]
  exact ⟨least, initial, greatest, scaled, Nat.le_max_right _ _⟩

/-- A configuration that was resolved is sound. -/
theorem sound_of_resolve {c : ServerConfig} (resolved : s.resolve = .ok c) :
    c.Sound := by
  have carried := carried_of_resolve resolved
  have fits := exists_resolved_iff.mp ⟨_, resolved⟩
  have valid := valid_of_resolve resolved
  have ordered : c.sampling.least ≤ c.sampling.greatest := by
    rw [carried.sampling]
    obtain ⟨-, least, greatest⟩ := fits .sampling
    exact Nat.le_trans least greatest
  have early : c.defaultRuntime ≤ c.maxRuntime := by
    rw [carried.defaultRuntime, carried.maxRuntime]
    exact (fits .runtime).2.2
  refine ⟨fit_of_resolve resolved, valid, ordered, fun drawn => ?_, ?_, fun test now => ?_, ?_⟩
  · exact ⟨Sampling.least_le_bounded _ _, Nat.max_le.mpr ⟨ordered, Nat.min_le_right _ _⟩⟩
  · rintro session rfl draws view
    have valid : (session.pipelineConfig draws).measurer.sampling.validate = .ok () := valid
    obtain ⟨log, begins⟩ := Measurer.begin_of_valid valid {} view
    exact ⟨log, congrArg (fun next => [next]) begins⟩
  · refine ⟨Nat.min_le_left _ _, fun whole => ?_⟩
    rw [Context.child, whole]
    exact Nat.min_eq_right (Nat.add_le_add_left early now)
  · rintro session rfl draws wire
    exact ⟨Nat.min_eq_right early, rfl, early⟩

/-- Settings are accepted if and only if every group of them fits together, and refused for the
first group that does not. An accepted configuration has what is given, a fraction of one and a
size of messages of 1024 at least, and no stage of a test fails because of it. -/
theorem accepts_exactly_fitting (s : Settings) :
    ((∃ c, s.resolve = .ok c) ↔ ∀ group, s.Fits group) ∧
      (∀ error, s.resolve = .error error ↔
        ∃ earlier group later, Group.all = earlier ++ group :: later ∧
          (∀ passed ∈ earlier, s.Fits passed) ∧ ¬ s.Fits group ∧ s.Misfit group error) ∧
      ∀ c, s.resolve = .ok c → s.Carried c ∧ c.Sound :=
  ⟨exists_resolved_iff, fun _ => resolve_eq_error_iff_first,
    fun _ resolved => ⟨carried_of_resolve resolved, sound_of_resolve resolved⟩⟩

/-- Settings on the very bounds of what is accepted. -/
def tight : Settings where
  listen := some "\t[::1]:0 "
  maxMessageSize := some 0
  sampling := { least := some 1, expected := some 1, greatest := some 1 }
  runtime := { defaultRuntime := some 1, maxRuntime := some 1, ioTimeout := some 1 }
  filler :=
    { least := some 1, initial := some 1, greatest := some 1, scaled := some 1, fraction := some 0 }
  labels := TextMap.empty.insert "site_1-A" ""

/-- Settings at their bounds are accepted. -/
theorem accepts_exactly_fitting_tight :
    ∃ c, tight.resolve = .ok c ∧ c.maxMessageSize = 1024 ∧ c.filler.fraction = 1 ∧
      tight.Carried c ∧ c.Sound := by
  have resolved : ∃ c, tight.resolve = .ok c := by
    refine (accepts_exactly_fitting tight).1.mpr fun group => ?_
    cases group with
    | address =>
        intro text given
        cases given
        exact ⟨.v6 ⟨⟨#[0, 0, 0, 0, 0, 0, 0, 1], rfl⟩⟩ 0 0, listens_iff.mpr (by decide +kernel)⟩
    | sampling | runtime | filler => unfold Fits; decide
    | labels =>
        intro entry among
        cases List.mem_singleton.mp among
        exact isLabelKey_iff.mp (by decide)
  obtain ⟨c, resolved⟩ := resolved
  obtain ⟨carried, sound⟩ := (accepts_exactly_fitting tight).2.2 c resolved
  exact ⟨c, resolved, carried.maxMessageSize, congrArg FillerSizes.fraction carried.filler, carried,
    sound⟩

/-- One given size may not go with the usual ones. -/
example : ({ filler := { initial := some 512 } } : Settings).resolve =
    .error (.fillerOrder ⟨1024, 512, 16777216, 1048576, 16⟩) :=
  rfl

end Settings

end LinkGauge
