import LinkGauge.Proofs.CommandLine.Spelling
import LinkGauge.Proofs.Config.Label
import LinkGauge.Proofs.TextMap
import Mathlib.Data.List.Induction

/-!
# Options in place of settings

What the options give takes the place of what the settings had, and of labels with the same key the
last one counts (`Arguments.merged_override`). What arguments give is known by the texts of each
option (`Arguments.assignAll_eq_ok_iff`), so the order of different options does not matter
(`Arguments.override_of_reordered`).
-/

namespace LinkGauge

namespace Arguments

/-! ## What options say -/

/-- The texts of an option in the order in which they are given. -/
def texts (flag : Flag) (options : List (Flag × String)) : List String :=
  options.filterMap fun option => if option.1 = flag then some option.2 else none

/-- A text that stands for itself. -/
def Verbatim (text value : String) : Prop := value = text

/-- A text that is a path. -/
def PathOf (text value : String) : Prop := value = text ∧ text ≠ ""

/-- A text that is a truth value. -/
def Truth (text : String) (value : Bool) : Prop := text = if value then "true" else "false"

/-- A text that is the name of a source of statistics. -/
def Names (text : String) (value : Instrumentation) : Prop := text = value.name

/-- What an option that may be given once has given, after what it gave before. -/
inductive Takes {α : Type} (Means : String → α → Prop) : Option α → List String → Option α → Prop
    where
  | kept {earlier : Option α} : Takes Means earlier [] earlier
  | taken {text : String} {value : α} (means : Means text value) :
      Takes Means none [text] (some value)

/-- What options give, after what was given before. -/
structure Extends (a : Arguments) (options : List (Flag × String)) (b : Arguments) : Prop where
  config : Takes PathOf a.config (texts .config options) b.config
  listen : Takes Verbatim a.listen (texts .listen options) b.listen
  dataDir : Takes PathOf a.dataDir (texts .dataDir options) b.dataDir
  compress : Takes Truth a.compress (texts .compress options) b.compress
  instrumentation :
    Takes Names a.instrumentation (texts .instrumentation options) b.instrumentation
  labels : a.labels.map .ok ++ (texts .label options).map parseLabel = b.labels.map .ok

section Reading

variable {text : String}

private theorem nonempty?_eq_some_iff {value : String} :
    nonempty? text = some value ↔ PathOf text value := by
  rw [nonempty?, PathOf]
  by_cases empty : text.isEmpty = true
  · rw [if_pos empty]
    exact ⟨nofun, fun path => absurd (String.isEmpty_iff.mp empty) path.2⟩
  · rw [if_neg empty, Option.some.injEq, eq_comm]
    exact (and_iff_left fun none => empty (String.isEmpty_iff.mpr none)).symm

private theorem boolean?_eq_some_iff {value : Bool} :
    boolean? text = some value ↔ Truth text value := by
  rw [boolean?, Truth]
  by_cases yes : text = "true"
  · cases value <;> simp [yes]
  by_cases no : text = "false"
  · cases value <;> simp [no]
  · cases value <;> simp [yes, no]

private theorem ofName?_eq_some_iff {value : Instrumentation} :
    Instrumentation.ofName? text = some value ↔ Names text value := by
  rw [Instrumentation.ofName?, Names]
  by_cases kernel : text = "kernel"
  · cases value <;> simp [kernel, Instrumentation.name]
  by_cases stub : text = "stub"
  · cases value <;> simp [stub, Instrumentation.name]
  · cases value <;> simp [kernel, stub, Instrumentation.name]

private theorem verbatim_iff {value : String} : some text = some value ↔ Verbatim text value := by
  rw [Option.some.injEq, Verbatim, eq_comm]

private theorem once_eq_ok_iff {α : Type} {flag : Flag} {earlier later : Option α}
    {read? : String → Option α} {Means : String → α → Prop}
    (reads : ∀ {value}, read? text = some value ↔ Means text value) :
    once flag earlier read? text = .ok later ↔
      earlier = none ∧ ∃ value, Means text value ∧ later = some value := by
  rw [once]
  cases earlier with
  | some _ => simp
  | none =>
      cases read : read? text with
      | none => simp [← reads, read]
      | some value => simp [← reads, read, eq_comm]

private theorem takes_nil {α : Type} {Means : String → α → Prop} {earlier later : Option α} :
    Takes Means earlier [] later ↔ later = earlier := by
  constructor
  · rintro ⟨⟩
    rfl
  · rintro rfl
    exact .kept

private theorem takes_cons {α : Type} {Means : String → α → Prop} {earlier later : Option α}
    {rest : List String} :
    Takes Means earlier (text :: rest) later ↔
      earlier = none ∧ ∃ value, Means text value ∧ Takes Means (some value) rest later := by
  constructor
  · intro takes
    cases takes with
    | taken means => exact ⟨rfl, _, means, .kept⟩
  · rintro ⟨rfl, value, means, takes⟩
    cases takes with
    | kept => exact .taken means

end Reading

/-! ## One option after the other -/

variable {a b : Arguments} {options : List (Flag × String)} {flag : Flag} {text : String}

/-- Setting what may be given once succeeds if nothing was given before and the text has a
meaning. -/
private theorem exists_assigned_iff {α : Type} {earlier : Option α} {read? : String → Option α}
    {Means : String → α → Prop} (reads : ∀ {value}, read? text = some value ↔ Means text value)
    {set : Option α → Arguments} {Holds : Arguments → Prop} :
    (∃ next, (do return set (← once flag earlier read? text)) = Except.ok next ∧ Holds next) ↔
      earlier = none ∧ ∃ value, Means text value ∧ Holds (set (some value)) := by
  constructor
  · rintro ⟨next, assigned, holds⟩
    obtain ⟨later, given, same⟩ := bind_eq_ok_iff.mp assigned
    cases same
    obtain ⟨free, value, means, rfl⟩ := (once_eq_ok_iff reads).mp given
    exact ⟨free, value, means, holds⟩
  · rintro ⟨free, value, means, holds⟩
    have given : once flag earlier read? text = .ok (some value) :=
      (once_eq_ok_iff reads).mpr ⟨free, value, means, rfl⟩
    exact ⟨_, bind_eq_ok_iff.mpr ⟨_, given, rfl⟩, holds⟩

private theorem exists_labelled_iff {Holds : Arguments → Prop} :
    (∃ next, a.assign .label text = .ok next ∧ Holds next) ↔
      ∃ label, parseLabel text = .ok label ∧ Holds { a with labels := a.labels ++ [label] } := by
  rw [assign]
  cases parseLabel text with
  | error e => simp only [reduceCtorEq, false_and, exists_false]
  | ok label => simp only [Except.ok.injEq, exists_eq_left']

private theorem extends_cons :
    (∃ next, a.assign flag text = .ok next ∧ Extends next options b) ↔
      Extends a ((flag, text) :: options) b := by
  cases flag with
  | config =>
      refine (exists_assigned_iff nonempty?_eq_some_iff).trans ⟨?_, fun extend => ?_⟩
      · rintro ⟨free, value, means, extend⟩
        exact { extend with config := takes_cons.mpr ⟨free, value, means, extend.config⟩ }
      · obtain ⟨free, value, means, later⟩ := takes_cons.mp extend.config
        exact ⟨free, value, means, { extend with config := later }⟩
  | listen =>
      refine (exists_assigned_iff verbatim_iff).trans ⟨?_, fun extend => ?_⟩
      · rintro ⟨free, value, means, extend⟩
        exact { extend with listen := takes_cons.mpr ⟨free, value, means, extend.listen⟩ }
      · obtain ⟨free, value, means, later⟩ := takes_cons.mp extend.listen
        exact ⟨free, value, means, { extend with listen := later }⟩
  | dataDir =>
      refine (exists_assigned_iff nonempty?_eq_some_iff).trans ⟨?_, fun extend => ?_⟩
      · rintro ⟨free, value, means, extend⟩
        exact { extend with dataDir := takes_cons.mpr ⟨free, value, means, extend.dataDir⟩ }
      · obtain ⟨free, value, means, later⟩ := takes_cons.mp extend.dataDir
        exact ⟨free, value, means, { extend with dataDir := later }⟩
  | compress =>
      refine (exists_assigned_iff boolean?_eq_some_iff).trans ⟨?_, fun extend => ?_⟩
      · rintro ⟨free, value, means, extend⟩
        exact { extend with compress := takes_cons.mpr ⟨free, value, means, extend.compress⟩ }
      · obtain ⟨free, value, means, later⟩ := takes_cons.mp extend.compress
        exact ⟨free, value, means, { extend with compress := later }⟩
  | instrumentation =>
      refine (exists_assigned_iff ofName?_eq_some_iff).trans ⟨?_, fun extend => ?_⟩
      · rintro ⟨free, value, means, extend⟩
        exact { extend with
          instrumentation := takes_cons.mpr ⟨free, value, means, extend.instrumentation⟩ }
      · obtain ⟨free, value, means, later⟩ := takes_cons.mp extend.instrumentation
        exact ⟨free, value, means, { extend with instrumentation := later }⟩
  | label =>
      refine exists_labelled_iff.trans ⟨?_, fun extend => ?_⟩
      · rintro ⟨label, read, extend⟩
        have labels : a.labels.map .ok ++ parseLabel text :: (texts .label options).map parseLabel =
            b.labels.map .ok := by
          rw [← extend.labels, read]
          simp
        exact { extend with labels := labels }
      · have labels : a.labels.map .ok ++ parseLabel text :: (texts .label options).map parseLabel =
            b.labels.map .ok := extend.labels
        have among : parseLabel text ∈ b.labels.map .ok := by
          rw [← labels]
          simp
        obtain ⟨label, -, read⟩ := List.mem_map.mp among
        refine ⟨label, read.symm, { extend with labels := ?_ }⟩
        rw [← labels, ← read]
        simp

/-- Options are taken if and only if each one that may be given once is given once at most, and
each text has a meaning. -/
theorem assignAll_eq_ok_iff : a.assignAll options = .ok b ↔ Extends a options b := by
  induction options generalizing a with
  | nil =>
      constructor
      · intro same
        cases same
        exact ⟨.kept, .kept, .kept, .kept, .kept, List.append_nil _⟩
      · rintro ⟨config, listen, dataDir, compress, instrumentation, labels⟩
        have sameLabels : a.labels = b.labels := by
          rw [texts, List.filterMap_nil, List.map_nil, List.append_nil] at labels
          exact (List.map_inj_right fun _ _ same => Except.ok.inj same).mp labels
        cases a
        cases b
        simp only [texts, List.filterMap_nil, takes_nil] at *
        subst config listen dataDir compress instrumentation sameLabels
        rfl
  | cons option rest ih =>
      obtain ⟨flag, text⟩ := option
      refine bind_eq_ok_iff.trans ?_
      simp only [← extends_cons, ← ih]
      rfl

/-! ## Options and settings -/

/-- A setting: what the text of an option says, if there is one, and else what it is in the file. -/
inductive Wins {α : Type} (Means : String → α → Prop) (inFile : Option α) :
    List String → Option α → Prop where
  | file : Wins Means inFile [] inFile
  | option {text : String} {value : α} (means : Means text value) :
      Wins Means inFile [text] (some value)

/-- The key that a text has in front of its first equals sign. -/
def keyOf? (text : String) : Option String :=
  (Text.cut? '=' text.toList).map fun (front, _) => String.ofList (Text.trim front)

/-- The texts that have a key. -/
def keyed (key : String) (texts : List String) : List String :=
  texts.filter fun text => keyOf? text = some key

/-- The value of a label: what the last text with its key says, if there is one, and else what it
is in the file. -/
inductive LastWins (key : String) (inFile : Option String) (texts : List String) :
    Option String → Prop where
  | file (none : keyed key texts = []) : LastWins key inFile texts inFile
  | option {text value : String} (last : (keyed key texts).getLast? = some text)
      (labels : Labels text key value) : LastWins key inFile texts (some value)

/-- Settings that are those of a file, apart from what options say. -/
structure Merged (options : List (Flag × String)) (file merged : Settings) : Prop where
  listen : Wins Verbatim file.listen (texts .listen options) merged.listen
  dataDir : Wins PathOf file.dataDir (texts .dataDir options) merged.dataDir
  compress : Wins Truth file.compress (texts .compress options) merged.compress
  instrumentation :
    Wins Names file.instrumentation (texts .instrumentation options) merged.instrumentation
  labels (key : String) :
    LastWins key (file.labels.get? key) (texts .label options) (merged.labels.get? key)
  maxMessageSize : merged.maxMessageSize = file.maxMessageSize
  sampling : merged.sampling = file.sampling
  runtime : merged.runtime = file.runtime
  filler : merged.filler = file.filler

private theorem keyOf?_eq_some_iff {key : String} :
    keyOf? text = some key ↔ ∃ value, Labels text key value := by
  simp only [keyOf?, Option.map_eq_some_iff, labels_iff]
  constructor
  · rintro ⟨⟨front, behind⟩, cut, rfl⟩
    refine ⟨String.ofList behind, front, ?_, String.toList_ofList.symm⟩
    rw [cut, String.toList_ofList]
  · rintro ⟨value, front, cut, trimmed⟩
    exact ⟨(front, value.toList), cut, by rw [trimmed, String.ofList_toList]⟩

private theorem keyed_concat {key : String} {texts : List String} :
    keyed key (texts ++ [text]) =
      keyed key texts ++ if keyOf? text = some key then [text] else [] := by
  rw [keyed, List.filter_append, keyed, List.filter_cons, List.filter_nil]
  simp only [decide_eq_true_eq]

private theorem LastWins.congr {key : String} {inFile value : Option String}
    {first second : List String}
    (wins : LastWins key inFile first value) (same : keyed key second = keyed key first) :
    LastWins key inFile second value := by
  cases wins with
  | file none => exact .file (same.trans none)
  | option last labels => exact .option (same ▸ last) labels

private theorem LastWins.unique {key : String} {inFile other first second : Option String}
    {texts : List String} (wins : LastWins key inFile texts first)
    (again : LastWins key other texts second) (alike : keyed key texts = [] → inFile = other) :
    first = second := by
  cases wins with
  | file none =>
      cases again with
      | file => exact alike none
      | option last =>
          rw [none] at last
          exact nomatch last
  | option last labels =>
      cases again with
      | file none =>
          rw [none] at last
          exact nomatch last
      | option lastAgain labelsAgain =>
          cases last.symm.trans lastAgain
          obtain ⟨front, cut, -⟩ := labels_iff.mp labels
          obtain ⟨frontAgain, cutAgain, -⟩ := labels_iff.mp labelsAgain
          rw [cut, Option.some.injEq, Prod.mk.injEq] at cutAgain
          exact congrArg some (String.toList_inj.mp cutAgain.2)

private theorem wins_of_takes {α : Type} {Means : String → α → Prop} {given : Option α}
    {texts : List String} (takes : Takes Means none texts given) (inFile : Option α) :
    Wins Means inFile texts (given <|> inFile) := by
  cases takes with
  | kept => exact .file
  | taken means => exact .option means

private theorem lastWins_of_labels {texts : List String} {labels : List (String × String)}
    (read : texts.map parseLabel = labels.map .ok) (m : TextMap) (key : String) :
    LastWins key (m.get? key) texts
      ((labels.foldl (fun m (key, value) => m.insert key value) m).get? key) := by
  induction texts using List.reverseRecOn generalizing labels with
  | nil =>
      cases List.map_eq_nil_iff.mp read.symm
      exact .file rfl
  | append_singleton earlier text ih =>
      rw [List.map_append] at read
      obtain ⟨front, back, rfl, readEarlier, readLast⟩ := List.append_eq_map_iff.mp read
      obtain ⟨⟨own, value⟩, rfl, same⟩ := List.map_eq_singleton_iff.mp readLast
      have labels := (parseLabel_eq_ok_iff.mp same.symm).1
      have keyOfLast : keyOf? text = some own := keyOf?_eq_some_iff.mpr ⟨value, labels⟩
      rw [List.foldl_append, List.foldl_cons, List.foldl_nil, TextMap.get?_insert]
      by_cases mine : key = own
      · subst mine
        rw [if_pos rfl]
        refine .option ?_ labels
        rw [keyed_concat, if_pos keyOfLast, List.getLast?_concat]
      · have other : keyOf? text ≠ some key := fun some =>
          mine (Option.some.inj (some.symm.trans keyOfLast))
        rw [if_neg mine]
        refine (ih readEarlier.symm).congr ?_
        rw [keyed_concat, if_neg other, List.append_nil]

/-- Arguments over a file give each option its own value where there is one. -/
theorem merged_override (gathered : Extends {} options a) (file : Settings) :
    Merged options file (a.override file) where
  listen := wins_of_takes gathered.listen _
  dataDir := wins_of_takes gathered.dataDir _
  compress := wins_of_takes gathered.compress _
  instrumentation := wins_of_takes gathered.instrumentation _
  labels := lastWins_of_labels gathered.labels _
  maxMessageSize := rfl
  sampling := rfl
  runtime := rfl
  filler := rfl

/-- The settings of the file that options name, and none without a file. -/
def fileOf (options : List (Flag × String)) (content : String → Except SystemError (List UInt8)) :
    Except ConfigError Settings :=
  match texts .config options with
  | [] => .ok {}
  | path :: _ => Settings.ofFile path (content path)

private theorem configuration_eq (gathered : Extends {} options a)
    (content : String → Except SystemError (List UInt8)) :
    a.configuration content = fileOf options content >>= fun file => (a.override file).resolve := by
  have config := gathered.config
  rw [configuration, fileOf]
  generalize a.config = path at config
  generalize texts .config options = paths at config
  cases config with
  | kept => rfl
  | taken means =>
      obtain ⟨rfl, -⟩ := means
      rfl

/-! ## The order of options -/

/-- Options in another order, with labels of the same key in the same order. -/
structure Reordered (options reordered : List (Flag × String)) : Prop where
  perm : options.Perm reordered
  labels (key : String) :
    keyed key (texts .label reordered) = keyed key (texts .label options)

/-- Settings that differ at most where options say something. -/
structure AlikeBeyond (options : List (Flag × String)) (file other : Settings) : Prop where
  listen : texts .listen options = [] → file.listen = other.listen
  dataDir : texts .dataDir options = [] → file.dataDir = other.dataDir
  compress : texts .compress options = [] → file.compress = other.compress
  instrumentation :
    texts .instrumentation options = [] → file.instrumentation = other.instrumentation
  labels (key : String) :
    keyed key (texts .label options) = [] → file.labels.get? key = other.labels.get? key
  maxMessageSize : file.maxMessageSize = other.maxMessageSize
  sampling : file.sampling = other.sampling
  runtime : file.runtime = other.runtime
  filler : file.filler = other.filler

private theorem takes_perm {α : Type} {Means : String → α → Prop} {given : Option α}
    {texts others : List String} (takes : Takes Means none texts given)
    (perm : texts.Perm others) : Takes Means none others given := by
  cases takes with
  | kept =>
      cases perm.symm.eq_nil
      exact .kept
  | taken means =>
      cases perm.symm.eq_singleton
      exact .taken means

private theorem exists_labels_of_perm {texts others : List String} {labels : List (String × String)}
    (read : texts.map parseLabel = labels.map .ok) (perm : texts.Perm others) :
    ∃ reordered : List (String × String), others.map parseLabel = reordered.map .ok := by
  have each : ∀ text ∈ others, ∃ label, parseLabel text = .ok label := by
    intro text among
    have image : parseLabel text ∈ labels.map .ok := by
      rw [← read]
      exact List.mem_map_of_mem (perm.mem_iff.mpr among)
    obtain ⟨label, -, same⟩ := List.mem_map.mp image
    exact ⟨label, same.symm⟩
  clear perm
  induction others with
  | nil => exact ⟨[], rfl⟩
  | cons text rest ih =>
      obtain ⟨⟨label, read⟩, later⟩ := List.forall_mem_cons.mp each
      obtain ⟨labels, readLater⟩ := ih later
      exact ⟨label :: labels, by rw [List.map_cons, read, readLater, List.map_cons]⟩

private theorem or_eq_or {α : Type} {Means : String → α → Prop} {given : Option α}
    {texts : List String} (takes : Takes Means none texts given) {inFile other : Option α}
    (alike : texts = [] → inFile = other) : (given <|> inFile) = (given <|> other) := by
  cases takes with
  | kept => exact alike rfl
  | taken => rfl

private theorem override_congr (gathered : Extends {} options a) {file other : Settings}
    (alike : AlikeBeyond options file other) : a.override file = a.override other := by
  have labels : (a.override file).labels = (a.override other).labels :=
    TextMap.ext_of_get? fun key =>
      LastWins.unique ((merged_override gathered file).labels key)
        ((merged_override gathered other).labels key) (alike.labels key)
  refine Settings.mk.injEq .. ▸ ⟨?_, ?_, ?_, ?_, ?_, ?_, ?_, ?_, labels⟩
  · exact or_eq_or gathered.listen alike.listen
  · exact or_eq_or gathered.dataDir alike.dataDir
  · exact or_eq_or gathered.compress alike.compress
  · exact or_eq_or gathered.instrumentation alike.instrumentation
  · exact alike.maxMessageSize
  · exact alike.sampling
  · exact alike.runtime
  · exact alike.filler

/-- Options in another order give the same, with the labels in another order at most. -/
theorem exists_reordered {reordered : List (Flag × String)} (gathered : Extends {} options a)
    (order : Reordered options reordered) :
    ∃ labels, Extends {} reordered { a with labels } := by
  have perm (flag : Flag) : (texts flag options).Perm (texts flag reordered) :=
    order.perm.filterMap _
  obtain ⟨labels, read⟩ := exists_labels_of_perm gathered.labels (perm .label)
  exact ⟨labels, takes_perm gathered.config (perm .config),
    takes_perm gathered.listen (perm .listen), takes_perm gathered.dataDir (perm .dataDir),
    takes_perm gathered.compress (perm .compress),
    takes_perm gathered.instrumentation (perm .instrumentation), read⟩

/-- Arguments in another order override a file alike. -/
theorem override_of_reordered {reordered : List (Flag × String)} {labels : List (String × String)}
    (gathered : Extends {} options a) (order : Reordered options reordered)
    (again : Extends {} reordered { a with labels }) (file : Settings) :
    { a with labels }.override file = a.override file := by
  have sameLabels : ({ a with labels }.override file).labels = (a.override file).labels := by
    refine TextMap.ext_of_get? fun key => ?_
    have wins := ((merged_override again file).labels key).congr (order.labels key).symm
    exact wins.unique ((merged_override gathered file).labels key) fun _ => rfl
  exact Settings.mk.injEq .. ▸ ⟨rfl, rfl, rfl, rfl, rfl, rfl, rfl, rfl, sameLabels⟩

private theorem exists_extends_label_iff :
    (∃ a, Extends {} ((.label, text) :: options) a) ↔
      (∃ key value, Labels text key value ∧ LabelKey key) ∧ ∃ a, Extends {} options a := by
  constructor
  · rintro ⟨a, extend⟩
    obtain ⟨⟨key, value⟩, read, -⟩ := exists_labelled_iff.mp (extends_cons.mpr extend)
    have labels : parseLabel text :: (texts .label options).map parseLabel = a.labels.map .ok :=
      extend.labels
    obtain ⟨_, rest, -, -, readRest⟩ := List.map_eq_cons_iff.mp labels.symm
    refine ⟨⟨key, value, parseLabel_eq_ok_iff.mp read⟩, { a with labels := rest }, ?_⟩
    exact { extend with labels := readRest.symm }
  · rintro ⟨⟨key, value, label⟩, a, extend⟩
    refine ⟨{ a with labels := (key, value) :: a.labels }, { extend with labels := ?_ }⟩
    have labels : (texts .label options).map parseLabel = a.labels.map .ok := extend.labels
    have read := parseLabel_eq_ok_iff.mpr label
    change parseLabel text :: (texts .label options).map parseLabel = _
    rw [read, labels, List.map_cons]

private theorem parse_eq_ok_iff {arguments : List String} (spells : Spells options arguments) :
    parse arguments = .ok a ↔ Extends {} options a := by
  rw [parse_of_spells spells, assignAll_eq_ok_iff]

/-- What options say takes the place of what the file has. For a label the last text with its key
counts, so only the order of such texts matters, and what is replaced in the file does not. -/
theorem flags_win :
    (∀ text key value, parseLabel text = .ok (key, value) ↔ Labels text key value ∧ LabelKey key) ∧
      (∀ text options arguments others, Spells ((.label, text) :: options) arguments →
        Spells options others →
        ((∃ a, parse arguments = .ok a) ↔
          (∃ key value, Labels text key value ∧ LabelKey key) ∧ ∃ a, parse others = .ok a)) ∧
      ∀ arguments a, parse arguments = .ok a →
        (∃ options, Spells options arguments) ∧
          ∀ options, Spells options arguments →
            (∀ file, Merged options file (a.override file)) ∧
            (∀ content, a.configuration content =
              fileOf options content >>= fun file => (a.override file).resolve) ∧
            (∀ reordered others, Reordered options reordered → Spells reordered others →
              ∃ b, parse others = .ok b ∧ (∀ file, b.override file = a.override file) ∧
                ∀ content, b.configuration content = a.configuration content) ∧
            ∀ file other, AlikeBeyond options file other →
              (a.override file).resolve = (a.override other).resolve := by
  refine ⟨fun text key value => parseLabel_eq_ok_iff, ?_, fun arguments a parsed => ?_⟩
  · intro text options arguments others spells spelled
    simp only [parse_eq_ok_iff spells, parse_eq_ok_iff spelled]
    exact exists_extends_label_iff
  refine ⟨exists_spelled parsed, fun options spells => ?_⟩
  have gathered := (parse_eq_ok_iff spells).mp parsed
  refine ⟨merged_override gathered, configuration_eq gathered, ?_, ?_⟩
  · intro reordered others order spelled
    obtain ⟨labels, again⟩ := exists_reordered gathered order
    have same := override_of_reordered gathered order again
    refine ⟨{ a with labels }, (parse_eq_ok_iff spelled).mpr again, same, fun content => ?_⟩
    simp only [configuration, same]
  · intro file other alike
    rw [override_congr gathered alike]

/-- A key that is given twice, with another one in between. -/
def twice : List (Flag × String) :=
  [(.label, " site = a=b "), (.listen, "[::1]:80"), (.label, "rack=1"), (.label, "site= x=")]

/-- The same options with the other key at the end. -/
def twiceReordered : List (Flag × String) :=
  [(.label, " site = a=b "), (.label, "site= x="), (.label, "rack=1"), (.listen, "[::1]:80")]

private theorem reordered_twice : Reordered twice twiceReordered where
  perm := by decide
  labels key := by
    have site : keyOf? " site = a=b " = some "site" := rfl
    have siteAgain : keyOf? "site= x=" = some "site" := rfl
    have rack : keyOf? "rack=1" = some "rack" := rfl
    by_cases own : key = "site"
    · subst own
      rfl
    · have apart : ¬ "site" = key := fun same => own same.symm
      change keyed key [_, "site= x=", "rack=1"] = keyed key [_, "rack=1", "site= x="]
      simp only [keyed, List.filter_cons, List.filter_nil, site, siteAgain, rack, apart,
        Option.some.injEq, decide_false, Bool.false_eq_true, ↓reduceIte]

/-- A label given twice, once with blanks around its key, and the same flags in another order. -/
theorem flags_win_twice :
    ∃ a b,
      parse ["--label", " site = a=b ", "--listen-addr=[::1]:80", "--label", "rack=1",
        "--label=site= x="] = .ok a ∧
      parse ["--label= site = a=b ", "--label", "site= x=", "--label=rack=1", "--listen-addr",
        "[::1]:80", "--"] = .ok b ∧
      Reordered twice twiceReordered ∧ (∀ file, Merged twice file (a.override file)) ∧
      ∀ content, b.configuration content = a.configuration content := by
  have parsed : ∃ a, parse ["--label", " site = a=b ", "--listen-addr=[::1]:80", "--label",
      "rack=1", "--label=site= x="] = .ok a := ⟨_, rfl⟩
  obtain ⟨a, parsed⟩ := parsed
  have site : Plain " site = a=b " := by
    rintro c rest ⟨⟩
  have spells : Spells twice ["--label", " site = a=b ", "--listen-addr=[::1]:80", "--label",
      "rack=1", "--label=site= x="] :=
    .apart .label site (.attached .listen "[::1]:80" (.apart .label nofun
      (.attached .label "site= x=" .done)))
  have again : Spells twiceReordered ["--label= site = a=b ", "--label", "site= x=",
      "--label=rack=1", "--listen-addr", "[::1]:80", "--"] :=
    .attached .label " site = a=b " (.apart .label nofun (.attached .label "rack=1"
      (.apart .listen nofun .closed)))
  obtain ⟨-, given⟩ := flags_win.2.2 _ a parsed
  obtain ⟨merged, -, order, -⟩ := given twice spells
  obtain ⟨b, parsedAgain, -, same⟩ := order twiceReordered _ reordered_twice again
  exact ⟨a, b, parsed, parsedAgain, reordered_twice, merged, same⟩

end Arguments

end LinkGauge
