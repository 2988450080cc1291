import LinkGauge.CommandLine
import LinkGauge.Proofs.Config.Label
import LinkGauge.Proofs.Text.Split

/-!
# Options spelled as arguments

Arguments that are read spell options with their texts (`Arguments.exists_spelled`), and arguments
that spell options are read by giving each option its text, one after the other
(`Arguments.parse_of_spells`).
-/

namespace LinkGauge

namespace Flag

private theorem ofName?_name (flag : Flag) : ofName? flag.name = some flag := by
  cases flag <;> decide

private theorem name_of_ofName? {name : String} {flag : Flag} (found : ofName? name = some flag) :
    name = flag.name := by
  rw [ofName?] at found
  have named := List.find?_some found
  exact (eq_of_beq named).symm

private theorem equals_not_mem_name (flag : Flag) : '=' ∉ flag.name.toList := by
  cases flag <;> decide

end Flag

namespace Arguments

/-- Whether an argument looks like no option: it does not begin with a hyphen, or is a hyphen. -/
def Plain (argument : String) : Prop := ∀ c rest, argument.toList ≠ '-' :: c :: rest

/-- Options with their texts, and arguments that spell them. -/
inductive Spells : List (Flag × String) → List String → Prop where
  | done : Spells [] []
  /-- No options follow two hyphens. -/
  | closed : Spells [] ["--"]
  | attached {options : List (Flag × String)} {arguments : List String} (flag : Flag)
      (text : String) (later : Spells options arguments) :
      Spells ((flag, text) :: options) (("--" ++ flag.name ++ "=" ++ text) :: arguments)
  | apart {options : List (Flag × String)} {arguments : List String} (flag : Flag)
      {text : String} (plain : Plain text) (later : Spells options arguments) :
      Spells ((flag, text) :: options) (("--" ++ flag.name) :: text :: arguments)

/-! ## What arguments look like -/

/-- What an argument of a shape looks like. -/
inductive Looks (argument : String) : Shape → Prop where
  | terminator (same : argument = "--") : Looks argument .terminator
  | attached {name text : String} (same : argument = "--" ++ name ++ "=" ++ text) :
      Looks argument (.long name (some text))
  | apart {name : String} (same : argument = "--" ++ name) : Looks argument (.long name none)
  | short (c : Char) : Looks argument (.short c)
  | plain (plain : Plain argument) : Looks argument .plain

private theorem looks (argument : String) : Looks argument (shape argument) := by
  unfold shape
  split
  · next terminator => exact .terminator (String.toList_inj.mp terminator)
  · next rest _ long =>
      split
      · next name text cut =>
          have whole := (Text.cut?_eq_some_iff.mp cut).2
          refine .attached (String.toList_inj.mp ?_)
          simp only [long, whole, String.toList_append, String.toList_ofList, List.append_assoc]
          rfl
      · refine .apart (String.toList_inj.mp ?_)
        simp only [long, String.toList_append, String.toList_ofList]
        rfl
  · exact .short _
  · next other => exact .plain other

private theorem shape_of_plain {argument : String} (plain : Plain argument) :
    shape argument = .plain := by
  unfold shape
  split
  · next terminator => exact absurd terminator (plain _ _)
  · next long => exact absurd long (plain _ _)
  · next short => exact absurd short (plain _ _)
  · rfl

private theorem shape_attached (flag : Flag) (text : String) :
    shape ("--" ++ flag.name ++ "=" ++ text) = .long flag.name (some text) := by
  have cut : Text.cut? '=' (flag.name.toList ++ '=' :: text.toList) =
      some (flag.name.toList, text.toList) :=
    Text.cut?_eq_some_iff.mpr ⟨flag.equals_not_mem_name, rfl⟩
  have chars : ("--" ++ flag.name ++ "=" ++ text).toList =
      '-' :: '-' :: (flag.name.toList ++ '=' :: text.toList) := by
    simp only [String.toList_append, List.append_assoc]
    rfl
  unfold shape
  split
  · next terminator =>
      rw [chars, List.cons.injEq, List.cons.injEq] at terminator
      exact absurd terminator.2.2 (List.append_ne_nil_of_right_ne_nil _ (List.cons_ne_nil _ _))
  · next long =>
      rw [chars] at long
      cases long
      simp only [cut, String.ofList_toList]
  · next _ notLong short =>
      rw [chars, List.cons.injEq, List.cons.injEq] at short
      exact absurd short.2.1.symm notLong
  · next other => exact absurd chars (other _ _)

private theorem shape_apart (flag : Flag) : shape ("--" ++ flag.name) = .long flag.name none := by
  cases flag <;> decide

/-! ## Reading from the left -/

variable {a b : Arguments} {options : List (Flag × String)} {arguments : List String}

/-- Gives options their texts, one after the other. -/
def assignAll (a : Arguments) (options : List (Flag × String)) : Except ArgumentError Arguments :=
  options.foldlM (fun a option => a.assign option.1 option.2) a

/-- Arguments that spell options are read by giving each option its text. -/
theorem readFrom_of_spells (spells : Spells options arguments) {pending : Pending}
    (settled : ∀ flag, pending ≠ .awaiting flag) :
    a.readFrom pending arguments = a.settle pending >>= fun a => a.assignAll options := by
  have notAwaiting (flag : Flag) : Pending.nothing ≠ .awaiting flag := nofun
  induction spells generalizing a pending with
  | done =>
      rw [readFrom]
      exact (bind_pure _).symm
  | closed =>
      have terminator : shape "--" = .terminator := by decide
      unfold readFrom
      simp only [terminator]
      exact (bind_pure _).symm
  | attached flag text later ih =>
      unfold readFrom
      simp only [shape_attached, flag.ofName?_name, ih notAwaiting]
      rfl
  | @apart _ rest flag text plain later ih =>
      have given (next : Arguments) : next.readFrom (.awaiting flag) (text :: rest) =
          next.readFrom (.given flag text) rest := by
        rw [readFrom.eq_def]
        simp only [shape_of_plain plain]
      have goesOn (next : Arguments) := given next ▸ @ih next (.given flag text) nofun
      unfold readFrom
      simp only [shape_apart, flag.ofName?_name, goesOn]
      rfl

/-- What is left of arguments that are read while an option is pending. -/
def Spelled (arguments : List String) : Pending → Prop
  | .awaiting _ => ∃ text rest, arguments = text :: rest ∧ Plain text ∧
      ∃ options, Spells options rest
  | _ => ∃ options, Spells options arguments

private theorem spelled_of_settled {pending : Pending} (settled : a.settle pending = .ok b)
    (spells : Spells options arguments) : Spelled arguments pending := by
  cases pending with
  | nothing | given => exact ⟨options, spells⟩
  | awaiting flag => exact nomatch settled

private theorem help_ne_ok {pending : Pending} :
    (do let _ ← a.settle pending; throw .help : Except ArgumentError Arguments) ≠ .ok b := by
  intro read
  obtain ⟨_, -, thrown⟩ := bind_eq_ok_iff.mp read
  exact nomatch thrown

private theorem spelled_of_readFrom {pending : Pending}
    (read : a.readFrom pending arguments = .ok b) : Spelled arguments pending := by
  induction arguments generalizing a pending with
  | nil => exact spelled_of_settled read .done
  | cons argument rest ih =>
      unfold readFrom at read
      have looks := looks argument
      generalize shape argument = shape at read looks
      cases looks with
      | terminator same =>
          subst same
          cases rest with
          | nil => exact spelled_of_settled read .closed
          | cons extra _ => exact nomatch read
      | @attached name text same =>
          subst same
          dsimp only at read
          cases found : Flag.ofName? name with
          | none =>
              rw [found] at read
              dsimp only at read
              by_cases help : name = "help"
              · rw [if_pos help] at read
                exact nomatch read
              · rw [if_neg help] at read
                exact nomatch read
          | some flag =>
              rw [found] at read
              obtain ⟨_, settled, read⟩ := bind_eq_ok_iff.mp read
              obtain ⟨_, _, read⟩ := bind_eq_ok_iff.mp read
              obtain ⟨options, spells⟩ := ih read
              rw [Flag.name_of_ofName? found]
              exact spelled_of_settled settled (.attached flag text spells)
      | @apart name same =>
          subst same
          dsimp only at read
          cases found : Flag.ofName? name with
          | none =>
              rw [found] at read
              dsimp only at read
              by_cases help : name = "help"
              · rw [if_pos help] at read
                exact absurd read help_ne_ok
              · rw [if_neg help] at read
                exact nomatch read
          | some flag =>
              rw [found] at read
              obtain ⟨_, settled, read⟩ := bind_eq_ok_iff.mp read
              obtain ⟨text, rest, rfl, plain, options, spells⟩ := ih read
              rw [Flag.name_of_ofName? found]
              exact spelled_of_settled settled (.apart flag plain spells)
      | short c =>
          dsimp only at read
          by_cases help : c = 'h'
          · rw [if_pos help] at read
            exact absurd read help_ne_ok
          · rw [if_neg help] at read
            exact nomatch read
      | plain plain =>
          cases pending with
          | nothing | given => exact nomatch read
          | awaiting flag => exact ⟨argument, rest, rfl, plain, ih read⟩

/-- Arguments that are read spell options. -/
theorem exists_spelled (parsed : parse arguments = .ok a) : ∃ options, Spells options arguments :=
  spelled_of_readFrom parsed

/-- Arguments that spell options give what the options give. -/
theorem parse_of_spells (spells : Spells options arguments) :
    parse arguments = ({} : Arguments).assignAll options :=
  readFrom_of_spells spells nofun

end Arguments

end LinkGauge
