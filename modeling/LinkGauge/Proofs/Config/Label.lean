import LinkGauge.Config.Basic
import LinkGauge.Proofs.Text.Split

/-!
# Deployment labels and checks of a configuration

A label is read from a text by checks that may each fail, and so is a configuration.
-/

namespace LinkGauge

/-!
## Results that may be errors

What a sequence of steps gives is known by what each step gives: it succeeds if every step does
(`bind_eq_ok_iff`, `forM_eq_ok_iff`), and else fails as the first step that does
(`forM_eq_error_iff`).
-/

section

variable {ε α β : Type}

/-- A step that succeeds hands its value on. -/
theorem ok_bind {value : α} {rest : α → Except ε β} : (Except.ok value >>= rest) = rest value :=
  rfl

/-- Two steps succeed when the first does and the second does with its value. -/
theorem bind_eq_ok_iff {first : Except ε α} {rest : α → Except ε β} {result : β} :
    first >>= rest = .ok result ↔ ∃ value, first = .ok value ∧ rest value = .ok result := by
  cases first with
  | error e => exact ⟨nofun, fun ⟨_, failed, _⟩ => nomatch failed⟩
  | ok value =>
      constructor
      · intro passed
        exact ⟨value, rfl, passed⟩
      · rintro ⟨_, same, passed⟩
        cases same
        exact passed

/-- A check of every input succeeds when each of them passes it. -/
theorem forM_eq_ok_iff {step : α → Except ε Unit} {inputs : List α} :
    forM inputs step = .ok () ↔ ∀ input ∈ inputs, step input = .ok () := by
  induction inputs with
  | nil => exact ⟨nofun, fun _ => rfl⟩
  | cons input later ih =>
      rw [List.forM_cons, List.forall_mem_cons, ← ih]
      cases step input with
      | error e => exact ⟨nofun, fun passed => nomatch passed.1⟩
      | ok _ => exact ⟨fun passed => ⟨rfl, passed⟩, fun passed => passed.2⟩

/-- A check of every input fails with the error of the first input that does not pass. -/
theorem forM_eq_error_iff {step : α → Except ε Unit} {inputs : List α} {error : ε} :
    forM inputs step = .error error ↔
      ∃ earlier input later, inputs = earlier ++ input :: later ∧
        (∀ passed ∈ earlier, step passed = .ok ()) ∧ step input = .error error := by
  induction inputs with
  | nil =>
      constructor
      · exact nofun
      · rintro ⟨earlier, input, later, split, -⟩
        cases earlier <;> cases split
  | cons first rest ih =>
      rw [List.forM_cons]
      constructor
      · intro failed
        cases outcome : step first with
        | error e =>
            rw [outcome] at failed
            refine ⟨[], first, rest, rfl, nofun, outcome.trans failed⟩
        | ok _ =>
            rw [outcome] at failed
            obtain ⟨earlier, input, later, rfl, passed, refused⟩ := ih.mp failed
            exact ⟨first :: earlier, input, later, rfl,
              List.forall_mem_cons.mpr ⟨outcome, passed⟩, refused⟩
      · rintro ⟨earlier, input, later, split, passed, refused⟩
        cases earlier with
        | nil =>
            obtain ⟨rfl, -⟩ := List.cons.inj split
            rw [refused]
            rfl
        | cons _ earlier =>
            obtain ⟨rfl, rfl⟩ := List.cons.inj split
            rw [passed first List.mem_cons_self]
            exact ih.mpr ⟨earlier, input, later, rfl,
              fun input among => passed input (List.mem_cons_of_mem _ among), refused⟩

end

/-!
## Deployment labels and their texts

A text is a label if and only if it has an equals sign and what stands in front of the first one
is a key with white space around it (`parseLabel_eq_ok_iff`). What stands behind it is the value
as it is.
-/

variable {text key value : String}

/-- Whether a text can be the key of a label: it has letters of ASCII, digits, underscores and
hyphens only, and one of them at least. -/
def LabelKey (key : String) : Prop :=
  key ≠ "" ∧ ∀ c ∈ key.toList,
    'A' ≤ c ∧ c ≤ 'Z' ∨ 'a' ≤ c ∧ c ≤ 'z' ∨ '0' ≤ c ∧ c ≤ '9' ∨ c = '_' ∨ c = '-'

/-- Whether a text has a key, with white space around it, in front of its first equals sign and a
value behind it. -/
def Labels (text key value : String) : Prop :=
  ∃ front, '=' ∉ front ∧ text.toList = front ++ '=' :: value.toList ∧ Text.Trims front key.toList

/-- What is checked of a key is what a key is. -/
theorem isLabelKey_iff : isLabelKey key = true ↔ LabelKey key := by
  have upper (c : Char) : c.isUpper = true ↔ 'A' ≤ c ∧ c ≤ 'Z' := decide_eq_true_iff
  have lower (c : Char) : c.isLower = (decide ('a' ≤ c) && decide (c ≤ 'z')) := rfl
  have digit (c : Char) : c.isDigit = (decide ('0' ≤ c) && decide (c ≤ '9')) := rfl
  have alphanumeric (c : Char) : c.isAlphanum = ((c.isUpper || c.isLower) || c.isDigit) := rfl
  have letters (c : Char) : (c.isAlphanum || c = '_' || c = '-') = true ↔
      'A' ≤ c ∧ c ≤ 'Z' ∨ 'a' ≤ c ∧ c ≤ 'z' ∨ '0' ≤ c ∧ c ≤ '9' ∨ c = '_' ∨ c = '-' := by
    simp only [alphanumeric, Bool.or_eq_true, upper, lower, digit, Bool.and_eq_true,
      decide_eq_true_eq, or_assoc]
  rw [isLabelKey, Bool.and_eq_true, Bool.not_eq_true', Bool.eq_false_iff, List.all_eq_true,
    LabelKey]
  exact and_congr (not_congr String.isEmpty_iff) (forall₂_congr fun c _ => letters c)

/-- A text is a label exactly when it is cut at its first equals sign into key and value. -/
theorem labels_iff : Labels text key value ↔
    ∃ front, Text.cut? '=' text.toList = some (front, value.toList) ∧
      Text.trim front = key.toList := by
  refine exists_congr fun front => ?_
  rw [Text.cut?_eq_some_iff, Text.trim_eq_iff, and_assoc]

/-- A text is read as a label if and only if it has a key and a value around an equals sign. -/
theorem parseLabel_eq_ok_iff :
    parseLabel text = .ok (key, value) ↔ Labels text key value ∧ LabelKey key := by
  rw [parseLabel, labels_iff, ← isLabelKey_iff]
  constructor
  · intro read
    split at read
    · cases read
    · next front behind cut =>
        dsimp only at read
        by_cases keyed : isLabelKey (String.ofList (Text.trim front)) = true
        · rw [if_pos keyed] at read
          obtain ⟨rfl, rfl⟩ := Prod.mk.inj (Except.ok.inj read)
          refine ⟨⟨front, ?_, ?_⟩, keyed⟩
          · rw [cut, String.toList_ofList]
          · rw [String.toList_ofList]
        · rw [if_neg keyed] at read
          cases read
  · rintro ⟨⟨front, cut, trimmed⟩, keyed⟩
    simp only [cut, trimmed, String.ofList_toList, keyed, ↓reduceIte]

end LinkGauge
