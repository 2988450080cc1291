import LinkGauge.Text.Split
import Mathlib.Data.List.TakeWhile

/-!
# Taking texts apart

What trimming and dividing give is known by what was taken away and what is left.
-/

namespace LinkGauge.Text

/-!
## Texts without the white space around them

Trimming takes white space away at both ends until none stands there, so what is left is known
by that alone (`Text.trim_eq_iff`).
-/

variable {chars inner lead : List Char}

/-- A part of a text with nothing but white space around it and none at its ends. -/
structure Trims (chars inner : List Char) : Prop where
  around : ∃ lead trail, lead.all isBlank = true ∧ trail.all isBlank = true ∧
    chars = lead ++ inner ++ trail
  first : ∀ c ∈ inner.head?, isBlank c = false
  last : ∀ c ∈ inner.getLast?, isBlank c = false

private theorem trimStart_append (blank : lead.all isBlank = true) (rest : List Char) :
    trimStart (lead ++ rest) = trimStart rest :=
  List.dropWhile_append_of_pos (List.all_eq_true.mp blank)

private theorem trimStart_eq_nil (blank : lead.all isBlank = true) : trimStart lead = [] := by
  rw [← List.append_nil lead, trimStart_append blank]
  rfl

private theorem trimStart_eq_self (first : ∀ c ∈ inner.head?, isBlank c = false) :
    trimStart inner = inner := by
  cases inner with
  | nil => rfl
  | cons c rest => rw [trimStart, List.dropWhile_cons, first c rfl, if_neg Bool.false_ne_true]

private theorem head?_trimStart {c : Char} (member : c ∈ (trimStart chars).head?) :
    isBlank c = false := by
  have visible := List.head?_dropWhile_not isBlank chars
  rw [← trimStart, Option.mem_def.mp member] at visible
  exact visible

/-- Trimming takes white space away at both ends until none stands there. -/
theorem trims_trim (chars : List Char) : Trims chars (trim chars) := by
  have front : chars.takeWhile isBlank ++ trimStart chars = chars := List.takeWhile_append_dropWhile
  have back : (trimStart chars).reverse.takeWhile isBlank ++ (trim chars).reverse =
      (trimStart chars).reverse := by
    rw [trim, List.reverse_reverse]
    exact List.takeWhile_append_dropWhile
  have split : trimStart chars =
      trim chars ++ ((trimStart chars).reverse.takeWhile isBlank).reverse := by
    rw [← List.reverse_inj, List.reverse_append, List.reverse_reverse, back]
  refine ⟨⟨chars.takeWhile isBlank, ((trimStart chars).reverse.takeWhile isBlank).reverse,
    List.all_takeWhile, ?_, ?_⟩, fun c member => ?_, fun c member => ?_⟩
  · rw [List.all_reverse]
    exact List.all_takeWhile
  · rw [List.append_assoc, ← split, front]
  · have first : c ∈ (trimStart chars).head? := by
      rw [split, List.head?_append, Option.mem_def.mp member]
      rfl
    exact head?_trimStart first
  · rw [trim, List.getLast?_reverse] at member
    exact head?_trimStart member

/-- Trimming leaves the one part that has no white space at its ends and nothing else around
it. -/
theorem trim_eq_iff : trim chars = inner ↔ Trims chars inner := by
  constructor
  · rintro rfl
    exact trims_trim chars
  · rintro ⟨⟨lead, trail, blankLead, blankTrail, rfl⟩, first, last⟩
    have front : trimStart (lead ++ inner ++ trail) = trimStart (inner ++ trail) := by
      rw [List.append_assoc, trimStart_append blankLead]
    cases inner with
    | nil =>
        rw [trim, front, List.nil_append, trimStart_eq_nil blankTrail]
        rfl
    | cons c rest =>
        have whole : trimStart (c :: rest ++ trail) = c :: rest ++ trail :=
          trimStart_eq_self (first · ·)
        have trailing : trail.reverse.all isBlank = true := by rw [List.all_reverse, blankTrail]
        have ended : ∀ d ∈ (c :: rest).reverse.head?, isBlank d = false := by
          rw [List.head?_reverse]
          exact last
        rw [trim, front, whole, List.reverse_append, trimStart_append trailing,
          trimStart_eq_self ended, List.reverse_reverse]

/-!
## Divided texts

The pieces of a text are those of `List.splitOn` (`Text.split_map`), and what is cut at the first
divider is known by the divider that stands there and nowhere before (`Text.cut?_eq_some_iff`).
The last divider tells what stands before and behind it too (`Text.eq_of_last_divider`).
-/

/-- The pieces of a text that spells a list, whatever stands for the elements. -/
theorem split_map {α : Type} [BEq α] [LawfulBEq α] {letter : α → Char} {divider : α}
    (only : ∀ a, letter a = letter divider → a = divider) (elements : List α) :
    split (letter divider) (elements.map letter) =
      (elements.splitOn divider).map (·.map letter) := by
  induction elements with
  | nil => rfl
  | cons a rest ih =>
      rw [List.map_cons, split, ih, List.splitOn_cons_eq_if_modifyHead]
      by_cases same : a = divider
      · rw [if_pos (congrArg letter same), if_pos (beq_iff_eq.mpr same)]
        rfl
      · rw [if_neg (mt (only a) same), if_neg (mt beq_iff_eq.mp same)]
        obtain ⟨piece, more, pieces⟩ :=
          List.exists_cons_of_ne_nil (List.splitOn_ne_nil divider rest)
        rw [pieces]
        rfl

/-- A text is cut at the only divider that has none before it. -/
theorem cut?_eq_some_iff {divider : Char} {chars front behind : List Char} :
    cut? divider chars = some (front, behind) ↔
      divider ∉ front ∧ chars = front ++ divider :: behind := by
  rw [cut?]
  constructor
  · intro cut
    split at cut
    · cases cut
    · next first more left =>
        cases cut
        have here := List.head?_dropWhile_not (· ≠ divider) chars
        rw [left] at here
        obtain rfl : first = divider := of_not_not (of_decide_eq_false here)
        refine ⟨fun member => ?_, ?_⟩
        · have apart := List.mem_takeWhile_imp member
          exact of_decide_eq_true apart rfl
        · rw [← left, List.takeWhile_append_dropWhile]
  · rintro ⟨notIn, rfl⟩
    have before : ∀ c ∈ front, decide (c ≠ divider) = true := fun c member =>
      decide_eq_true fun same => notIn (same ▸ member)
    have at_divider : decide (divider ≠ divider) = false := decide_eq_false (not_not_intro rfl)
    rw [List.dropWhile_append_of_pos before, List.takeWhile_append_of_pos before,
      List.dropWhile_cons, List.takeWhile_cons, at_divider]
    simp only [Bool.false_eq_true, ↓reduceIte, List.append_nil]

/-- From behind, a text is cut at its last divider. -/
theorem cut?_reverse {divider : Char} {front behind : List Char} (last : divider ∉ behind) :
    cut? divider (front ++ divider :: behind).reverse = some (behind.reverse, front.reverse) := by
  refine cut?_eq_some_iff.mpr ⟨mt List.mem_reverse.mp last, ?_⟩
  rw [List.reverse_append, List.reverse_cons, List.append_assoc, List.singleton_append]

/-- A text has one last divider. What stands before it may have others. -/
theorem eq_of_last_divider {divider : Char} {front other behind more : List Char}
    (last : divider ∉ behind) (also : divider ∉ more)
    (same : front ++ divider :: behind = other ++ divider :: more) :
    front = other ∧ behind = more := by
  have cut : cut? divider (front ++ divider :: behind).reverse = _ := cut?_reverse last
  rw [same, cut?_reverse also] at cut
  obtain ⟨after, before⟩ := Prod.mk.inj (Option.some.inj cut)
  exact ⟨(List.reverse_inj.mp before).symm, (List.reverse_inj.mp after).symm⟩

end LinkGauge.Text
