import LinkGauge.Proofs.Text.Split
import LinkGauge.Proofs.Text.Utf8
import LinkGauge.Service

/-!
# Offers of the subprotocol

A client offers the subprotocol if and only if its name stands between the commas of a value that
can be used (`Service.isOffered_iff`). So the values count as one list of elements, in any order
and however the list is divided among them (`Service.isOffered_intercalate`).
-/

namespace LinkGauge.Service

/-- The byte that divides the elements of a list. -/
def comma : UInt8 := 44

/-- Whether a value can be used: it has visible ASCII, spaces and tabs only. -/
def Usable (value : List UInt8) : Prop := ∀ b ∈ value, b = 9 ∨ 32 ≤ b ∧ b ≤ 126

/-- Whether an element is the name of the subprotocol, with spaces and tabs around it. -/
def Names (element : List UInt8) : Prop :=
  ∃ lead trail, (∀ b ∈ lead ++ trail, b = 9 ∨ b = 32) ∧
    element = lead ++ Text.utf8 subprotocol ++ trail

/-- The character of a byte. -/
def letter (b : UInt8) : Char := Char.ofNat b.toNat

private theorem toNat_letter (b : UInt8) : (letter b).toNat = b.toNat := by
  have valid : b.toNat.isValidChar := .inl (Nat.lt_trans b.toNat_lt (by decide))
  rw [letter, Char.ofNat, dif_pos valid]
  rfl

private theorem letter_injective {a b : UInt8} (same : letter a = letter b) : a = b := by
  rw [← UInt8.toNat_inj, ← toNat_letter a, same, toNat_letter]

private theorem map_letter_subprotocol :
    (Text.utf8 subprotocol).map letter = subprotocol.toList := by
  rw [Text.utf8_eq]
  decide

private theorem isPlain_iff {b : UInt8} : isPlain b = true ↔ b = 9 ∨ 32 ≤ b ∧ b ≤ 126 := by
  simp only [isPlain, Bool.or_eq_true, beq_iff_eq, Bool.and_eq_true, decide_eq_true_eq]

private theorem isBlank_letter {b : UInt8} (plain : b = 9 ∨ 32 ≤ b ∧ b ≤ 126) :
    Text.isBlank (letter b) = true ↔ b = 9 ∨ b = 32 := by
  have blank : ∀ n < 127, n = 9 ∨ 32 ≤ n →
      (Text.isBlank (Char.ofNat n) = true ↔ n = 9 ∨ n = 32) := by decide
  simp only [← UInt8.toNat_inj, UInt8.le_iff_toNat_le] at plain ⊢
  have below : b.toNat < 127 := by
    rcases plain with tab | ⟨_, most⟩
    · rw [tab]
      decide
    · exact Nat.lt_succ_of_le most
  exact blank b.toNat below (plain.imp_right And.left)

private theorem usable_iff {value : List UInt8} : Usable value ↔ value.all isPlain = true := by
  simp only [Usable, List.all_eq_true, isPlain_iff]

private theorem plainText?_of_usable {value : List UInt8} (usable : Usable value) :
    plainText? value = some (value.map letter) :=
  if_pos (usable_iff.mp usable)

private theorem usable_of_plainText? {value : List UInt8} {text : List Char}
    (plain : plainText? value = some text) : Usable value := by
  intro b member
  by_cases all : value.all isPlain = true
  · exact isPlain_iff.mp (List.all_eq_true.mp all b member)
  · rw [plainText?, if_neg all] at plain
    cases plain

/-- Trimming finds the name where it has nothing but spaces and tabs around it. -/
theorem trim_eq_subprotocol {element : List UInt8} (usable : Usable element) :
    Text.trim (element.map letter) = subprotocol.toList ↔ Names element := by
  have gaps {part : List UInt8} (inside : ∀ b ∈ part, b ∈ element) :
      (part.map letter).all Text.isBlank = true ↔ ∀ b ∈ part, b = 9 ∨ b = 32 := by
    rw [List.all_map, List.all_eq_true]
    exact forall₂_congr fun b member => isBlank_letter (usable b (inside b member))
  rw [Text.trim_eq_iff]
  constructor
  · rintro ⟨⟨lead, trail, blankLead, blankTrail, whole⟩, -, -⟩
    obtain ⟨front, trailing, rfl, fronted, rfl⟩ := List.map_eq_append_iff.mp whole
    obtain ⟨leading, name, rfl, rfl, named⟩ := List.map_eq_append_iff.mp fronted
    rw [← map_letter_subprotocol] at named
    obtain rfl := (List.map_inj_right fun _ _ => letter_injective).mp named
    have before := (gaps fun b member => List.mem_append_left _
      (List.mem_append_left _ member)).mp blankLead
    have behind := (gaps fun b member => List.mem_append_right _ member).mp blankTrail
    refine ⟨leading, trailing, fun b member => ?_, rfl⟩
    exact (List.mem_append.mp member).elim (before b) (behind b)
  · rintro ⟨lead, trail, gap, rfl⟩
    have first : ∀ c ∈ subprotocol.toList.head?, Text.isBlank c = false := by
      rintro c ⟨⟩
      rfl
    have last : ∀ c ∈ subprotocol.toList.getLast?, Text.isBlank c = false := by
      rintro c ⟨⟩
      rfl
    refine ⟨⟨lead.map letter, trail.map letter, ?_, ?_, ?_⟩, first, last⟩
    · exact (gaps fun b member => List.mem_append_left _ (List.mem_append_left _ member)).mpr
        fun b member => gap b (List.mem_append_left _ member)
    · exact (gaps fun b member => List.mem_append_right _ member).mpr
        fun b member => gap b (List.mem_append_right _ member)
    · rw [List.map_append, List.map_append, map_letter_subprotocol]

private theorem usable_append {front back : List UInt8} :
    Usable (front ++ back) ↔ Usable front ∧ Usable back := List.forall_mem_append

private theorem usable_intercalate {parts : List (List UInt8)} :
    Usable ([comma].intercalate parts) ↔ ∀ part ∈ parts, Usable part := by
  have dividing : Usable [comma] := by
    intro b member
    rw [List.mem_singleton.mp member]
    decide
  induction parts with
  | nil => exact iff_of_true nofun nofun
  | cons part rest ih =>
      cases rest with
      | nil => simp only [List.intercalate_singleton, List.mem_singleton, forall_eq]
      | cons next more =>
          rw [List.intercalate_cons_cons, usable_append, usable_append, List.forall_mem_cons]
          exact and_congr (and_iff_left dividing) ih

/-- The elements of a list are those of its parts. -/
theorem splitOn_intercalate {parts : List (List UInt8)} (some_part : parts ≠ []) :
    ([comma].intercalate parts).splitOn comma = parts.flatMap (·.splitOn comma) := by
  induction parts with
  | nil => exact absurd rfl some_part
  | cons part rest ih =>
      cases rest with
      | nil => rw [List.intercalate_singleton, List.flatMap_singleton]
      | cons next more =>
          rw [List.intercalate_cons_cons, List.append_assoc, List.singleton_append,
            List.splitOn_append_cons_self, ih (List.cons_ne_nil _ _)]
          rfl

/-- A client offers the subprotocol if and only if a value that can be used has its name as an
element. -/
theorem isOffered_iff {values : List (List UInt8)} :
    isOffered values = true ↔
      ∃ value ∈ values, Usable value ∧ ∃ element ∈ value.splitOn comma, Names element := by
  have found {value : List UInt8} (usable : Usable value) :
      (elements (value.map letter)).contains subprotocol.toList = true ↔
        ∃ element ∈ value.splitOn comma, Names element := by
    have each : ∀ element ∈ value.splitOn comma, Usable element :=
      usable_intercalate.mp (List.intercalate_splitOn comma ▸ usable)
    rw [List.contains_iff_mem, elements, ← show letter comma = ',' from rfl,
      Text.split_map (fun _ => letter_injective), List.map_map, List.mem_map]
    exact exists_congr fun element => and_congr_right fun member =>
      trim_eq_subprotocol (each element member)
  rw [isOffered, List.any_eq_true]
  refine exists_congr fun value => and_congr_right fun _ => ?_
  constructor
  · intro named
    cases plain : plainText? value with
    | none =>
        rw [plain] at named
        cases named
    | some text =>
        have usable := usable_of_plainText? plain
        rw [plainText?_of_usable usable] at named
        exact ⟨usable, (found usable).mp named⟩
  · rintro ⟨usable, named⟩
    rw [plainText?_of_usable usable]
    exact (found usable).mpr named

private theorem isOffered_append (front back : List (List UInt8)) :
    isOffered (front ++ back) = (isOffered front || isOffered back) := List.any_append

/-- Parts of a list say the same as the list. -/
theorem isOffered_intercalate {parts : List (List UInt8)} (usable : ∀ part ∈ parts, Usable part) :
    isOffered [[comma].intercalate parts] = isOffered parts := by
  cases parts with
  | nil => decide
  | cons first rest =>
      have pieces := splitOn_intercalate (List.cons_ne_nil first rest)
      rw [Bool.eq_iff_iff, isOffered_iff, isOffered_iff]
      constructor
      · rintro ⟨value, member, -, element, inside, names⟩
        rw [List.mem_singleton.mp member, pieces] at inside
        obtain ⟨part, listed, found⟩ := List.mem_flatMap.mp inside
        exact ⟨part, listed, usable part listed, element, found, names⟩
      · rintro ⟨part, listed, -, element, found, names⟩
        refine ⟨_, List.mem_singleton_self _, usable_intercalate.mpr usable, element, ?_, names⟩
        rw [pieces]
        exact List.mem_flatMap.mpr ⟨part, listed, found⟩

/-- **Offers are made by elements.** A client offers the subprotocol if and only if a value of
visible ASCII, spaces and tabs has between its commas the exact name, with at most spaces and tabs
around it. So the order of the values does not matter, a value with other bytes does not matter,
and neither does it matter whether values that can be used are sent apart or as one value with
commas between them. -/
theorem offers_by_element (values : List (List UInt8)) :
    (isOffered values = true ↔
      ∃ value ∈ values, Usable value ∧ ∃ element ∈ value.splitOn comma, Names element) ∧
    (∀ others, others.Perm values → isOffered others = isOffered values) ∧
    (∀ front value back, values = front ++ value :: back → ¬ Usable value →
      isOffered (front ++ back) = isOffered values) ∧
    ∀ front parts back, values = front ++ parts ++ back → (∀ part ∈ parts, Usable part) →
      isOffered (front ++ [comma].intercalate parts :: back) = isOffered values := by
  refine ⟨isOffered_iff, fun others same => same.any_eq, ?_, ?_⟩
  · rintro front value back rfl unusable
    have nothing : isOffered [value] = false := by
      rw [Bool.eq_false_iff]
      intro offered
      obtain ⟨_, member, usable, -⟩ := isOffered_iff.mp offered
      exact unusable (List.mem_singleton.mp member ▸ usable)
    rw [← List.singleton_append, isOffered_append, isOffered_append, isOffered_append, nothing,
      Bool.false_or]
  · rintro front parts back rfl usable
    rw [← List.singleton_append, isOffered_append, isOffered_append, isOffered_append,
      isOffered_append, isOffered_intercalate usable, Bool.or_assoc]

/-- A value with another name, one with the subprotocol behind a comma and with blanks around it,
and one that cannot be used. -/
def threeValues : List (List UInt8) := [[99], 44 :: 9 :: Text.utf8 subprotocol ++ [32], [200]]

/-- Three values, of which one offers the subprotocol among others. -/
theorem offers_by_element_threeValues :
    isOffered threeValues = true ∧ threeValues.reverse.Perm threeValues ∧
      isOffered threeValues.reverse = true ∧ ¬ Usable [200] ∧
      isOffered (threeValues.take 2) = true ∧ (∀ part ∈ threeValues.take 2, Usable part) ∧
      isOffered [[comma].intercalate (threeValues.take 2), [200]] = true := by
  obtain ⟨named, reordered, without, joined⟩ := offers_by_element threeValues
  have usable : ∀ part ∈ threeValues.take 2, Usable part := by
    have plain : (threeValues.take 2).all (fun part => part.all isPlain) = true := by
      rw [threeValues, Text.utf8_eq]
      decide
    exact fun part member => usable_iff.mpr (List.all_eq_true.mp plain part member)
  have unusable : ¬ Usable [200] := by
    rw [usable_iff]
    decide
  have gap : ∀ b ∈ [9] ++ [32], b = 9 ∨ b = (32 : UInt8) := by
    rintro b (_ | ⟨_, _ | ⟨_, ⟨⟩⟩⟩)
    · exact .inl rfl
    · exact .inr rfl
  have offered : isOffered threeValues = true := by
    refine named.mpr ⟨_, List.mem_cons_of_mem _ List.mem_cons_self,
      usable _ (List.mem_cons_of_mem _ List.mem_cons_self), 9 :: Text.utf8 subprotocol ++ [32], ?_,
      [9], [32], gap, rfl⟩
    rw [Text.utf8_eq]
    decide
  refine ⟨offered, List.reverse_perm _, ?_, unusable, ?_, usable, ?_⟩
  · rw [reordered _ (List.reverse_perm _), offered]
  · rw [← offered, ← without (threeValues.take 2) [200] [] rfl unusable, List.append_nil]
  · rw [← offered, ← joined [] (threeValues.take 2) [[200]] rfl usable, List.nil_append]

end LinkGauge.Service
