import LinkGauge.Text.Utf8

/-!
# Texts and their bytes

The bytes of a text are those of its characters, one after another (`Text.utf8_eq`). Every
character is found again at the front of its bytes, so the glyphs of the bytes are the characters
(`Text.glyphs_utf8`). A byte below 128 never belongs to a longer character: a newline in the bytes
is one in the text (`Text.newline_notMem_utf8`).
-/

namespace LinkGauge.Text

private theorem toList_loop (bytes : ByteArray) (i : Nat) (done : List UInt8) :
    ByteArray.toList.loop bytes i done = done.reverse ++ bytes.data.toList.drop i := by
  fun_induction ByteArray.toList.loop bytes i done with
  | case1 i done more ih =>
      have inside : i < bytes.data.toList.length := more
      have next : bytes.get! i = bytes.data.toList[i] := getElem!_pos bytes.data i more
      rw [ih, List.drop_eq_getElem_cons inside, next, List.reverse_cons, List.append_assoc,
        List.singleton_append]
  | case2 i done past =>
      have outside : bytes.data.toList.length ≤ i := Nat.le_of_not_lt past
      rw [List.drop_eq_nil_of_le outside, List.append_nil]

/-- The bytes of a text are those of its characters. -/
theorem utf8_eq (text : String) : utf8 text = text.toList.flatMap String.utf8EncodeChar := by
  have encoded : text.toByteArray = text.toList.utf8Encode := by
    rw [← String.toByteArray_ofList, String.ofList_toList]
  rw [utf8, String.toUTF8_eq_toByteArray, encoded, List.utf8Encode, ByteArray.toList, toList_loop,
    List.reverse_nil, List.nil_append, List.drop_zero, List.toList_data_toByteArray]

private theorem continuation?_ofNat {n : Nat} (small : n < 64) :
    continuation? (UInt8.ofNat (n + 0x80)) = some n := by
  have all : ∀ n < 64, continuation? (UInt8.ofNat (n + 0x80)) = some n := by decide
  exact all n small

private theorem scalar?_toNat (c : Char) {least code : Nat} (same : code = c.toNat)
    (large : least ≤ code) (length : Nat) : scalar? least code length = some (c, length) := by
  subst same
  have valid : c.toNat.isValidChar := c.valid
  rw [scalar?, dif_pos ⟨large, valid⟩]
  rfl

private theorem leading?_one {n : Nat} (small : n < 0x80) (rest : List UInt8) :
    leading? (UInt8.ofNat n :: rest) = some (Char.ofNat n, 1) := by
  have first : ∀ n < 0x80, UInt8.ofNat n < 0x80 ∧ (UInt8.ofNat n).toNat = n := by decide
  obtain ⟨ascii, same⟩ := first n small
  rw [leading?.eq_def]
  dsimp only
  rw [if_pos ascii, same]

private theorem leading?_two {n : Nat} (small : n < 0x20) (b : UInt8) (rest : List UInt8) :
    leading? (UInt8.ofNat (n + 0xC0) :: b :: rest) =
      (continuation? b).bind fun second => scalar? 0x80 (n * 64 + second) 2 := by
  have first : ∀ n < 0x20, ¬ UInt8.ofNat (n + 0xC0) < 0x80 ∧
      (0xC0 ≤ UInt8.ofNat (n + 0xC0) ∧ UInt8.ofNat (n + 0xC0) < 0xE0) ∧
      (UInt8.ofNat (n + 0xC0)).toNat - 0xC0 = n := by decide
  obtain ⟨long, range, same⟩ := first n small
  rw [leading?, if_neg long, if_pos range, same]
  rfl

private theorem leading?_three {n : Nat} (small : n < 0x10) (b c : UInt8) (rest : List UInt8) :
    leading? (UInt8.ofNat (n + 0xE0) :: b :: c :: rest) =
      (continuation? b).bind fun second => (continuation? c).bind fun third =>
        scalar? 0x800 (n * 4096 + second * 64 + third) 3 := by
  have first : ∀ n < 0x10, ¬ UInt8.ofNat (n + 0xE0) < 0x80 ∧
      ¬ (0xC0 ≤ UInt8.ofNat (n + 0xE0) ∧ UInt8.ofNat (n + 0xE0) < 0xE0) ∧
      (0xE0 ≤ UInt8.ofNat (n + 0xE0) ∧ UInt8.ofNat (n + 0xE0) < 0xF0) ∧
      (UInt8.ofNat (n + 0xE0)).toNat - 0xE0 = n := by decide
  obtain ⟨long, notTwo, range, same⟩ := first n small
  rw [leading?, if_neg long, if_neg notTwo, if_pos range, same]
  rfl

private theorem leading?_four {n : Nat} (small : n < 0x08) (b c d : UInt8) (rest : List UInt8) :
    leading? (UInt8.ofNat (n + 0xF0) :: b :: c :: d :: rest) =
      (continuation? b).bind fun second => (continuation? c).bind fun third =>
        (continuation? d).bind fun fourth =>
          scalar? 0x10000 (n * 262144 + second * 4096 + third * 64 + fourth) 4 := by
  have first : ∀ n < 0x08, ¬ UInt8.ofNat (n + 0xF0) < 0x80 ∧
      ¬ (0xC0 ≤ UInt8.ofNat (n + 0xF0) ∧ UInt8.ofNat (n + 0xF0) < 0xE0) ∧
      ¬ (0xE0 ≤ UInt8.ofNat (n + 0xF0) ∧ UInt8.ofNat (n + 0xF0) < 0xF0) ∧
      (0xF0 ≤ UInt8.ofNat (n + 0xF0) ∧ UInt8.ofNat (n + 0xF0) < 0xF8) ∧
      (UInt8.ofNat (n + 0xF0)).toNat - 0xF0 = n := by decide
  obtain ⟨long, notTwo, notThree, range, same⟩ := first n small
  rw [leading?, if_neg long, if_neg notTwo, if_neg notThree, if_pos range, same]
  rfl

/-- A character is found at the front of its bytes. -/
theorem leading?_utf8EncodeChar (c : Char) (rest : List UInt8) :
    leading? (String.utf8EncodeChar c ++ rest) = some (c, (String.utf8EncodeChar c).length) := by
  have code : c.val.toNat = c.toNat := rfl
  have bounded : c.toNat < 0x110000 := by
    rcases c.valid with low | high
    · exact Nat.lt_trans low (by decide)
    · exact high.2
  have last {n : Nat} : n % 0x40 < 64 := Nat.mod_lt _ (by decide)
  unfold String.utf8EncodeChar
  simp only [code]
  split
  · next one =>
      rw [List.singleton_append, leading?_one (by omega), Char.ofNat_toNat, List.length_singleton]
  split
  · rw [List.cons_append, List.cons_append, leading?_two (by omega), continuation?_ofNat last,
      Option.bind_some, scalar?_toNat c (by omega) (by omega)]
    simp only [List.length_cons, List.length_nil]
  split
  · rw [List.cons_append, List.cons_append, List.cons_append, leading?_three (by omega),
      continuation?_ofNat last, continuation?_ofNat last, Option.bind_some, Option.bind_some,
      scalar?_toNat c (by omega) (by omega)]
    simp only [List.length_cons, List.length_nil]
  · rw [List.cons_append, List.cons_append, List.cons_append, List.cons_append,
      leading?_four (by omega), continuation?_ofNat last, continuation?_ofNat last,
      continuation?_ofNat last, Option.bind_some, Option.bind_some, Option.bind_some,
      scalar?_toNat c (by omega) (by omega)]
    simp only [List.length_cons, List.length_nil]

private theorem glyphsFrom_skip (skipped rest : List UInt8) :
    glyphsFrom skipped.length (skipped ++ rest) = glyphsFrom 0 rest := by
  induction skipped with
  | nil => rfl
  | cons b more ih => exact ih

private theorem glyphsFrom_utf8EncodeChar (c : Char) (rest : List UInt8) :
    glyphsFrom 0 (String.utf8EncodeChar c ++ rest) = some c :: glyphsFrom 0 rest := by
  have found := leading?_utf8EncodeChar c rest
  cases bytes : String.utf8EncodeChar c with
  | nil => exact absurd bytes String.utf8EncodeChar_ne_nil
  | cons b more =>
      rw [bytes, List.cons_append] at found
      rw [List.cons_append, glyphsFrom, found]
      exact congrArg (some c :: ·) (glyphsFrom_skip more rest)

/-- The glyphs of a text's bytes are its characters. -/
theorem glyphs_utf8 (text : String) : glyphs (utf8 text) = glyphsOf text := by
  rw [utf8_eq, glyphs, glyphsOf]
  induction text.toList with
  | nil => rfl
  | cons c cs ih => rw [List.flatMap_cons, glyphsFrom_utf8EncodeChar, ih, List.map_cons]

private theorem eq_newline_of_mem {c : Char} (member : 10 ∈ String.utf8EncodeChar c) :
    c = '\n' := by
  have code : c.val.toNat = c.toNat := rfl
  have ascii : ∀ n ≤ 0x7f, 10 = UInt8.ofNat n → n = 10 := by decide
  have later : ∀ n < 64, 10 ≠ UInt8.ofNat (n + 0x80) := by decide
  have two : ∀ n < 0x20, 10 ≠ UInt8.ofNat (n + 0xc0) := by decide
  have three : ∀ n < 0x10, 10 ≠ UInt8.ofNat (n + 0xe0) := by decide
  have four : ∀ n < 0x08, 10 ≠ UInt8.ofNat (n + 0xf0) := by decide
  have last {n : Nat} : 10 ≠ UInt8.ofNat (n % 0x40 + 0x80) := later _ (Nat.mod_lt _ (by decide))
  unfold String.utf8EncodeChar at member
  simp only [code] at member
  split at member
  · next one =>
      have same := ascii _ one (List.mem_singleton.mp member)
      rw [← Char.ofNat_toNat c, same]
  split at member
  · simp only [List.mem_cons, last, two _ (Nat.mod_lt _ (by decide : 0 < 0x20)), List.not_mem_nil,
      or_self] at member
  split at member
  · simp only [List.mem_cons, last, three _ (Nat.mod_lt _ (by decide : 0 < 0x10)),
      List.not_mem_nil, or_self] at member
  · simp only [List.mem_cons, last, four _ (Nat.mod_lt _ (by decide : 0 < 0x08)),
      List.not_mem_nil, or_self] at member

/-- The bytes of a text without newlines have none. -/
theorem newline_notMem_utf8 {text : String} (oneLine : '\n' ∉ text.toList) : 10 ∉ utf8 text := by
  intro member
  rw [utf8_eq] at member
  obtain ⟨c, found, inside⟩ := List.mem_flatMap.mp member
  exact oneLine (eq_newline_of_mem inside ▸ found)

end LinkGauge.Text
