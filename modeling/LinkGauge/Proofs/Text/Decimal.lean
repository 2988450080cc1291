import LinkGauge.Text.Decimal
import Mathlib.Algebra.Group.Nat.Defs
import Mathlib.Data.Nat.Init

/-!
# Numerals and their digits

Every digit has the value it was written for, and a numeral is its first digit or a shorter
numeral with one more digit, so what reads digit by digit can be followed by induction on the
number. A decimal numeral is read back, also with zeros in front (`readDecimal?_padded`), so
numbers are told by their digits, with a sign as well (`signedDecimal_injective`). In any base they
are told by the digits that fill a width, in letters of either case (`eq_of_map_padded`).
-/

namespace LinkGauge.Text

/-- A decimal digit has its value. -/
theorem digitValue?_digitChar {d : Nat} (small : d < 10) : digitValue? (digitChar d) = some d := by
  have all : ∀ d < 10, digitValue? (digitChar d) = some d := by decide
  exact all d small

/-- A hexadecimal digit has its value. -/
theorem hexValue?_digitChar {d : Nat} (small : d < 16) : hexValue? (digitChar d) = some d := by
  have all : ∀ d < 16, hexValue? (digitChar d) = some d := by decide
  exact all d small

/-- A number below the base is one digit. -/
theorem numeral_of_lt {base n : Nat} (small : n < base) : numeral base n = [digitChar n] := by
  rw [numeral, dif_pos (.inl small)]

/-- Any other number is a digit behind those of its quotient. -/
theorem numeral_of_le {base n : Nat} (atLeastTwo : 2 ≤ base) (large : base ≤ n) :
    numeral base n = numeral base (n / base) ++ [digitChar (n % base)] := by
  rw [numeral, dif_neg (by omega)]

/-- The numeral of a byte fills four places with two zeros and two digits. -/
theorem padded_byte {n : Nat} (small : n < 256) :
    padded 4 (numeral 16 n) = ['0', '0', digitChar (n / 16), digitChar (n % 16)] := by
  by_cases digit : n < 16
  · rw [numeral_of_lt digit, Nat.div_eq_of_lt digit, Nat.mod_eq_of_lt digit]
    rfl
  · rw [numeral_of_le (by omega) (by omega), numeral_of_lt (by omega)]
    rfl

private theorem isDigit_digitChar {d : Nat} (small : d < 10) : (digitChar d).isDigit = true := by
  have all : ∀ d < 10, (digitChar d).isDigit = true := by decide
  exact all d small

private theorem exists_digitChar_of_mem_numeral {base n : Nat} {c : Char} (atLeastTwo : 2 ≤ base)
    (member : c ∈ numeral base n) : ∃ d < base, digitChar d = c := by
  induction n using Nat.strongRecOn with
  | ind n ih =>
      by_cases small : n < base
      · rw [numeral_of_lt small, List.mem_singleton] at member
        exact ⟨n, small, member.symm⟩
      · rw [numeral_of_le atLeastTwo (by omega)] at member
        rcases List.mem_append.mp member with early | last
        · exact ih (n / base) (Nat.div_lt_self (by omega) (by omega)) early
        · exact ⟨n % base, Nat.mod_lt n (by omega), (List.mem_singleton.mp last).symm⟩

/-- Zeros in front are digits too. -/
theorem exists_digitChar_of_mem_padded {base width n : Nat} {c : Char} (atLeastTwo : 2 ≤ base)
    (member : c ∈ padded width (numeral base n)) : ∃ d < base, digitChar d = c := by
  rcases List.mem_append.mp member with zero | digit
  · exact ⟨0, by omega, (List.eq_of_mem_replicate zero).symm⟩
  · exact exists_digitChar_of_mem_numeral atLeastTwo digit

private theorem isDigit_of_mem_decimal {n : Nat} {c : Char} (member : c ∈ decimal n) :
    c.isDigit = true := by
  obtain ⟨d, small, rfl⟩ := exists_digitChar_of_mem_numeral (by decide) member
  exact isDigit_digitChar small

/-- A filled decimal numeral has only digits. -/
theorem isDigit_of_mem_padded {width n : Nat} {c : Char} (member : c ∈ padded width (decimal n)) :
    c.isDigit = true := by
  obtain ⟨d, small, rfl⟩ := exists_digitChar_of_mem_padded (by decide) member
  exact isDigit_digitChar small

/-- What is no digit is in no hexadecimal numeral. -/
theorem notMem_padded {c : Char} (noDigit : ∀ d < 16, digitChar d ≠ c) (width n : Nat) :
    c ∉ padded width (numeral 16 n) := by
  intro member
  obtain ⟨d, small, same⟩ := exists_digitChar_of_mem_padded (by decide) member
  exact noDigit d small same

/-- What is neither a digit nor a minus sign is in no decimal numeral. -/
theorem notMem_signedDecimal {c : Char} (noSign : c ≠ '-') (noDigit : c.isDigit = false) (n : Int) :
    c ∉ signedDecimal n := by
  have digits (n : Nat) : c ∉ decimal n := fun member =>
    absurd (isDigit_of_mem_decimal member) (Bool.eq_false_iff.mp noDigit)
  cases n with
  | ofNat n => exact digits n
  | negSucc n => exact List.not_mem_cons_of_ne_of_not_mem noSign (digits (n + 1))

/-- A decimal numeral has a digit. -/
theorem length_decimal_pos (n : Nat) : 0 < (decimal n).length := by
  rw [decimal]
  by_cases small : n < 10
  · rw [numeral_of_lt small]
    exact Nat.zero_lt_one
  · rw [numeral_of_le (by decide) (by omega), List.length_append]
    exact Nat.succ_pos _

private theorem length_numeral_le {base n width : Nat} (atLeastTwo : 2 ≤ base)
    (some_place : 0 < width) (small : n < base ^ width) : (numeral base n).length ≤ width := by
  induction width generalizing n with
  | zero => exact absurd some_place (Nat.lt_irrefl 0)
  | succ width ih =>
      by_cases digit : n < base
      · rw [numeral_of_lt digit]
        exact Nat.succ_le_succ (Nat.zero_le width)
      · have further : 0 < width := by
          rcases Nat.eq_zero_or_pos width with rfl | further
          · rw [Nat.pow_one] at small
            exact absurd small digit
          · exact further
        have shorter := ih further (Nat.div_lt_of_lt_mul (Nat.pow_succ' ▸ small))
        rw [numeral_of_le atLeastTwo (by omega), List.length_append]
        exact Nat.succ_le_succ shorter

/-- A filled numeral is as long as its width, or longer if it was. -/
theorem length_padded (width : Nat) (digits : List Char) :
    (padded width digits).length = max width digits.length := by
  rw [padded, List.length_append, List.length_replicate]
  omega

private theorem length_padded_numeral {base n width : Nat} (atLeastTwo : 2 ≤ base)
    (some_place : 0 < width) (small : n < base ^ width) :
    (padded width (numeral base n)).length = width := by
  rw [length_padded, Nat.max_eq_left (length_numeral_le atLeastTwo some_place small)]

/-- A number that fits has as many hexadecimal digits as its width. -/
theorem length_upperHex {width n : Nat} (some_place : 0 < width) (fits : n < 16 ^ width) :
    (upperHex width n).toList.length = width := by
  rw [upperHex, String.toList_ofList, List.length_map,
    length_padded_numeral (by decide) some_place fits]

/-- A number that fits has as many decimal digits as its width. -/
theorem length_padded_decimal {n width : Nat} (some_place : 0 < width) (small : n < 10 ^ width) :
    (padded width (decimal n)).length = width :=
  length_padded_numeral (by decide) some_place small

private theorem ofDigits?_append (start : Nat) (first second : List Char) :
    ofDigits? start (first ++ second) = (ofDigits? start first).bind (ofDigits? · second) := by
  induction first generalizing start with
  | nil => rfl
  | cons c rest ih =>
      rw [List.cons_append, ofDigits?, ofDigits?]
      cases digitValue? c with
      | none => rfl
      | some d => exact ih (start * 10 + d)

/-- The digits of a number are read as the number. -/
theorem ofDigits?_decimal (n : Nat) : ofDigits? 0 (decimal n) = some n := by
  induction n using Nat.strongRecOn with
  | ind n ih =>
      rw [decimal]
      by_cases small : n < 10
      · rw [numeral_of_lt small, ofDigits?, digitValue?_digitChar small]
        exact congrArg some (by omega)
      · rw [numeral_of_le (by decide) (by omega), ofDigits?_append, ← decimal,
          ih (n / 10) (by omega), Option.bind_some, ofDigits?,
          digitValue?_digitChar (Nat.mod_lt n (by decide))]
        exact congrArg some (by omega)

private theorem ofDigits?_zeros (count : Nat) :
    ofDigits? 0 (List.replicate count '0') = some 0 := by
  induction count with
  | zero => rfl
  | succ count ih => exact ih

/-- Zeros in front do not change the number that is read. -/
theorem readDecimal?_padded (width n : Nat) :
    readDecimal? (padded width (decimal n)) = some n := by
  have digits : 0 < (padded width (decimal n)).length := by
    rw [length_padded]
    exact Nat.lt_of_lt_of_le (length_decimal_pos n) (Nat.le_max_right ..)
  have whole : ofDigits? 0 (padded width (decimal n)) = some n := by
    rw [padded, ofDigits?_append, ofDigits?_zeros, Option.bind_some, ofDigits?_decimal]
  cases same : padded width (decimal n) with
  | nil =>
      rw [same] at digits
      exact absurd digits (Nat.lt_irrefl 0)
  | cons c rest =>
      rw [same] at whole
      exact whole

/-! ## Numbers told by their digits -/

private theorem decimal_injective : Function.Injective decimal := by
  intro n m same
  have read := ofDigits?_decimal n
  rw [same, ofDigits?_decimal] at read
  exact (Option.some.inj read).symm

/-- No digit is a minus sign, so the sign is told apart from the digits. -/
theorem signedDecimal_injective : Function.Injective signedDecimal := by
  have unsigned (n m : Nat) : decimal n ≠ '-' :: decimal m := fun same =>
    absurd (isDigit_of_mem_decimal (same ▸ List.mem_cons_self)) (by decide)
  intro first second same
  cases first with
  | ofNat n =>
      cases second with
      | ofNat m => exact congrArg Int.ofNat (decimal_injective same)
      | negSucc m => exact absurd same (unsigned n (m + 1))
  | negSucc n =>
      cases second with
      | ofNat m => exact absurd same.symm (unsigned m (n + 1))
      | negSucc m =>
          exact congrArg Int.negSucc (Nat.succ.inj (decimal_injective (List.cons.inj same).2))

/-- Different integers have different texts. -/
theorem intText_injective : Function.Injective intText := fun _ _ same =>
  signedDecimal_injective (String.ofList_inj.mp same)

/-- A filled numeral is that of the number without its last digit, in one place less, and the
last digit. -/
private theorem padded_succ {base width : Nat} (atLeastTwo : 2 ≤ base) (some_place : 0 < width)
    (n : Nat) :
    padded (width + 1) (numeral base n) =
      padded width (numeral base (n / base)) ++ [digitChar (n % base)] := by
  by_cases small : n < base
  · obtain ⟨width, rfl⟩ := Nat.exists_eq_add_one.mpr some_place
    rw [Nat.div_eq_of_lt small, Nat.mod_eq_of_lt small, numeral_of_lt small,
      numeral_of_lt (Nat.zero_lt_of_lt atLeastTwo)]
    exact congrArg (· ++ [digitChar n]) List.replicate_succ'
  · rw [numeral_of_le atLeastTwo (Nat.not_lt.mp small), padded, padded, List.length_append,
      List.length_singleton, Nat.add_sub_add_right, List.append_assoc]

/-- Numbers that fill no more than a width are told by their digits, whatever letters stand for
these. -/
theorem eq_of_map_padded {base width n m : Nat} {letter : Char → Char} (atLeastTwo : 2 ≤ base)
    (apart : ∀ d < base, ∀ e < base, letter (digitChar d) = letter (digitChar e) → d = e)
    (some_place : 0 < width) (fits : n < base ^ width) (also : m < base ^ width)
    (same : (padded width (numeral base n)).map letter =
      (padded width (numeral base m)).map letter) : n = m := by
  induction width, some_place using Nat.le_induction generalizing n m with
  | base =>
      rw [Nat.pow_one] at fits also
      rw [numeral_of_lt fits, numeral_of_lt also] at same
      exact apart n fits m also (List.cons.inj same).1
  | succ width some_place ih =>
      rw [padded_succ atLeastTwo some_place, padded_succ atLeastTwo some_place, List.map_append,
        List.map_append] at same
      obtain ⟨front, last⟩ := List.append_inj' same rfl
      have quotients : n / base = m / base :=
        ih (Nat.div_lt_of_lt_mul (Nat.pow_succ' ▸ fits))
          (Nat.div_lt_of_lt_mul (Nat.pow_succ' ▸ also)) front
      have remainders : n % base = m % base :=
        apart _ (Nat.mod_lt n (by omega)) _ (Nat.mod_lt m (by omega)) (List.cons.inj last).1
      rw [← Nat.div_add_mod n base, quotients, remainders, Nat.div_add_mod]

/-- Numbers that fit are known by their filled numerals. -/
theorem eq_of_padded {width n m : Nat} (some_place : 0 < width) (fits : n < 16 ^ width)
    (also : m < 16 ^ width)
    (same : padded width (numeral 16 n) = padded width (numeral 16 m)) : n = m := by
  have apart : ∀ d < 16, ∀ e < 16, id (digitChar d) = id (digitChar e) → d = e := by decide
  exact eq_of_map_padded (by decide) apart some_place fits also (congrArg (List.map id) same)

/-- Numbers that fit are known by their upper-case digits. -/
theorem eq_of_upperHex {width n m : Nat} (some_place : 0 < width) (fits : n < 16 ^ width)
    (also : m < 16 ^ width) (same : upperHex width n = upperHex width m) : n = m := by
  have apart : ∀ d < 16, ∀ e < 16, (digitChar d).toUpper = (digitChar e).toUpper → d = e := by
    decide
  exact eq_of_map_padded (by decide) apart some_place fits also (String.ofList_inj.mp same)

end LinkGauge.Text
