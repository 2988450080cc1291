import LinkGauge.Proofs.Calendar
import LinkGauge.Proofs.Text.Decimal
import LinkGauge.UtcTime

/-!
# Moments are read back

Every moment is read back from its text to the nanosecond, as the regular moment that shows the
same date and time of day (`UtcTime.ofText?_toText`). That is the moment itself unless it has a
leap second inside a minute (`UtcTime.shown_eq_self_iff`). Each part of the text is read by its
own rule, whatever stands behind it, and is followed by a character that cannot belong to it.
-/

namespace LinkGauge.UtcTime

open Text Text.Reads

private theorem not_isBlank_of_isDigit {c : Char} (digit : c.isDigit = true) :
    isBlank c = false := by
  have bounds : 48 ≤ c.toNat ∧ c.toNat ≤ 57 := by
    simp only [Char.isDigit, Bool.and_eq_true, decide_eq_true_eq] at digit
    exact digit
  simp only [isBlank, Bool.or_eq_false_iff, Bool.and_eq_false_iff, decide_eq_false_iff_not,
    beq_eq_false_iff_ne]
  omega

private theorem trimStart_cons {c : Char} (visible : isBlank c = false) (rest : List Char) :
    trimStart (c :: rest) = c :: rest := by
  rw [trimStart, List.dropWhile_cons, if_neg (by rw [visible]; exact Bool.false_ne_true)]

private theorem char?_trimStart {c : Char} (visible : isBlank c = false) (rest : List Char) :
    char? c (trimStart (c :: rest)) = some ((), rest) := by
  rw [trimStart_cons visible, char?, if_pos rfl]

/-- Whether characters begin with a digit. -/
def LeadsOn (chars : List Char) : Prop := ∃ c ∈ chars.head?, c.isDigit = true

/-- A character that is no digit does not lead on. -/
theorem not_leadsOn {c : Char} (other : c.isDigit = false) (rest : List Char) :
    ¬ LeadsOn (c :: rest) := by
  rintro ⟨d, first, digit⟩
  cases first
  rw [other] at digit
  exact Bool.false_ne_true digit

private theorem takeWhile_eq_nil {chars : List Char} (other : ¬ LeadsOn chars) :
    chars.takeWhile Char.isDigit = [] := by
  cases chars with
  | nil => rfl
  | cons c rest =>
      rw [List.takeWhile_cons, if_neg]
      exact fun digit => other ⟨c, rfl, digit⟩

section Digits

variable {front : List Char} (digits : ∀ c ∈ front, c.isDigit = true)
include digits

/-- Digits are read up to the greatest number of them or up to another character. -/
private theorem digits?_append {most : Nat} (some_digit : front ≠ []) {rest : List Char}
    (fits : front.length ≤ most) (ends : front.length = most ∨ ¬ LeadsOn rest) :
    digits? most (front ++ rest) = some (front, rest) := by
  have further : (rest.take (most - front.length)).takeWhile Char.isDigit = [] := by
    rw [← List.take_takeWhile]
    rcases ends with full | other
    · rw [full, Nat.sub_self, List.take_zero]
    · rw [takeWhile_eq_nil other, List.take_nil]
  have read : ((front ++ rest).take most).takeWhile Char.isDigit = front := by
    rw [List.take_append, List.take_of_length_le fits, List.takeWhile_append_of_pos digits,
      further, List.append_nil]
  have present : front.isEmpty = false := by
    rw [List.isEmpty_eq_false_iff]
    exact some_digit
  rw [digits?]
  simp only [read, present, Bool.false_eq_true, ↓reduceIte, List.drop_left]

private theorem trimStart_digits (some_digit : front ≠ []) (rest : List Char) :
    trimStart (front ++ rest) = front ++ rest := by
  cases front with
  | nil => exact absurd rfl some_digit
  | cons c front =>
      exact trimStart_cons (not_isBlank_of_isDigit (digits c List.mem_cons_self)) _

end Digits

private theorem padded_ne_nil (width n : Nat) : padded width (decimal n) ≠ [] := by
  intro empty
  have digits := length_padded width (decimal n)
  have some_digit := length_decimal_pos n
  rw [empty, List.length_nil] at digits
  omega

private theorem isDigit_of_padded (width n : Nat) :
    ∀ c ∈ padded width (decimal n), c.isDigit = true :=
  fun _ => isDigit_of_mem_padded

private theorem isDigit_of_padded_append {width n : Nat} {rest more : List Char} {c : Char}
    (same : padded width (decimal n) ++ rest = c :: more) : c.isDigit = true := by
  cases front : padded width (decimal n) with
  | nil => exact absurd front (padded_ne_nil width n)
  | cons d digits =>
      rw [front] at same
      have first : d = c := (List.cons.inj same).1
      exact isDigit_of_padded width n c (front ▸ first ▸ List.mem_cons_self)

private theorem bounded?_twoDigits {least greatest n : Nat} (enough : least ≤ n)
    (few : n ≤ greatest) (small : n < 100) (rest : List Char) :
    bounded? least greatest (twoDigits n ++ rest) = some (n, rest) := by
  have two : (twoDigits n).length = 2 := length_padded_decimal (by decide) small
  have read : digits? 2 (trimStart (twoDigits n ++ rest)) = some (twoDigits n, rest) := by
    rw [twoDigits, trimStart_digits (isDigit_of_padded 2 n) (padded_ne_nil 2 n),
      digits?_append (isDigit_of_padded 2 n) (padded_ne_nil 2 n) (Nat.le_of_eq two) (.inl two)]
  rw [bounded?, number?, read]
  simp only [twoDigits, readDecimal?_padded, Option.bind_eq_bind, Option.bind_some,
    Option.pure_def, enough, few, and_self, ↓reduceIte]

/-- A year is read up to the character behind it. -/
theorem year?_yearDigits (year : Int) {rest : List Char} (other : ¬ LeadsOn rest) :
    year? (yearDigits year ++ rest) = some (year, rest) := by
  have signed (n : Nat) : digits? (padded 4 (decimal n) ++ rest).length
      (padded 4 (decimal n) ++ rest) = some (padded 4 (decimal n), rest) :=
    digits?_append (isDigit_of_padded 4 n) (padded_ne_nil 4 n)
      (by rw [List.length_append]; exact Nat.le_add_right ..) (.inr other)
  by_cases positive : 0 ≤ year
  · have same : (year.toNat : Int) = year := Int.toNat_of_nonneg positive
    by_cases short : year ≤ 9999
    · have four : (padded 4 (decimal year.toNat)).length = 4 :=
        length_padded_decimal (by decide) (by omega)
      have read : digits? 4 (padded 4 (decimal year.toNat) ++ rest) =
          some (padded 4 (decimal year.toNat), rest) :=
        digits?_append (isDigit_of_padded 4 _) (padded_ne_nil 4 _) (Nat.le_of_eq four) (.inl four)
      rw [yearDigits, if_pos positive, if_pos short, List.nil_append, year?,
        trimStart_digits (isDigit_of_padded 4 _) (padded_ne_nil 4 _)]
      split
      · next minus => exact absurd (isDigit_of_padded_append minus) (by decide)
      · next plus => exact absurd (isDigit_of_padded_append plus) (by decide)
      · rw [read]
        simp only [readDecimal?_padded, Option.bind_eq_bind, Option.bind_some, Option.pure_def,
          same]
    · rw [yearDigits, if_pos positive, if_neg short, List.append_assoc, List.singleton_append,
        year?, trimStart_cons rfl]
      simp only [signed, readDecimal?_padded, Option.bind_eq_bind, Option.bind_some,
        Option.pure_def, same]
  · have same : (-((-year).toNat : Int)) = year := by omega
    rw [yearDigits, if_neg positive, List.cons_append, year?, trimStart_cons rfl]
    simp only [signed, readDecimal?_padded, Option.bind_eq_bind, Option.bind_some,
      Option.pure_def, same]

/-- A fraction is read back to the nanosecond, however many digits it was given. -/
private theorem fraction?_fractionDigits {nanos : Nat} (small : nanos < 1000000000) {c : Char}
    (other : c.isDigit = false) (noPoint : c ≠ '.') (rest : List Char) :
    fraction? (fractionDigits nanos ++ c :: rest) = some (nanos, c :: rest) := by
  have read {width n : Nat} (some_place : 0 < width) (few : width ≤ 9) (fits : n < 10 ^ width) :
      fraction? ('.' :: padded width (decimal n) ++ c :: rest) =
        some (n * 10 ^ (9 - width), c :: rest) := by
    have length := length_padded_decimal some_place fits
    have front : digits? 9 (padded width (decimal n) ++ c :: rest) =
        some (padded width (decimal n), c :: rest) :=
      digits?_append (isDigit_of_padded width n) (padded_ne_nil width n) (length.symm ▸ few)
        (.inr (not_leadsOn other rest))
    rw [List.cons_append, fraction?, front]
    simp only [readDecimal?_padded, length, Option.bind_eq_bind, Option.bind_some, Option.pure_def,
      List.dropWhile_cons, other, Bool.false_eq_true, ↓reduceIte]
    rfl
  rw [fractionDigits]
  by_cases zero : nanos = 0
  · rw [if_pos zero, List.nil_append, zero]
    unfold fraction?
    split
    · next same => exact absurd (List.cons.inj same).1 noPoint
    · rfl
  by_cases milli : nanos % 1000000 = 0
  · rw [if_neg zero, if_pos milli, read (by decide) (by decide) (by omega)]
    exact congrArg (fun n => some (n, c :: rest)) (by omega)
  by_cases micro : nanos % 1000 = 0
  · rw [if_neg zero, if_neg milli, if_pos micro, read (by decide) (by decide) (by omega)]
    exact congrArg (fun n => some (n, c :: rest)) (by omega)
  · rw [if_neg zero, if_neg milli, if_neg micro, read (by decide) (by decide) small]
    exact congrArg (fun n => some (n, c :: rest)) (by omega)

/-! ### Date and time of day -/

private theorem Regular.mod_eq {t : UtcTime} (regular : t.Regular) (late : 1000000000 ≤ t.nanos) :
    t.seconds % 60 = 59 := by
  have last := regular late
  rwa [Int.fmod_eq_emod_of_nonneg _ (by decide)] at last

private theorem mod_lt_of_not_regular {t : UtcTime} (inside : ¬ t.Regular) :
    1000000000 ≤ t.nanos ∧ t.seconds % 60 < 59 := by
  obtain ⟨late, earlier⟩ := Classical.not_imp.mp inside
  rw [Int.fmod_eq_emod_of_nonneg _ (by decide)] at earlier
  exact ⟨late, by omega⟩

/-- The second after a leap second inside a minute can be held. -/
theorem holds_next {t : UtcTime} (inside : ¬ t.Regular) :
    Holds (t.seconds + 1) (t.nanos - 1000000000) := by
  obtain ⟨first, last, few⟩ := t.holds
  obtain ⟨late, earlier⟩ := mod_lt_of_not_regular inside
  unfold firstSecond at first
  unfold lastSecond at last
  refine ⟨?_, ?_, by omega⟩
  · unfold firstSecond
    omega
  · unfold lastSecond
    omega

/-- The regular moment that shows the same date and time of day: a leap second inside a minute
shows the second after it. -/
def shown (t : UtcTime) : UtcTime :=
  if regular : t.Regular then t
  else { seconds := t.seconds + 1, nanos := t.nanos - 1000000000, holds := holds_next regular }

section Clock

variable (t : UtcTime)

private theorem secondOfDay_eq : (t.secondOfDay : Int) = t.seconds % 86400 := by
  rw [secondOfDay, Int.fmod_eq_emod_of_nonneg _ (by decide)]
  exact Int.toNat_of_nonneg (Int.emod_nonneg _ (by decide))

private theorem secondOfDay_lt : t.secondOfDay < 86400 := by
  have ofDay := t.secondOfDay_eq
  omega

private theorem date_eq : t.date = .ofDays (t.seconds / 86400) := by
  rw [date, Int.fdiv_eq_ediv_of_nonneg _ (by decide)]

variable {t}

/-- A regular moment is shown as it is. -/
theorem shown_of_regular (regular : t.Regular) : t.shown = t := dif_pos regular

private theorem shown_of_not_regular (inside : ¬ t.Regular) :
    t.shown = ⟨t.seconds + 1, t.nanos - 1000000000, holds_next inside⟩ :=
  dif_neg inside

variable (t)

/-- What is shown is regular. -/
theorem regular_shown : t.shown.Regular := by
  by_cases regular : t.Regular
  · rw [shown_of_regular regular]
    exact regular
  · rw [shown_of_not_regular regular]
    intro late
    have few := t.holds.2.2
    dsimp only at late
    omega

/-- A moment shows itself unless it has a leap second inside a minute. -/
theorem shown_eq_self_iff : t.shown = t ↔ t.Regular :=
  ⟨fun same => same ▸ t.regular_shown, shown_of_regular⟩

/-- Date and time of day are those of the moment that is shown. -/
theorem parts_shown :
    t.shown.date = t.date ∧ t.shown.hour = t.hour ∧ t.shown.minute = t.minute ∧
      t.shown.second = t.second ∧ t.shown.fraction = t.fraction := by
  by_cases regular : t.Regular
  · rw [shown_of_regular regular]
    exact ⟨rfl, rfl, rfl, rfl, rfl⟩
  · obtain ⟨late, earlier⟩ := mod_lt_of_not_regular regular
    have few := t.holds.2.2
    have ofDay := t.secondOfDay_eq
    have next := t.shown.secondOfDay_eq
    have same : t.shown.seconds = t.seconds + 1 ∧ t.shown.nanos = t.nanos - 1000000000 := by
      rw [shown_of_not_regular regular]
      exact ⟨rfl, rfl⟩
    rw [same.1] at next
    have later : t.shown.secondOfDay = t.secondOfDay + 1 := by omega
    refine ⟨?_, ?_, ?_, ?_, ?_⟩
    · have day : (t.seconds + 1) / 86400 = t.seconds / 86400 := by omega
      rw [date_eq, date_eq, same.1, day]
    · rw [hour, hour, later]
      omega
    · rw [minute, minute, later]
      omega
    · rw [second, second, later, same.2]
      omega
    · rw [fraction, fraction, same.2]
      omega

/-- The text is that of the moment that is shown. -/
theorem extended_shown : t.shown.extended = t.extended := by
  obtain ⟨dates, hours, minutes, seconds, fractions⟩ := t.parts_shown
  rw [extended, extended, dates, hours, minutes, seconds, fractions]

/-- A moment has the text of what is shown. -/
theorem toText_shown : t.shown.toText = t.toText := by
  rw [toText, toText, extended_shown]

private theorem second_eq (regular : t.Regular) :
    t.second = if 1000000000 ≤ t.nanos then 60 else t.secondOfDay % 60 := by
  have few := t.holds.2.2
  have ofDay := t.secondOfDay_eq
  rw [second]
  by_cases late : 1000000000 ≤ t.nanos
  · have last := regular.mod_eq late
    rw [if_pos late]
    omega
  · rw [if_neg late]
    omega

private theorem seconds_eq (regular : t.Regular) :
    t.date.days * 86400 + t.hour * 3600 + t.minute * 60 + min t.second 59 = t.seconds := by
  have ofDay := t.secondOfDay_eq
  have last : min t.second 59 = t.secondOfDay % 60 := by
    rw [second_eq t regular]
    split
    · next late =>
        have last := regular.mod_eq late
        omega
    · omega
  rw [last, date_eq, CivilDate.days_ofDays, hour, minute]
  omega

private theorem nanos_eq (regular : t.Regular) :
    (if t.second = 60 then 1000000000 + t.fraction else t.fraction) = t.nanos := by
  have few := t.holds.2.2
  rw [second_eq t regular, fraction]
  by_cases late : 1000000000 ≤ t.nanos
  · rw [if_pos late, if_pos rfl]
    omega
  · rw [if_neg late, if_neg (by omega), Nat.mod_eq_of_lt (by omega)]

/-- There are twenty-four hours in a day. -/
theorem hour_le : t.hour ≤ 23 := by
  have short := t.secondOfDay_lt
  rw [hour]
  omega

/-- There are sixty minutes in an hour. -/
theorem minute_lt : t.minute < 60 := Nat.mod_lt _ (by decide)

/-- A minute has at most the second of sixty, which is a leap second. -/
theorem second_le : t.second ≤ 60 := by
  have few := t.holds.2.2
  rw [second]
  omega

/-- A fraction is less than a second. -/
theorem fraction_lt : t.fraction < 1000000000 := Nat.mod_lt _ (by decide)

/-- The months are counted from one to twelve. -/
theorem month_bounds : 1 ≤ t.date.month ∧ t.date.month ≤ 12 := by
  obtain ⟨first, last, _⟩ := CivilDate.exists?_iff.mp (CivilDate.exists_ofDays _)
  exact ⟨first, last⟩

/-- The days of a month are counted from one to at most thirty-one. -/
theorem day_bounds : 1 ≤ t.date.day ∧ t.date.day ≤ 31 := by
  have longest : CivilDate.daysInMonth t.date.year t.date.month ≤ 31 := by
    unfold CivilDate.daysInMonth
    split
    · split <;> decide
    all_goals decide
  obtain ⟨_, _, first, last⟩ := CivilDate.exists?_iff.mp (CivilDate.exists_ofDays _)
  exact ⟨first, Nat.le_trans last longest⟩

end Clock

/-- A regular moment is given by its date and its time of day. -/
theorem eq_of_parts {t u : UtcTime} (regular : t.Regular) (also : u.Regular)
    (dates : t.date = u.date) (hours : t.hour = u.hour) (minutes : t.minute = u.minute)
    (seconds : t.second = u.second) (fractions : t.fraction = u.fraction) : t = u := by
  apply UtcTime.ext
  · rw [← t.seconds_eq regular, ← u.seconds_eq also, dates, hours, minutes, seconds]
  · rw [← t.nanos_eq regular, ← u.nanos_eq also, seconds, fractions]

/-- Date and time of day tell which moment is shown. -/
theorem shown_eq_of_parts {t u : UtcTime} (dates : t.date = u.date) (hours : t.hour = u.hour)
    (minutes : t.minute = u.minute) (seconds : t.second = u.second)
    (fractions : t.fraction = u.fraction) : t.shown = u.shown := by
  obtain ⟨date, hour, minute, second, fraction⟩ := t.parts_shown
  obtain ⟨otherDate, otherHour, otherMinute, otherSecond, otherFraction⟩ := u.parts_shown
  refine eq_of_parts t.regular_shown u.regular_shown ?_ ?_ ?_ ?_ ?_
  · rw [date, otherDate, dates]
  · rw [hour, otherHour, hours]
  · rw [minute, otherMinute, minutes]
  · rw [second, otherSecond, seconds]
  · rw [fraction, otherFraction, fractions]

private theorem ofParts?_self {t : UtcTime} (regular : t.Regular) :
    ofParts? t.seconds t.nanos = some t := by
  rw [ofParts?, dif_pos t.holds]
  exact if_pos regular

/-- A regular moment is read back from its text. -/
theorem ofText?_of_regular {t : UtcTime} (regular : t.Regular) : ofText? t.toText = some t := by
  obtain ⟨months, fewMonths⟩ := t.month_bounds
  obtain ⟨days, fewDays⟩ := t.day_bounds
  have minutes := t.minute_lt
  have hours := t.hour_le
  have seconds := t.second_le
  have real : t.date.exists? = true := CivilDate.exists_ofDays _
  rw [ofText?, toText, String.toList_ofList, extended]
  simp only [List.append_assoc, List.cons_append]
  refine Option.bind_eq_some_iff.mpr ⟨_, year?_yearDigits _ (not_leadsOn rfl _), ?_⟩
  refine Option.bind_eq_some_iff.mpr ⟨_, char?_trimStart rfl _, ?_⟩
  refine Option.bind_eq_some_iff.mpr
    ⟨_, bounded?_twoDigits months fewMonths (by omega) _, ?_⟩
  refine Option.bind_eq_some_iff.mpr ⟨_, char?_trimStart rfl _, ?_⟩
  refine Option.bind_eq_some_iff.mpr
    ⟨_, bounded?_twoDigits days fewDays (by omega) _, ?_⟩
  refine Option.bind_eq_some_iff.mpr ⟨_, rfl, ?_⟩
  refine Option.bind_eq_some_iff.mpr
    ⟨_, bounded?_twoDigits (Nat.zero_le _) hours (by omega) _, ?_⟩
  refine Option.bind_eq_some_iff.mpr ⟨_, char?_trimStart rfl _, ?_⟩
  refine Option.bind_eq_some_iff.mpr
    ⟨_, bounded?_twoDigits (Nat.zero_le _) (Nat.le_of_lt_succ minutes) (by omega) _, ?_⟩
  refine Option.bind_eq_some_iff.mpr ⟨_, char?_trimStart rfl _, ?_⟩
  refine Option.bind_eq_some_iff.mpr
    ⟨_, bounded?_twoDigits (Nat.zero_le _) seconds (by omega) _, ?_⟩
  refine Option.bind_eq_some_iff.mpr
    ⟨_, fraction?_fractionDigits t.fraction_lt rfl (by decide) _, ?_⟩
  refine Option.bind_eq_some_iff.mpr ⟨(0, []), rfl, ?_⟩
  have date : ({ year := t.date.year, month := t.date.month, day := t.date.day } : CivilDate) =
    t.date := rfl
  dsimp only
  rw [date, if_pos ⟨rfl, real, by decide, by decide⟩, t.seconds_eq regular, t.nanos_eq regular,
    ofParts?_self regular, Int.sub_zero]
  exact ofParts?_self regular

/-- From its text a moment is read back as the one that it shows. -/
theorem ofText?_toText (t : UtcTime) : ofText? t.toText = some t.shown := by
  rw [← t.toText_shown]
  exact ofText?_of_regular t.regular_shown

/-- A leap second behind the first second of 1970, at its half. -/
def insideMinute : UtcTime := { seconds := 0, nanos := 1500000000, holds := by decide }

/-- The half of the second after the first one of 1970. -/
def afterwards : UtcTime := { seconds := 1, nanos := 500000000, holds := by decide }

/-- The leap second inside a minute is shown as the second after it. -/
theorem shown_insideMinute : insideMinute.shown = afterwards := by decide

/-- Whether a number of digits is the least of none, three, six and nine that gives a fraction
exactly. -/
def ShortestExact (nanos digits : Nat) : Prop :=
  digits ∈ [0, 3, 6, 9] ∧ 10 ^ (9 - digits) ∣ nanos ∧
    ∀ fewer ∈ [0, 3, 6, 9], 10 ^ (9 - fewer) ∣ nanos → digits ≤ fewer

/-- Digits behind a point, which is left out when there are none. -/
def pointed (digits : List Char) : List Char := if digits = [] then [] else '.' :: digits

/-- A fraction is written with the fewest digits that give it exactly. -/
theorem fractionDigits_shortest {nanos : Nat} (small : nanos < 1000000000) :
    ∃ digits, fractionDigits nanos = pointed digits ∧ (∀ c ∈ digits, c.isDigit = true) ∧
      ShortestExact nanos digits.length := by
  have spelled {width n : Nat} (some_place : 0 < width) (fits : n < 10 ^ width)
      (shortest : ShortestExact nanos width) :
      ∃ digits, '.' :: padded width (decimal n) = pointed digits ∧
        (∀ c ∈ digits, c.isDigit = true) ∧ ShortestExact nanos digits.length := by
    refine ⟨padded width (decimal n), (if_neg (padded_ne_nil width n)).symm,
      isDigit_of_padded width n, ?_⟩
    rw [length_padded_decimal some_place fits]
    exact shortest
  rw [fractionDigits]
  by_cases zero : nanos = 0
  · rw [if_pos zero]
    exact ⟨[], rfl, by simp, by simp [ShortestExact, zero]⟩
  by_cases milli : nanos % 1000000 = 0
  · rw [if_neg zero, if_pos milli]
    refine spelled (by decide) (by omega) ⟨by decide, Nat.dvd_of_mod_eq_zero milli, ?_⟩
    simp only [List.mem_cons, List.not_mem_nil, or_false, forall_eq_or_imp, forall_eq,
      Nat.reduceSub, Nat.reducePow]
    omega
  by_cases micro : nanos % 1000 = 0
  · rw [if_neg zero, if_neg milli, if_pos micro]
    refine spelled (by decide) (by omega) ⟨by decide, Nat.dvd_of_mod_eq_zero micro, ?_⟩
    simp only [List.mem_cons, List.not_mem_nil, or_false, forall_eq_or_imp, forall_eq,
      Nat.reduceSub, Nat.reducePow]
    omega
  · rw [if_neg zero, if_neg milli, if_neg micro]
    refine spelled (by decide) small ⟨by decide, Nat.one_dvd nanos, ?_⟩
    simp only [List.mem_cons, List.not_mem_nil, or_false, forall_eq_or_imp, forall_eq,
      Nat.reduceSub, Nat.reducePow]
    omega

private theorem point_notMem_padded (width n : Nat) : '.' ∉ padded width (decimal n) :=
  fun member => absurd (isDigit_of_mem_padded member) (by decide)

private theorem point_notMem_yearDigits (year : Int) : '.' ∉ yearDigits year := by
  intro member
  rw [yearDigits] at member
  split at member
  · rcases List.mem_append.mp member with sign | digit
    · split at sign
      · exact nomatch sign
      · exact absurd (List.mem_singleton.mp sign) (by decide)
    · exact point_notMem_padded _ _ digit
  · rcases List.mem_cons.mp member with sign | digit
    · exact absurd sign (by decide)
    · exact point_notMem_padded _ _ digit

/-- The part of a moment's text in front of the fraction. -/
def toSecond (t : UtcTime) : List Char :=
  yearDigits t.date.year ++ '-' :: twoDigits t.date.month ++ '-' :: twoDigits t.date.day ++
    'T' :: twoDigits t.hour ++ ':' :: twoDigits t.minute ++ ':' :: twoDigits t.second

/-- The only point of a moment's text stands in front of the fraction, which has the fewest
digits that give it exactly. -/
theorem toText_shortest (t : UtcTime) :
    '.' ∉ t.toSecond ∧ ∃ digits, t.toText.toList = t.toSecond ++ pointed digits ++ ['Z'] ∧
      (∀ c ∈ digits, c.isDigit = true) ∧ ShortestExact t.fraction digits.length := by
  obtain ⟨digits, spelled, numeric, shortest⟩ := fractionDigits_shortest t.fraction_lt
  refine ⟨?_, digits, ?_, numeric, shortest⟩
  · simp only [toSecond, twoDigits, List.mem_append, List.mem_cons, point_notMem_padded,
      point_notMem_yearDigits, Char.reduceEq, or_self, not_false_eq_true]
  · rw [toText, String.toList_ofList, ← spelled]
    rfl

end LinkGauge.UtcTime
