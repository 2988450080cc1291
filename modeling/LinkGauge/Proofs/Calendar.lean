import LinkGauge.UtcTime
import Mathlib.Tactic.IntervalCases

/-!
# Days and dates

Every day has a date that exists (`CivilDate.exists_ofDays`), and the day is found again from
it (`CivilDate.days_ofDays`). Without its leap days an era has years of 365 days, and a day that
is counted so grows with the day: this gives the year of a day from the first and the last day of
each year.
-/

namespace LinkGauge.CivilDate

/-- The day of an era on which a year of the era begins. -/
def yearStart (year : Nat) : Nat := 365 * year + year / 4 - year / 100 + year / 400

/-- The day of an era when leap days are not counted. -/
def leapless (dayOfEra : Nat) : Nat :=
  dayOfEra - dayOfEra / 1460 + dayOfEra / 36524 - dayOfEra / 146096

private theorem leapless_succ (d : Nat) : leapless d ≤ leapless (d + 1) := by
  have fourth (n : Nat) : n / 146096 = n / 36524 / 4 := by omega
  simp only [leapless, fourth]
  omega

private theorem leapless_mono {early late : Nat} (ordered : early ≤ late) :
    leapless early ≤ leapless late := by
  induction ordered with
  | refl => exact Nat.le_refl _
  | step _ ih => exact Nat.le_trans ih (leapless_succ _)

private theorem le_leapless_yearStart : ∀ year < 400, 365 * year ≤ leapless (yearStart year) := by
  decide +kernel

private theorem leapless_lt_of_lt_yearStart :
    ∀ year < 400, leapless (yearStart (year + 1) - 1) < 365 * (year + 1) := by
  decide +kernel

private theorem yearStart_le_of_leapless {d : Nat} (inside : d < 146097) :
    leapless d / 365 < 400 ∧ yearStart (leapless d / 365) ≤ d ∧
      d < yearStart (leapless d / 365 + 1) := by
  have last : leapless 146096 = 145999 := rfl
  have below : leapless d ≤ leapless 146096 := leapless_mono (by omega)
  have small : leapless d / 365 < 400 := by omega
  refine ⟨small, Nat.not_lt.mp fun before => ?_, Nat.not_le.mp fun after => ?_⟩
  · cases year : leapless d / 365 with
    | zero =>
        rw [year] at before
        exact Nat.not_lt_zero d before
    | succ previous =>
        rw [year] at before
        have early : leapless d ≤ leapless (yearStart (previous + 1) - 1) :=
          leapless_mono (by omega)
        have few := leapless_lt_of_lt_yearStart previous (by omega)
        omega
  · by_cases lastYear : leapless d / 365 = 399
    · rw [lastYear] at after
      exact Nat.not_le.mpr inside after
    · have late := leapless_mono after
      have many := le_leapless_yearStart (leapless d / 365 + 1) (by omega)
      omega

/-- The date of a day of a year of an era. -/
def ofPlace (era : Int) (year dayOfYear : Nat) : CivilDate :=
  let monthFromMarch := (5 * dayOfYear + 2) / 153
  let day := dayOfYear - (153 * monthFromMarch + 2) / 5 + 1
  let month := if monthFromMarch < 10 then monthFromMarch + 3 else monthFromMarch - 9
  { year := year + era * 400 + (if month ≤ 2 then 1 else 0), month, day }

private theorem exists_place (n : Int) : ∃ (era : Int) (year dayOfYear : Nat),
    ofDays n = ofPlace era year dayOfYear ∧ year < 400 ∧
      yearStart year + dayOfYear < yearStart (year + 1) ∧
      n + 719468 = era * 146097 + yearStart year + dayOfYear := by
  generalize shifted : n + 719468 = m
  have split : 146097 * m.fdiv 146097 + m.fmod 146097 = m := Int.mul_fdiv_add_fmod ..
  have positive : 0 ≤ m.fmod 146097 := Int.fmod_nonneg_of_pos _ (by decide)
  have short : m.fmod 146097 < 146097 := Int.fmod_lt_of_pos _ (by decide)
  generalize number : (m.fmod 146097).toNat = d
  obtain ⟨small, first, last⟩ := yearStart_le_of_leapless (d := d) (by omega)
  refine ⟨m.fdiv 146097, leapless d / 365, d - yearStart (leapless d / 365), ?_, small, ?_, ?_⟩
  · have start : yearStart (leapless d / 365) =
        365 * (leapless d / 365) + leapless d / 365 / 4 - leapless d / 365 / 100 := by
      rw [yearStart, Nat.div_eq_of_lt small, Nat.add_zero]
    rw [start, ofDays, shifted]
    simp only [number]
    rfl
  · omega
  · omega

/-- The months from March to January have the lengths with which they are numbered. -/
private theorem daysInMonth_fromMarch (y : Int) {m : Nat} (few : m < 11) :
    daysInMonth y (if m < 10 then m + 3 else m - 9) =
      (153 * (m + 1) + 2) / 5 - (153 * m + 2) / 5 := by
  interval_cases m <;> rfl

/-- A date exists exactly when its month and its day are within their bounds. -/
theorem exists?_iff {d : CivilDate} :
    d.exists? = true ↔
      1 ≤ d.month ∧ d.month ≤ 12 ∧ 1 ≤ d.day ∧ d.day ≤ daysInMonth d.year d.month := by
  simp only [exists?, Bool.and_eq_true, decide_eq_true_eq, and_assoc]

section Place

variable {year dayOfYear : Nat} (small : year < 400)
  (inside : yearStart year + dayOfYear < yearStart (year + 1))
include small

private theorem era_of_place (era : Int) :
    ((year : Int) + era * 400).fdiv 400 = era ∧ ((year : Int) + era * 400).fmod 400 = year := by
  rw [Int.fdiv_eq_ediv_of_nonneg _ (by decide), Int.fmod_eq_emod_of_nonneg _ (by decide)]
  omega

include inside

private theorem days_ofPlace (era : Int) :
    (ofPlace era year dayOfYear).days = era * 146097 + yearStart year + dayOfYear - 719468 := by
  have short : dayOfYear < 366 := by
    unfold yearStart at inside
    omega
  obtain ⟨sameEra, sameYear⟩ := era_of_place small era
  have whole : yearStart year = year * 365 + year / 4 - year / 100 := by
    unfold yearStart
    omega
  by_cases early : (5 * dayOfYear + 2) / 153 < 10
  · have month : ¬ (5 * dayOfYear + 2) / 153 + 3 ≤ 2 := by omega
    have late : 2 < (5 * dayOfYear + 2) / 153 + 3 := by omega
    simp only [ofPlace, days, early, ↓reduceIte, month, late, Int.add_zero, sameEra, sameYear,
      whole, Int.toNat_natCast]
    omega
  · have month : (5 * dayOfYear + 2) / 153 - 9 ≤ 2 := by omega
    have late : ¬ 2 < (5 * dayOfYear + 2) / 153 - 9 := by omega
    simp only [ofPlace, days, early, ↓reduceIte, month, late, Int.add_sub_cancel, sameEra,
      sameYear, whole, Int.toNat_natCast]
    omega

private theorem isLeap_of_last_day (era : Int) (last : dayOfYear = 365) :
    isLeap (year + era * 400 + 1) = true := by
  have divided : (year + 1) % 4 = 0 ∧ ((year + 1) % 100 ≠ 0 ∨ (year + 1) % 400 = 0) := by
    unfold yearStart at inside
    omega
  have fourth : ((year : Int) + era * 400 + 1) % 4 = 0 := by omega
  have century : ((year : Int) + era * 400 + 1) % 100 ≠ 0 ∨
      ((year : Int) + era * 400 + 1) % 400 = 0 := by omega
  simp only [isLeap, Int.fmod_eq_emod_of_nonneg _ (by decide : (0 : Int) ≤ 4),
    Int.fmod_eq_emod_of_nonneg _ (by decide : (0 : Int) ≤ 100),
    Int.fmod_eq_emod_of_nonneg _ (by decide : (0 : Int) ≤ 400), Bool.and_eq_true, Bool.or_eq_true,
    beq_iff_eq, bne_iff_ne]
  exact ⟨fourth, century⟩

private theorem exists_ofPlace (era : Int) : (ofPlace era year dayOfYear).exists? = true := by
  have short : dayOfYear < 366 := by
    unfold yearStart at inside
    omega
  refine exists?_iff.mpr ?_
  by_cases february : (5 * dayOfYear + 2) / 153 = 11
  · have leap := isLeap_of_last_day small inside era
    simp only [ofPlace, february, Nat.reduceLT, Nat.reduceSub, Nat.reduceMul, Nat.reduceAdd,
      Nat.reduceDiv, Nat.le_refl, ↓reduceIte, daysInMonth]
    refine ⟨by decide, by decide, Nat.le_add_left .., ?_⟩
    split
    · omega
    · next common =>
        have notLast : dayOfYear ≠ 365 := fun last => common (leap last)
        omega
  · have few : (5 * dayOfYear + 2) / 153 < 11 := by omega
    have length := daysInMonth_fromMarch (ofPlace era year dayOfYear).year few
    refine ⟨?_, ?_, ?_, Nat.le_trans ?_ (Nat.le_of_eq length.symm)⟩
    all_goals simp only [ofPlace]
    · split <;> omega
    · split <;> omega
    · omega
    · omega

end Place

/-- A day is found again from its date. -/
theorem days_ofDays (n : Int) : (ofDays n).days = n := by
  obtain ⟨era, year, dayOfYear, place, small, inside, sum⟩ := exists_place n
  rw [place, days_ofPlace small inside, ← sum, Int.add_sub_cancel]

/-- The date of a day exists. -/
theorem exists_ofDays (n : Int) : (ofDays n).exists? = true := by
  obtain ⟨era, year, dayOfYear, place, small, inside, _⟩ := exists_place n
  rw [place, exists_ofPlace small inside]

end LinkGauge.CivilDate
