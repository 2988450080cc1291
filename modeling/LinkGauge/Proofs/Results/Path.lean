import LinkGauge.Proofs.UtcTime
import LinkGauge.Results.Store

/-!
# Different tests have different paths

Every piece of a path ends where the next one begins: a year ends at the first character that is
no digit, the other numbers have a fixed width, a subtest's name ends at its dash, and the two
endings of a name differ in their last character. So the pieces are found again from the left up
to the id and from the right behind it, whatever characters the id has, and the path tells which
test it belongs to (`ResultsPath.path_inj`), as far as the date and the time of day of its
beginning do: a leap second inside a minute is not told from the second after it
(`ResultsPath.path_insideMinute`).
-/

namespace LinkGauge

open Text

private theorem UtcTime.yearDigits_append_inj {year other : Int} {rest more : List Char}
    (ends : ¬ LeadsOn rest) (stops : ¬ LeadsOn more)
    (same : yearDigits year ++ rest = yearDigits other ++ more) : year = other ∧ rest = more := by
  have read := year?_yearDigits year ends
  rw [same, year?_yearDigits other stops] at read
  obtain ⟨rfl, rfl⟩ := Prod.mk.inj (Option.some.inj read)
  exact ⟨rfl, rfl⟩

/-- Numbers that fill no more than a width are divided from what stands behind them. -/
private theorem Text.padded_append_inj {width n m : Nat} {rest more : List Char}
    (some_place : 0 < width) (fits : n < 10 ^ width) (also : m < 10 ^ width)
    (same : padded width (decimal n) ++ rest = padded width (decimal m) ++ more) :
    n = m ∧ rest = more := by
  have wide := length_padded_decimal some_place fits
  have alike := length_padded_decimal some_place also
  obtain ⟨digits, behind⟩ := List.append_inj same (wide.trans alike.symm)
  have read := readDecimal?_padded width n
  rw [digits, readDecimal?_padded] at read
  exact ⟨(Option.some.inj read).symm, behind⟩

private theorem UtcTime.twoDigits_append_inj {n m : Nat} {rest more : List Char} (small : n < 100)
    (also : m < 100) (same : twoDigits n ++ rest = twoDigits m ++ more) : n = m ∧ rest = more :=
  padded_append_inj (by decide) small also same

private theorem Subtest.name_append_inj {first second : Subtest} {rest more : List Char}
    (same : first.name.toList ++ '-' :: rest = second.name.toList ++ '-' :: more) :
    first = second ∧ rest = more := by
  cases first <;> cases second
  case download.download | upload.upload | ping.ping =>
    exact ⟨rfl, (List.cons.inj (List.append_cancel_left same)).2⟩
  all_goals exact absurd (List.cons.inj same).1 (by decide)

namespace ResultsPath

open UtcTime

variable {t u : UtcTime} {rest more : List Char}

private theorem day_append_inj (same : day t ++ rest = day u ++ more) :
    t.date = u.date ∧ rest = more := by
  have month := t.month_bounds
  have otherMonth := u.month_bounds
  have dayOfMonth := t.day_bounds
  have otherDay := u.day_bounds
  simp only [day, List.append_assoc, List.cons_append] at same
  obtain ⟨years, same⟩ := yearDigits_append_inj (not_leadsOn rfl _) (not_leadsOn rfl _) same
  obtain ⟨months, same⟩ := twoDigits_append_inj (by omega) (by omega) (List.cons.inj same).2
  obtain ⟨days, same⟩ := twoDigits_append_inj (by omega) (by omega) (List.cons.inj same).2
  refine ⟨?_, same⟩
  cases first : t.date
  cases second : u.date
  rw [first, second] at years months days
  cases years
  cases months
  cases days
  rfl

private theorem stamp_append_inj (dates : t.date = u.date)
    (same : stamp t ++ rest = stamp u ++ more) : t.shown = u.shown ∧ rest = more := by
  have hour := t.hour_le
  have otherHour := u.hour_le
  have minute := t.minute_lt
  have otherMinute := u.minute_lt
  have second := t.second_le
  have otherSecond := u.second_le
  simp only [stamp, dates, List.append_assoc, List.cons_append] at same
  have same := List.append_cancel_left (List.append_cancel_left (List.append_cancel_left same))
  obtain ⟨hours, same⟩ := twoDigits_append_inj (by omega) (by omega) (List.cons.inj same).2
  obtain ⟨minutes, same⟩ := twoDigits_append_inj (by omega) (by omega) same
  obtain ⟨seconds, same⟩ := twoDigits_append_inj (by omega) (by omega) same
  obtain ⟨fractions, same⟩ :=
    padded_append_inj (by decide) t.fraction_lt u.fraction_lt (List.cons.inj same).2
  exact ⟨shown_eq_of_parts dates hours minutes seconds fractions, (List.cons.inj same).2⟩

private theorem getLast?_append_ending (front : List Char) (compressed : Bool) :
    (front ++ (ending compressed).toList).getLast? = some (if compressed then 'z' else 'l') := by
  rw [List.getLast?_append]
  cases compressed <;> rfl

private theorem append_ending_inj {compressed packed : Bool}
    (same : rest ++ (ending compressed).toList = more ++ (ending packed).toList) :
    rest = more ∧ compressed = packed := by
  have last := congrArg List.getLast? same
  rw [getLast?_append_ending, getLast?_append_ending] at last
  have kinds : compressed = packed := by
    revert last
    cases compressed <;> cases packed <;> decide
  subst kinds
  exact ⟨List.append_cancel_right same, rfl⟩

private theorem path_eq (dataDir : String) (subtest : Subtest) (uuid : String) (t : UtcTime)
    (compressed : Bool) :
    path dataDir subtest uuid t compressed =
      String.ofList (opened dataDir.toList ++ "ndt7/".toList ++ (day t ++ '/' ::
        ("ndt7-".toList ++ (subtest.name.toList ++ '-' :: (stamp t ++ '.' ::
          (uuid.toList ++ (ending compressed).toList)))))) := by
  unfold path fileName
  simp only [List.append_assoc, List.cons_append]

/-- Compression is seen at the end of a path only. -/
theorem path_compressed (dataDir : String) (subtest : Subtest) (uuid : String) (t : UtcTime) :
    path dataDir subtest uuid t true = path dataDir subtest uuid t false ++ ".gz" := by
  have endings : (ending true).toList = (ending false).toList ++ ".gz".toList := by decide
  rw [path_eq, path_eq, endings, ← String.toList_inj]
  simp only [String.toList_append, String.toList_ofList, List.append_assoc, List.cons_append]

/-- The path is that of the moment that is shown. -/
theorem path_shown (dataDir : String) (subtest : Subtest) (uuid : String) (t : UtcTime)
    (compressed : Bool) :
    path dataDir subtest uuid t.shown compressed = path dataDir subtest uuid t compressed := by
  obtain ⟨dates, hours, minutes, seconds, fractions⟩ := t.parts_shown
  have days : day t.shown = day t := by rw [day, day, dates]
  have stamps : stamp t.shown = stamp t := by
    rw [stamp, stamp, dates, hours, minutes, seconds, fractions]
  rw [path_eq, path_eq, days, stamps]

/-- **Different tests have different paths.** Two results files of one data directory have the
same path only when they are for the same subtest, id and kind of storage and for moments that
show the same date and time of day to the nanosecond. The ids may be any texts, and the moments
any that can be held. So files for different regular moments, with leap seconds or without, have
different paths. -/
theorem path_inj (dataDir : String) {subtest other : Subtest} {uuid name : String}
    {t u : UtcTime} {compressed packed : Bool} :
    (path dataDir subtest uuid t compressed = path dataDir other name u packed ↔
      subtest = other ∧ uuid = name ∧ t.shown = u.shown ∧ compressed = packed) ∧
      (t.Regular → u.Regular →
        (path dataDir subtest uuid t compressed = path dataDir other name u packed ↔
          subtest = other ∧ uuid = name ∧ t = u ∧ compressed = packed)) := by
  have told : path dataDir subtest uuid t compressed = path dataDir other name u packed ↔
      subtest = other ∧ uuid = name ∧ t.shown = u.shown ∧ compressed = packed := by
    constructor
    · intro same
      rw [path_eq, path_eq, String.ofList_inj] at same
      obtain ⟨dates, same⟩ := day_append_inj (List.append_cancel_left same)
      have same := List.append_cancel_left (List.cons.inj same).2
      obtain ⟨subtests, same⟩ := Subtest.name_append_inj same
      obtain ⟨moments, same⟩ := stamp_append_inj dates same
      obtain ⟨names, kinds⟩ := append_ending_inj (List.cons.inj same).2
      exact ⟨subtests, String.toList_injective names, moments, kinds⟩
    · rintro ⟨rfl, rfl, moments, rfl⟩
      rw [← path_shown, moments, path_shown]
  refine ⟨told, fun regular also => ?_⟩
  rw [told, shown_of_regular regular, shown_of_regular also]

/-- A leap second inside a minute gives the path of the second after it. -/
theorem path_insideMinute :
    path "." .download "id" .insideMinute false = path "." .download "id" .afterwards false ∧
      insideMinute ≠ afterwards := by
  refine ⟨?_, by decide⟩
  rw [← path_shown, shown_insideMinute]

end ResultsPath

end LinkGauge
