import LinkGauge.Proofs.Text.Decimal
import LinkGauge.Proofs.Text.Split
import LinkGauge.Socket.Probe

/-!
# Different tests have different identifiers

A host's name may have underscores and may end like a boot time, so an identifier is divided from
behind: no number has an underscore, the cookie stands behind the last one and the boot time behind
the last one of what is left. Both numbers are known by their digits, so the identifier tells the
host, the boot time and the cookie (`testId_inj`). An identifier without a cookie tells the host,
the millisecond and the random bits (`fallbackTestId_inj`), and it is that of no test with a cookie
(`testId_ne_fallbackTestId`).
-/

namespace LinkGauge

open Text

/-! ## Pieces of an identifier -/

private theorem toList_testId (host : String) (bootTime : Int64) (cookie : UInt64) :
    (testId host bootTime cookie).toList =
      (host.toList ++ '_' :: (intText bootTime.toInt).toList) ++
        '_' :: (upperHex 16 cookie.toNat).toList := by
  have underscore : "_".toList = ['_'] := rfl
  simp only [testId, String.toList_append, underscore, List.append_assoc, List.cons_append,
    List.nil_append]

private theorem toList_fallbackTestId (host : String) (millis random : Nat) :
    (fallbackTestId host millis random).toList =
      host.toList ++ '_' :: (timeOrderedId millis random).toList := by
  have underscore : "_".toList = ['_'] := rfl
  simp only [fallbackTestId, String.toList_append, underscore, List.append_assoc,
    List.singleton_append]

private theorem underscore_notMem_intText (n : Int) : '_' ∉ (intText n).toList := by
  rw [intText, String.toList_ofList]
  exact notMem_signedDecimal (by decide) (by decide) n

private theorem underscore_notMem_upperHex (width n : Nat) : '_' ∉ (upperHex width n).toList := by
  have digits : ∀ d < 16, (digitChar d).toUpper ≠ '_' := by decide
  rw [upperHex, String.toList_ofList, List.mem_map]
  rintro ⟨c, digit, upper⟩
  obtain ⟨d, small, rfl⟩ := exists_digitChar_of_mem_padded (by decide) digit
  exact digits d small upper

private theorem underscore_notMem_timeOrderedId (millis random : Nat) :
    '_' ∉ (timeOrderedId millis random).toList := by
  rw [timeOrderedId, String.toList_ofList]
  exact notMem_padded (by decide) _ _

/-! ## Identifiers with a cookie -/

/-- **Different tests have different identifiers.** Two identifiers are the same only for the same
host name, boot time and cookie. The names may be any texts, also those with underscores and those
that end in a number, and the boot times may be negative. -/
theorem testId_inj {host other : String} {bootTime later : Int64} {cookie next : UInt64} :
    testId host bootTime cookie = testId other later next ↔
      host = other ∧ bootTime = later ∧ cookie = next := by
  constructor
  · intro same
    rw [← String.toList_inj, toList_testId, toList_testId] at same
    -- From behind, since the name may have underscores and the numbers have none.
    obtain ⟨front, cookies⟩ :=
      eq_of_last_divider (underscore_notMem_upperHex _ _) (underscore_notMem_upperHex _ _) same
    obtain ⟨hosts, bootTimes⟩ :=
      eq_of_last_divider (underscore_notMem_intText _) (underscore_notMem_intText _) front
    have numbers : cookie.toNat = next.toNat :=
      eq_of_upperHex (by decide) cookie.toNat_lt next.toNat_lt (String.toList_injective cookies)
    refine ⟨String.toList_injective hosts, ?_, UInt64.toNat_inj.mp numbers⟩
    exact Int64.toInt_inj.mp (intText_injective (String.toList_injective bootTimes))
  · rintro ⟨rfl, rfl, rfl⟩
    rfl

/-! ## Identifiers without a cookie -/

private theorem length_timeOrderedId (millis random : Nat) :
    32 ≤ (timeOrderedId millis random).toList.length := by
  rw [timeOrderedId, String.toList_ofList, length_padded]
  exact Nat.le_max_left ..

/-- A time-ordered identifier tells the millisecond and the random bits that it uses. -/
theorem timeOrderedId_inj {millis other random further : Nat} :
    timeOrderedId millis random = timeOrderedId other further ↔
      millis % 2 ^ 48 = other % 2 ^ 48 ∧ random % 2 ^ 74 = further % 2 ^ 74 := by
  rw [timeOrderedId, timeOrderedId, String.ofList_inj]
  simp only [Nat.pow_eq]
  constructor
  · intro same
    -- The parts have bits of their own in the number, which tells each of them.
    have numbers := eq_of_padded (by decide) (by omega) (by omega) same
    omega
  · rintro ⟨stamps, bits⟩
    have high : random / 2 ^ 62 % 2 ^ 12 = further / 2 ^ 62 % 2 ^ 12 := by omega
    have low : random % 2 ^ 62 = further % 2 ^ 62 := by omega
    rw [stamps, high, low]

/-- Tests without a cookie have different identifiers, but for the same host name, millisecond and
random bits. -/
theorem fallbackTestId_inj {host other : String} {millis later random further : Nat} :
    fallbackTestId host millis random = fallbackTestId other later further ↔
      host = other ∧ millis % 2 ^ 48 = later % 2 ^ 48 ∧ random % 2 ^ 74 = further % 2 ^ 74 := by
  constructor
  · intro same
    rw [← String.toList_inj, toList_fallbackTestId, toList_fallbackTestId] at same
    obtain ⟨hosts, behind⟩ := eq_of_last_divider (underscore_notMem_timeOrderedId _ _)
      (underscore_notMem_timeOrderedId _ _) same
    exact ⟨String.toList_injective hosts,
      timeOrderedId_inj.mp (String.toList_injective behind)⟩
  · rintro ⟨rfl, alike⟩
    rw [fallbackTestId, fallbackTestId, timeOrderedId_inj.mpr alike]

/-- A test without a cookie is never taken for one with a cookie, on whatever hosts they run. -/
theorem testId_ne_fallbackTestId (host other : String) (bootTime : Int64) (cookie : UInt64)
    (millis random : Nat) : testId host bootTime cookie ≠ fallbackTestId other millis random := by
  intro same
  rw [← String.toList_inj, toList_testId, toList_fallbackTestId] at same
  obtain ⟨-, behind⟩ :=
    eq_of_last_divider (underscore_notMem_upperHex _ _) (underscore_notMem_timeOrderedId _ _) same
  have short : (upperHex 16 cookie.toNat).toList.length = 16 :=
    length_upperHex (by decide) cookie.toNat_lt
  have long := length_timeOrderedId millis random
  rw [← behind, short] at long
  exact absurd long (by decide)

end LinkGauge
