import LinkGauge.Proofs.Config.Resolving
import Mathlib

/-!
# Filler keeps pace with what has been sent

A frame grows at most once each time one is sent. That is enough: a size below the limit of
growth times the fraction exceeds what has been sent, and a size that has grown times the fraction
is at most twice of it (`Filler.Paced`). With sizes that `Settings.resolve` accepts, counting in
words of 64 bits is exact as long as the total fits (`LoadedFiller.send_keeps_pace`).
-/

namespace LinkGauge

namespace Filler

/-- How sending a frame changes a filler. -/
inductive Sent (f : Filler) : Filler → Prop where
  | steady
      (early : f.size < f.sizes.scaled → (f.total + f.size) / f.sizes.fraction < f.size) :
      Sent f { f with total := f.total + f.size }
  | grown {size : Nat} (small : f.size < f.sizes.scaled)
      (due : f.size ≤ (f.total + f.size) / f.sizes.fraction)
      (grows : size = min (min (f.size * 2) f.sizes.scaled) f.sizes.greatest) :
      Sent f { f with total := f.total + f.size, size }

private theorem sent_cases (f : Filler) : f.Sent f.sent := by
  rw [sent]
  by_cases large : f.sizes.scaled ≤ f.size
  · rw [if_pos large]
    exact .steady fun small => absurd large (Nat.not_le.mpr small)
  · rw [if_neg large]
    by_cases early : (f.total + f.size) / f.sizes.fraction < f.size
    · rw [if_pos early]
      exact .steady fun _ => early
    · rw [if_neg early]
      exact .grown (Nat.not_le.mp large) (Nat.not_lt.mp early) rfl

/-- How the size of the next frame follows what has been sent. -/
structure Paced (f : Filler) : Prop where
  least_le : f.sizes.least ≤ f.size
  le_greatest : f.size ≤ f.sizes.greatest
  catchesUp : f.size < f.sizes.scaled → f.total < f.size * f.sizes.fraction
  waits : f.sizes.initial < f.size → f.size * f.sizes.fraction ≤ 2 * f.total

private theorem Paced.new {sizes : FillerSizes} (fit : sizes.Fit) : (new sizes).Paced where
  least_le := fit.least_le
  le_greatest := fit.initial_le
  catchesUp _ := Nat.mul_pos (Nat.lt_of_lt_of_le fit.least_pos fit.least_le) fit.fraction_pos
  waits grown := absurd grown (Nat.lt_irrefl _)

namespace Sent

variable {f g : Filler} (moved : f.Sent g)

include moved

private theorem sizes : g.sizes = f.sizes := by
  cases moved <;> rfl

private theorem total : g.total = f.total + f.size := by
  cases moved <;> rfl

private theorem size_le (fit : f.sizes.Fit) : f.size ≤ g.size := by
  have scaled := fit.scaled_le
  cases moved with
  | steady => exact Nat.le_refl _
  | grown small due grows =>
      dsimp only
      omega

private theorem paced (fit : f.sizes.Fit) (paced : f.Paced) : g.Paced := by
  cases moved with
  | steady early =>
      refine ⟨paced.least_le, paced.le_greatest, fun small => ?_, fun grown => ?_⟩
      · exact (Nat.div_lt_iff_lt_mul fit.fraction_pos).mp (early small)
      · exact Nat.le_trans (paced.waits grown) (Nat.mul_le_mul_left 2 (Nat.le_add_right _ _))
  | @grown size small due grows =>
      have scaled := fit.scaled_le
      have least := paced.least_le
      have doubled : size ≤ 2 * f.size := by omega
      refine ⟨?_, ?_, fun below => ?_, fun _ => ?_⟩
      · dsimp only
        omega
      · exact grows ▸ Nat.min_le_right _ _
      · -- The total was behind before this frame, and a frame adds no more than its share.
        have before := paced.catchesUp small
        have share : f.size ≤ f.size * f.sizes.fraction :=
          Nat.le_mul_of_pos_right _ fit.fraction_pos
        obtain rfl : size = 2 * f.size := by
          dsimp only at below
          omega
        dsimp only
        rw [Nat.mul_assoc]
        omega
      · have caught := (Nat.le_div_iff_mul_le fit.fraction_pos).mp due
        calc size * f.sizes.fraction
          _ ≤ 2 * f.size * f.sizes.fraction := Nat.mul_le_mul_right _ doubled
          _ = 2 * (f.size * f.sizes.fraction) := Nat.mul_assoc ..
          _ ≤ 2 * (f.total + f.size) := Nat.mul_le_mul_left 2 caught

end Sent

private theorem sizes_after (sizes : FillerSizes) (n : Nat) : (after sizes n).sizes = sizes := by
  induction n with
  | zero => rfl
  | succ n ih => exact (sent_cases _).sizes.trans ih

private theorem paced_after {sizes : FillerSizes} (fit : sizes.Fit) (n : Nat) :
    (after sizes n).Paced := by
  induction n with
  | zero => exact .new fit
  | succ n ih => exact (sent_cases _).paced ((sizes_after sizes n).symm ▸ fit) ih

end Filler

namespace LoadedFiller

variable {f : LoadedFiller} {sizes : FillerSizes}

private theorem length_drawn (draw : Nat → Fin Filler.letters.length) (size : Nat) :
    (Filler.drawn draw size).length = size := by
  rw [Filler.drawn, List.length_map, List.length_range]

/-- Counting in words agrees with counting without a limit. -/
theorem sent?_toFiller (draw : Nat → Fin Filler.letters.length) (fit : f.sizes.Fit)
    (narrow : f.sizes.greatest < 2 ^ 63) (countable : f.total + f.size < 2 ^ 64)
    (full : f.frame.length = f.size) :
    ∃ g, f.sent? draw = some g ∧ g.toFiller = f.toFiller.sent ∧ g.frame.length = g.size := by
  have total : word? (f.total + f.size) = some (f.total + f.size) := if_pos countable
  have share : quotient? (f.total + f.size) f.sizes.fraction =
      some ((f.total + f.size) / f.sizes.fraction) :=
    if_neg (Nat.pos_iff_ne_zero.mp fit.fraction_pos)
  rw [sent?, Filler.sent, total]
  by_cases large : f.sizes.scaled ≤ f.size
  · exact ⟨_, if_pos large, (if_pos large).symm, full⟩
  · rw [Option.bind_eq_bind, Option.bind_some, if_neg large, if_neg large, share]
    by_cases early : (f.total + f.size) / f.sizes.fraction < f.size
    · exact ⟨_, if_pos early, (if_pos early).symm, full⟩
    · have doubled : word? (f.size * 2) = some (f.size * 2) := by
        have scaled := fit.scaled_le
        exact if_pos (show f.size * 2 < 2 ^ 64 by omega)
      rw [Option.bind_some, if_neg early, if_neg early, doubled]
      exact ⟨_, rfl, rfl, length_drawn draw _⟩

private theorem pairwise_concat {sizes : List Nat} {last next : Nat}
    (rising : (sizes ++ [last]).Pairwise (· ≤ ·)) (grows : last ≤ next) :
    (sizes ++ [last] ++ [next]).Pairwise (· ≤ ·) := by
  refine List.pairwise_append.mpr ⟨rising, List.pairwise_singleton _ _, fun size member _ new => ?_⟩
  obtain rfl := List.mem_singleton.mp new
  rcases List.mem_append.mp member with before | this
  · have below := (List.pairwise_append.mp rising).2.2 size before last (List.mem_singleton_self _)
    exact Nat.le_trans below grows
  · exact List.mem_singleton.mp this ▸ grows

/-- What holds of the frames that have been sent and of the filler behind them. -/
structure Follows (sizes : FillerSizes) (n : Nat) (frames : List (List UInt8)) (f : LoadedFiller) :
    Prop where
  same : f.toFiller = Filler.after sizes n
  full : f.frame.length = f.size
  count : frames.length = n
  total : f.total = (frames.map List.length).sum
  rising : (frames.map List.length ++ [f.size]).Pairwise (· ≤ ·)

private theorem send?_follows (draws : Nat → Nat → Fin Filler.letters.length) (fit : sizes.Fit)
    (narrow : sizes.greatest < 2 ^ 63) {n : Nat}
    (countable : (Filler.after sizes n).total < 2 ^ 64) :
    ∃ frames f, send? sizes draws n = some (frames, f) ∧ Follows sizes n frames f := by
  induction n with
  | zero =>
      refine ⟨[], new sizes (draws 0), rfl, rfl, length_drawn _ _, rfl, rfl, ?_⟩
      exact List.pairwise_singleton _ _
  | succ n ih =>
      have moved : (Filler.after sizes n).Sent (Filler.after sizes (n + 1)) := Filler.sent_cases _
      rw [moved.total] at countable
      obtain ⟨frames, f, sent, follows⟩ := ih (Nat.lt_of_le_of_lt (Nat.le_add_right _ _) countable)
      rw [← follows.same] at moved countable
      have fixed : f.sizes = sizes := by
        rw [follows.same, Filler.sizes_after]
      obtain ⟨g, next, kept, full⟩ := sent?_toFiller (draws (n + 1)) (fixed.symm ▸ fit)
        (fixed.symm ▸ narrow) countable follows.full
      have same : g.toFiller = Filler.after sizes (n + 1) :=
        kept.trans (congrArg Filler.sent follows.same)
      rw [← same] at moved
      have grows : f.size ≤ g.size := moved.size_le (fixed.symm ▸ fit)
      refine ⟨frames ++ [f.frame], g, ?_, same, full, ?_, ?_, ?_⟩
      · rw [send?, sent]
        change (f.sent? (draws (n + 1))).bind (fun g => some (frames ++ [f.frame], g)) = _
        rw [next]
        rfl
      · rw [List.length_append, follows.count, List.length_singleton]
      · rw [moved.total, follows.total, List.map_append, List.sum_append, List.map_singleton,
          List.sum_singleton, follows.full]
      · rw [List.map_append, List.map_singleton, follows.full]
        exact pairwise_concat follows.rising grows

/-- After any number of frames, as long as what has been sent fits into a word, no number has
overflowed and nothing was divided by zero. The total is that of the frames, whose sizes never fell;
the next frame is as long as the filler says, within the limits, and its size neither lags behind
what has been sent nor grew early. -/
theorem send_keeps_pace {settings : Settings} {config : ServerConfig}
    (resolved : settings.resolve = .ok config) (narrow : config.filler.greatest < 2 ^ 63)
    (draws : Nat → Nat → Fin Filler.letters.length) (n : Nat)
    (countable : (Filler.after config.filler n).total < 2 ^ 64) :
    ∃ frames f, send? config.filler draws n = some (frames, f) ∧
      f.toFiller = Filler.after config.filler n ∧
      frames.length = n ∧
      config.filler.least ≤ f.size ∧ f.size ≤ config.filler.greatest ∧
      (frames.map List.length ++ [f.size]).Pairwise (· ≤ ·) ∧
      f.frame.length = f.size ∧
      f.total = (frames.map List.length).sum ∧
      (f.size < config.filler.scaled → f.total < f.size * config.filler.fraction) ∧
      (config.filler.initial < f.size → f.size * config.filler.fraction ≤ 2 * f.total) := by
  have fit := Settings.fit_of_resolve resolved
  obtain ⟨frames, f, sent, follows⟩ := send?_follows draws fit narrow countable
  have fixed : f.sizes = config.filler := by
    rw [follows.same, Filler.sizes_after]
  have paced : f.Paced := follows.same ▸ Filler.paced_after fit n
  obtain ⟨least_le, le_greatest, catchesUp, waits⟩ := paced
  rw [fixed] at least_le le_greatest catchesUp waits
  exact ⟨frames, f, sent, follows.same, follows.count, least_le, le_greatest, follows.rising,
    follows.full, follows.total, catchesUp, waits⟩

/-- Frames grow to the size from which on they stay as they are, and the fourth one has it. -/
theorem send_keeps_pace_upToScaled :
    ∃ config, ({ filler := ⟨some 1, some 2, some 8, some 5, some 2⟩ } : Settings).resolve =
        .ok config ∧
      ∃ frames f, send? config.filler (fun _ _ => ⟨0, by decide⟩) 4 = some (frames, f) ∧
        frames.length = 4 ∧ f.frame.length = 5 ∧ f.total = 13 := by
  have resolved : ({ filler := ⟨some 1, some 2, some 8, some 5, some 2⟩ } : Settings).resolve =
      .ok _ := rfl
  obtain ⟨frames, f, sent, same, count, -, -, -, full, -⟩ :=
    send_keeps_pace resolved (by decide) (fun _ _ => ⟨0, by decide⟩) 4 (by decide)
  refine ⟨_, resolved, frames, f, sent, count, full.trans ?_, ?_⟩
  · exact congrArg Filler.size same
  · exact congrArg Filler.total same

end LoadedFiller

end LinkGauge
