import Mathlib.Algebra.Order.Ring.Int
import RuleWatch.Text.Integer
import RuleWatch.TimeRange

/-!
# How often an episode is looked at

The step of the range of an episode is the length of the episode divided by 250, toward zero, and at
least a second. The length divided by that step is the length itself when it is below 250, and
otherwise at least 250 and below twice as much: most of all at a length of 499, where a quotient of
almost two is rounded down to a step of one.
-/

namespace RuleWatch.TimeRange

variable {start finish : Int}

/-- A range can be looked at if it has points and does not run backwards. -/
theorem check_eq_ok_iff {range : TimeRange} :
    range.check = .ok () ↔ 0 < range.step ∧ range.start ≤ range.finish := by
  unfold check
  split
  · exact iff_of_false (by simp) (by omega)
  · split
    · exact iff_of_false (by simp) (by omega)
    · exact iff_of_true rfl (by omega)

/-- How many whole steps there are from the start to the end. -/
def wholeSteps (range : TimeRange) : Int :=
  (range.finish - range.start) / range.step

/-- The points in time at which the range is looked at. -/
def points (range : TimeRange) : List Int :=
  (List.range (range.wholeSteps + 1).toNat).map fun i : Nat ↦ range.start + i * range.step

/-- A range is looked at from its start on, after each step, as long as it goes. -/
theorem mem_points_iff {range : TimeRange} (h : range.check = .ok ()) {t : Int} :
    t ∈ range.points ↔ range.start ≤ t ∧ t ≤ range.finish ∧ range.step ∣ t - range.start := by
  obtain ⟨hstep, horder⟩ := check_eq_ok_iff.mp h
  have hsteps : ∀ i : Nat, i < (range.wholeSteps + 1).toNat ↔
      range.start + i * range.step ≤ range.finish := by
    intro i
    have hfits : (i : Int) ≤ range.wholeSteps ↔ i * range.step ≤ range.finish - range.start :=
      Int.le_ediv_iff_mul_le hstep
    omega
  simp only [points, List.mem_map, List.mem_range, hsteps]
  constructor
  · rintro ⟨i, hi, rfl⟩
    have hpast : 0 ≤ (i : Int) * range.step :=
      Int.mul_nonneg (Int.natCast_nonneg i) (Int.le_of_lt hstep)
    exact ⟨by omega, hi, i, by rw [Int.mul_comm]; omega⟩
  · rintro ⟨hstart, hfinish, k, hk⟩
    have hpast : 0 ≤ k :=
      Int.nonneg_of_mul_nonneg_right (by omega) hstep
    refine ⟨k.toNat, ?_, ?_⟩
    all_goals
      rw [Int.toNat_of_nonneg hpast, Int.mul_comm]
      omega

/-- A number divided by its quotient by `k`, with both quotients rounded down, is at least `k` and
below twice `k`. -/
theorem div_div_bounds {n k : Int} (hk : 0 < k) (h : k ≤ n) :
    k ≤ n / (n / k) ∧ n / (n / k) < 2 * k := by
  have hone : 1 ≤ n / k := (Int.le_ediv_iff_mul_le hk).mpr (by omega)
  have hpos : 0 < n / k := by omega
  constructor
  · rw [Int.le_ediv_iff_mul_le hpos, Int.mul_comm]
    exact Int.ediv_mul_le n (Int.ne_of_gt hk)
  · rw [Int.ediv_lt_iff_lt_mul hpos]
    calc n < (n / k + 1) * k := Int.lt_ediv_add_one_mul_self n hk
      _ ≤ (n / k + n / k) * k := Int.mul_le_mul_of_nonneg_right (by omega) (by omega)
      _ = 2 * k * (n / k) := by rw [← Int.two_mul, Int.mul_right_comm]

theorem one_le_step_ofEpisode : 1 ≤ (ofEpisode start finish).step :=
  Int.le_max_left ..

/-- An episode that does not run backwards has a range that can be looked at. -/
theorem check_ofEpisode (h : start ≤ finish) : (ofEpisode start finish).check = .ok () :=
  check_eq_ok_iff.mpr ⟨one_le_step_ofEpisode, h⟩

theorem step_ofEpisode (h : start ≤ finish) :
    (ofEpisode start finish).step = max 1 ((finish - start) / 250) := by
  rw [ofEpisode, episodePoints, Int.tdiv_eq_ediv_of_nonneg (by omega)]

/-- A short episode is looked at every second. -/
theorem wholeSteps_of_lt (h : start ≤ finish) (hshort : finish - start < 250) :
    (ofEpisode start finish).wholeSteps = finish - start := by
  have hstep : (ofEpisode start finish).step = 1 := by
    rw [step_ofEpisode h]
    omega
  rw [wholeSteps, hstep, Int.ediv_one]
  rfl

/-- A long episode is looked at about 250 times, and never as much as twice as often. -/
theorem wholeSteps_of_le (h : start ≤ finish) (hlong : 250 ≤ finish - start) :
    250 ≤ (ofEpisode start finish).wholeSteps ∧ (ofEpisode start finish).wholeSteps ≤ 499 := by
  have hstep : (ofEpisode start finish).step = (finish - start) / 250 := by
    rw [step_ofEpisode h]
    omega
  obtain ⟨hlow, hhigh⟩ := div_div_bounds (by decide) hlong
  rw [← hstep] at hlow hhigh
  exact ⟨hlow, Int.le_of_lt_add_one hhigh⟩

theorem wholeSteps_ofEpisode_le (h : start ≤ finish) :
    (ofEpisode start finish).wholeSteps ≤ 499 := by
  by_cases hshort : finish - start < 250
  · rw [wholeSteps_of_lt h hshort]
    omega
  · exact (wholeSteps_of_le h (by omega)).2

/-- However long an episode is, it is not looked at more than 500 times. -/
theorem length_points_ofEpisode_le (h : start ≤ finish) :
    (ofEpisode start finish).points.length ≤ 500 := by
  have hle := wholeSteps_ofEpisode_le h
  rw [points, List.length_map, List.length_range]
  omega

/-! ## Words -/

/-- The step of an episode in words of 64 bits. -/
def wordStep (start finish : Int64) : Int64 :=
  let quotient := (finish - start) / 250
  if quotient < 1 then 1 else quotient

/-- Words bring the step of the episode, as long as its length is one of a word. -/
theorem toInt_wordStep {start finish : Int64}
    (hlow : Text.minInt64 ≤ finish.toInt - start.toInt)
    (hhigh : finish.toInt - start.toInt ≤ Text.maxInt64) :
    (wordStep start finish).toInt = (ofEpisode start.toInt finish.toInt).step := by
  unfold Text.minInt64 at hlow
  unfold Text.maxInt64 at hhigh
  have hlength : (finish - start).toInt = finish.toInt - start.toInt := by
    rw [Int64.toInt_sub, Int.bmod_eq_of_le (by omega) (by omega)]
  have hquotient : ((finish - start) / 250).toInt = (finish.toInt - start.toInt).tdiv 250 := by
    rw [Int64.toInt_div_of_ne_right _ _ (by decide), hlength]
    rfl
  have hsmall : (finish - start) / 250 < 1 ↔ (finish.toInt - start.toInt).tdiv 250 < 1 := by
    rw [Int64.lt_iff_toInt_lt, hquotient]
    rfl
  change Int64.toInt (if (finish - start) / 250 < 1 then 1 else (finish - start) / 250) =
    max 1 ((finish.toInt - start.toInt).tdiv 250)
  split
  next h => exact (Int.max_eq_left (Int.le_of_lt (hsmall.mp h))).symm
  next h => rw [hquotient, Int.max_eq_right (Int.not_lt.mp (mt hsmall.mpr h))]

end RuleWatch.TimeRange
