import PlanterTelemetry.Analytics.Estimator
import Mathlib.Tactic.LinearCombination

open planter_telemetry.python

namespace planter_telemetry.analytics.model

section Ranks

variable {K : Type} [Field K] [LinearOrder K] [IsStrictOrderedRing K] {a b : K} {values : List K} {i : Nat}

/-- Under `a * v + b` ranks keep their place or count from the other end, by the
    sign of `a`. -/
def rank_after (a : K) (count i : Nat) : Nat := if 0 < a then i else count - 1 - i

theorem getD_sort_affine (ha : a ≠ 0) (hi : i < values.length) :
    ((values.map fun v => a * v + b).insertionSort (· ≤ ·)).getD i 0 =
      a * (values.insertionSort (· ≤ ·)).getD (rank_after a values.length i) 0 + b := by
  have hlength : (values.insertionSort (· ≤ ·)).length = values.length := List.length_insertionSort _ _
  cases lt_or_gt_of_ne ha with
  | inl hneg =>
    have hanti : Antitone fun v : K => a * v + b := fun v w h =>
      (add_le_add_iff_right b).mpr (mul_le_mul_of_nonpos_left h hneg.le)
    rw [Rank.insertionSort_map_anti hanti, rank_after, if_neg (not_lt.mpr hneg.le),
      List.getD_eq_getElem _ _ (by rw [List.length_reverse, List.length_map, hlength]; exact hi),
      List.getElem_reverse, List.getElem_map,
      List.getD_eq_getElem _ _ (show values.length - 1 - i < (values.insertionSort (· ≤ ·)).length by omega)]
    simp only [List.length_map, hlength]
  | inr hpos =>
    have hmono : StrictMono fun v : K => a * v + b := fun v w h =>
      (add_lt_add_iff_right b).mpr (mul_lt_mul_of_pos_left h hpos)
    rw [Rank.insertionSort_map_mono hmono, rank_after, if_pos hpos,
      List.getD_eq_getElem _ _ (by rw [List.length_map, hlength]; exact hi), List.getElem_map,
      List.getD_eq_getElem _ _ (by rw [hlength]; exact hi)]

theorem median_affine (ha : a ≠ 0) (hvalues : values ≠ []) :
    median (values.map fun v => a * v + b) = a * median values + b := by
  have hpos := List.length_pos_of_ne_nil hvalues
  unfold median
  simp only [List.length_insertionSort, List.length_map]
  by_cases hodd : values.length % 2 = 1
  · have hmiddle : rank_after a values.length (values.length / 2) = values.length / 2 := by
      unfold rank_after
      split
      · rfl
      · omega
    rw [if_pos hodd, if_pos hodd, getD_sort_affine ha (by omega), hmiddle]
  · rw [if_neg hodd, if_neg hodd, getD_sort_affine ha (by omega), getD_sort_affine ha (by omega)]
    unfold rank_after
    split
    · ring
    · have hleft : values.length - 1 - (values.length / 2 - 1) = values.length / 2 := by omega
      have hright : values.length - 1 - values.length / 2 = values.length / 2 - 1 := by omega
      rw [hleft, hright]
      ring

end Ranks

section Coordinates

variable {K : Type} [Field K] [LinearOrder K] {a b : K} {points : List (K × K)}

/-- The slopes of all pairs in the order of the double loop. -/
def raw_slopes (points : List (K × K)) : List K :=
  ((pairs points).filter fun (p, q) => decide (q.1 ≠ p.1)).map fun (p, q) => (q.2 - p.2) / (q.1 - p.1)

theorem slopes_eq (points : List (K × K)) : slopes points = (raw_slopes points).insertionSort (· ≤ ·) := rfl

theorem length_slopes (points : List (K × K)) : (slopes points).length = (raw_slopes points).length :=
  List.length_insertionSort _ _

theorem median_slopes (points : List (K × K)) : median (slopes points) = median (raw_slopes points) := by
  unfold median
  rw [slopes_eq, Rank.insertionSort_insertionSort]

/-- A line through every point with its value rewritten. -/
def affine (a b : K) (points : List (K × K)) : List (K × K) := points.map fun (x, y) => (x, a * y + b)

theorem raw_slopes_affine (a b : K) (points : List (K × K)) :
    raw_slopes (affine a b points) = (raw_slopes points).map fun slope => a * slope + 0 := by
  unfold raw_slopes affine
  rw [pairs_map, List.filter_map, List.map_map, List.map_map]
  apply List.map_congr_left
  intro pair _
  simp only [Function.comp_apply, Prod.map]
  rw [add_sub_add_right_eq_sub, ← mul_sub, mul_div_assoc, add_zero]

theorem raw_slopes_affine_length (a b : K) (points : List (K × K)) :
    (raw_slopes (affine a b points)).length = (raw_slopes points).length := by
  rw [raw_slopes_affine, List.length_map]

variable [IsStrictOrderedRing K]

theorem median_slopes_affine (ha : a ≠ 0) (b : K) (hsome : raw_slopes points ≠ []) :
    median (slopes (affine a b points)) = a * median (slopes points) := by
  rw [median_slopes, median_slopes, raw_slopes_affine, median_affine ha hsome, add_zero]

omit [IsStrictOrderedRing K] in
theorem points_ne_nil_of_slopes (hsome : raw_slopes points ≠ []) : points ≠ [] := by
  rintro rfl
  exact hsome rfl

theorem intercept_affine (ha : a ≠ 0) (b : K) (hsome : raw_slopes points ≠ []) :
    intercept (affine a b points) = a * intercept points + b := by
  unfold intercept
  rw [median_slopes_affine ha b hsome, ← median_affine ha (by
    rw [ne_eq, List.map_eq_nil_iff]
    exact points_ne_nil_of_slopes hsome), affine, List.map_map, List.map_map]
  congr 1
  apply List.map_congr_left
  intro point _
  simp only [Function.comp_apply]
  ring

/-- The distances from the line. -/
def residuals (points : List (K × K)) : List K :=
  points.map fun (x, y) => |y - (median (slopes points) * x + intercept points)|

theorem median_residuals_affine (ha : a ≠ 0) (b : K) (hsome : raw_slopes points ≠ []) :
    median (residuals (affine a b points)) = |a| * median (residuals points) := by
  have hresiduals : residuals (affine a b points) = (residuals points).map fun v => |a| * v + 0 := by
    unfold residuals
    rw [median_slopes_affine ha b hsome, intercept_affine ha b hsome, affine, List.map_map, List.map_map]
    apply List.map_congr_left
    intro point _
    simp only [Function.comp_apply]
    rw [add_zero, ← abs_mul]
    congr 1
    ring
  have hresidual : residuals points ≠ [] := by
    rw [residuals, ne_eq, List.map_eq_nil_iff]
    exact points_ne_nil_of_slopes hsome
  rw [hresiduals, median_affine (abs_ne_zero.mpr ha) hresidual, add_zero]

theorem slopes_affine_getD (ha : a ≠ 0) (b : K) {i : Nat} (hi : i < (slopes points).length) :
    (slopes (affine a b points)).getD i 0 =
      a * (slopes points).getD (rank_after a (slopes points).length i) 0 := by
  rw [length_slopes] at hi ⊢
  rw [slopes_eq, raw_slopes_affine, getD_sort_affine ha hi, add_zero, slopes_eq]

end Coordinates

/-! ### The ranks of the confidence interval -/

/-- The ranks are clamped to the ends, or they add up to one more than symmetric
    ranks do. -/
theorem ranks_cases (spread : Nat) {m : Nat} (hm : 0 < m) :
    (m < spread + 2 ∧ low_rank spread m = 0 ∧ high_rank spread m = m - 1) ∨
      (spread + 2 ≤ m ∧ 0 < low_rank spread m ∧ high_rank spread m < m ∧
        low_rank spread m + high_rank spread m = m) := by
  unfold low_rank high_rank
  omega

/-! ### Moving a series and its fit -/

section Moved

variable {K : Type} [Field K] [LinearOrder K] {z a b : K} {d : Int}
  {samples moved : List (Point UtcDatetime K)} {newest : Point UtcDatetime K}

/-- Every value `y` becomes `a * y + b`, and every time is `d` later. -/
def Moved (a b : K) (d : Int) (samples moved : List (Point UtcDatetime K)) : Prop :=
  List.Forall₂ (fun s s' => s'.at_time.micros = s.at_time.micros + d ∧ s'.value = a * s.value + b)
    samples moved

omit [LinearOrder K] in
theorem Moved.getLast? (h : Moved a b d samples moved) (hlast : samples.getLast? = some newest) :
    ∃ newest', moved.getLast? = some newest' ∧ newest'.at_time.micros = newest.at_time.micros + d := by
  induction h with
  | nil => cases hlast
  | @cons s s' rest rest' hs hrest ih =>
    cases hrest with
    | nil =>
      cases hlast
      exact ⟨s', rfl, hs.1⟩
    | cons hnext hmore =>
      rw [List.getLast?_cons_cons] at hlast
      obtain ⟨newest', hnewest', htime⟩ := ih hlast
      exact ⟨newest', by rw [List.getLast?_cons_cons, hnewest'], htime⟩

omit [LinearOrder K] in
theorem Moved.coordinates_eq (h : Moved a b d samples moved) {newest newest' : UtcDatetime}
    (htime : newest'.micros = newest.micros + d) :
    coordinates newest' moved = affine a b (coordinates newest samples) := by
  unfold coordinates affine
  induction h with
  | nil => rfl
  | @cons s s' rest rest' hs hrest ih =>
    have hsince : DataTime.since s'.at_time newest' = DataTime.since s.at_time newest := by
      show s'.at_time.micros - newest'.micros = s.at_time.micros - newest.micros
      omega
    rw [List.map_cons, List.map_cons, List.map_cons, ih, hsince, hs.2]

/-- How a fit follows the rewriting of its series. -/
structure Follows (a b : K) (d : Int) (fit fit' : Fit UtcDatetime K) : Prop where
  slope : fit'.slope_per_hour = a * fit.slope_per_hour
  value_at_anchor : fit'.value_at_anchor = a * fit.value_at_anchor + b
  residual_mad : fit'.residual_mad = |a| * fit.residual_mad
  anchor_at : fit'.anchor_at.micros = fit.anchor_at.micros + d
  interval_up : 0 < a → fit'.slope_low_per_hour = a * fit.slope_low_per_hour ∧
    fit'.slope_high_per_hour = a * fit.slope_high_per_hour
  interval_down : a < 0 → fit'.slope_low_per_hour = a * fit.slope_high_per_hour ∧
    fit'.slope_high_per_hour = a * fit.slope_low_per_hour

variable [FloorRing K]

/-- Neither series has a fit, or the one fit follows from the other. -/
def Equivariant (z a b : K) (d : Int) (samples moved : List (Point UtcDatetime K)) : Prop :=
  (theil_sen z samples = none ∧ theil_sen z moved = none) ∨
    ∃ fit fit', theil_sen z samples = some fit ∧ theil_sen z moved = some fit' ∧ Follows a b d fit fit'

/-- The pairs of samples at different times, which have a slope. -/
def pair_count (samples : List (Point UtcDatetime K)) : Nat :=
  ((pairs samples).filter fun (p, q) => decide (q.at_time ≠ p.at_time)).length

/-- The ranks of the confidence interval add up to the last rank, so that they
    lie around the middle. -/
def SymmetricRanks (z : K) (samples : List (Point UtcDatetime K)) : Prop :=
  0 < pair_count samples →
    low_rank (rank_spread z samples.length) (pair_count samples) +
      high_rank (rank_spread z samples.length) (pair_count samples) = pair_count samples - 1

/-- So few pairs that the ranks are clamped to the ends of the sorted slopes. -/
def ClampedRanks (z : K) (samples : List (Point UtcDatetime K)) : Prop :=
  pair_count samples < rank_spread z samples.length + 2

/-- The sorted slopes are tied at both ranks with their lower neighbours. -/
def TiedRanks (z : K) (samples : List (Point UtcDatetime K)) : Prop :=
  ∃ newest, samples.getLast? = some newest ∧ ∀ rank ∈ [low_rank, high_rank],
    (slopes (coordinates newest.at_time samples)).getD
        (rank (rank_spread z samples.length) (pair_count samples) - 1) 0 =
      (slopes (coordinates newest.at_time samples)).getD
        (rank (rank_spread z samples.length) (pair_count samples)) 0

theorem symmetricRanks_iff : SymmetricRanks z samples ↔ ClampedRanks z samples := by
  unfold SymmetricRanks ClampedRanks
  cases Nat.eq_zero_or_pos (pair_count samples) with
  | inl hzero =>
    rw [hzero]
    omega
  | inr hpos =>
    rcases ranks_cases (rank_spread z samples.length) hpos with ⟨hfew, hlow, hhigh⟩ | ⟨hmany, hlow, hhigh, hsum⟩
    · rw [hlow, hhigh]
      omega
    · rw [hsum]
      omega

variable [IsStrictOrderedRing K]

omit [IsStrictOrderedRing K] in
/-- Two samples lie at one coordinate just when they are of one time. -/
theorem length_raw_slopes (newest : UtcDatetime) (samples : List (Point UtcDatetime K)) :
    (raw_slopes (coordinates newest samples)).length = pair_count samples := by
  unfold raw_slopes coordinates pair_count
  rw [List.length_map, pairs_map, List.filter_map, List.length_map]
  congr 1
  apply List.filter_congr
  intro pair _
  simp only [Function.comp_apply, Prod.map]
  refine decide_eq_decide.mpr (not_congr ?_)
  have hsince : ∀ time : UtcDatetime, DataTime.since time newest = time.micros - newest.micros := fun _ => rfl
  unfold total_seconds
  rw [div_left_inj' (by norm_num), div_left_inj' (by norm_num), Int.cast_inj, hsince, hsince, sub_left_inj,
    UtcDatetime.ext_iff]

omit [IsStrictOrderedRing K] in
theorem fit_of_low (z : K) (newest : UtcDatetime) (samples : List (Point UtcDatetime K)) :
    (fit_of z newest samples).slope_low_per_hour = (slopes (coordinates newest samples)).getD
      (low_rank (rank_spread z samples.length) (slopes (coordinates newest samples)).length) 0 := rfl

omit [IsStrictOrderedRing K] in
theorem fit_of_high (z : K) (newest : UtcDatetime) (samples : List (Point UtcDatetime K)) :
    (fit_of z newest samples).slope_high_per_hour = (slopes (coordinates newest samples)).getD
      (high_rank (rank_spread z samples.length) (slopes (coordinates newest samples)).length) 0 := rfl

/-- What the moved fit takes over whatever the ranks are. -/
theorem moved_line (z : K) (ha : a ≠ 0) {newest newest' : UtcDatetime} (hmoved : Moved a b d samples moved)
    (htime : newest'.micros = newest.micros + d) (hpairs : 0 < pair_count samples) :
    (fit_of z newest' moved).slope_per_hour = a * (fit_of z newest samples).slope_per_hour ∧
      (fit_of z newest' moved).value_at_anchor = a * (fit_of z newest samples).value_at_anchor + b ∧
      (fit_of z newest' moved).residual_mad = |a| * (fit_of z newest samples).residual_mad := by
  have hsome : raw_slopes (coordinates newest samples) ≠ [] := by
    rw [← List.length_pos_iff, length_raw_slopes]
    exact hpairs
  have hcoordinates := hmoved.coordinates_eq htime
  unfold fit_of
  rw [hcoordinates]
  exact ⟨median_slopes_affine ha b hsome, intercept_affine ha b hsome, median_residuals_affine ha b hsome⟩

/-- The interval of the moved fit, from the slopes of the first series. -/
theorem moved_interval (z : K) (ha : a ≠ 0) {newest newest' : UtcDatetime} (hmoved : Moved a b d samples moved)
    (htime : newest'.micros = newest.micros + d) (hpairs : 0 < pair_count samples) :
    let ranked := slopes (coordinates newest samples)
    let spread := rank_spread z samples.length
    (fit_of z newest samples).slope_low_per_hour = ranked.getD (low_rank spread (pair_count samples)) 0 ∧
      (fit_of z newest samples).slope_high_per_hour = ranked.getD (high_rank spread (pair_count samples)) 0 ∧
      (fit_of z newest' moved).slope_low_per_hour =
        a * ranked.getD (rank_after a (pair_count samples) (low_rank spread (pair_count samples))) 0 ∧
      (fit_of z newest' moved).slope_high_per_hour =
        a * ranked.getD (rank_after a (pair_count samples) (high_rank spread (pair_count samples))) 0 := by
  intro ranked spread
  have hcount : ranked.length = pair_count samples := by
    rw [length_slopes, length_raw_slopes]
  have hcount' : (slopes (affine a b (coordinates newest samples))).length = pair_count samples := by
    rw [length_slopes, raw_slopes_affine_length, length_raw_slopes]
  have hlow : low_rank spread (pair_count samples) < ranked.length := by
    rw [hcount]
    unfold low_rank
    omega
  have hhigh : high_rank spread (pair_count samples) < ranked.length := by
    rw [hcount]
    unfold high_rank
    omega
  have hlength : moved.length = samples.length := hmoved.length_eq.symm
  have hmove_low := slopes_affine_getD ha b hlow
  have hmove_high := slopes_affine_getD ha b hhigh
  rw [hcount] at hmove_low hmove_high
  refine ⟨?_, ?_, ?_, ?_⟩
  · rw [fit_of_low, hcount]
  · rw [fit_of_high, hcount]
  · rw [fit_of_low, hmoved.coordinates_eq htime, hlength, hcount', hmove_low]
  · rw [fit_of_high, hmoved.coordinates_eq htime, hlength, hcount', hmove_high]

/-- The moved fit follows the first one unless a negative factor turns
    asymmetric ranks around between slopes that differ. -/
theorem follows_iff (z : K) (ha : a ≠ 0) {newest newest' : UtcDatetime} (hmoved : Moved a b d samples moved)
    (htime : newest'.micros = newest.micros + d) (hpairs : 0 < pair_count samples) :
    Follows a b d (fit_of z newest samples) (fit_of z newest' moved) ↔
      0 < a ∨ ClampedRanks z samples ∨ ∀ rank ∈ [low_rank, high_rank],
        (slopes (coordinates newest samples)).getD
            (rank (rank_spread z samples.length) (pair_count samples) - 1) 0 =
          (slopes (coordinates newest samples)).getD
            (rank (rank_spread z samples.length) (pair_count samples)) 0 := by
  obtain ⟨hslope, hvalue, hresidual⟩ := moved_line z ha hmoved htime hpairs
  obtain ⟨hlow, hhigh, hlow', hhigh'⟩ := moved_interval z ha hmoved htime hpairs
  generalize slopes (coordinates newest samples) = ranked at hlow hhigh hlow' hhigh' ⊢
  generalize hspread : rank_spread z samples.length = spread at hlow hhigh hlow' hhigh' ⊢
  generalize hcount : pair_count samples = m at hpairs hlow hhigh hlow' hhigh' ⊢
  cases lt_or_gt_of_ne ha with
  | inl hneg =>
    have hnot : ¬ 0 < a := not_lt.mpr hneg.le
    rw [rank_after, if_neg hnot] at hlow' hhigh'
    rcases ranks_cases spread hpairs with ⟨hfew, hfirst, hlast⟩ | ⟨hmany, hpos, hless, hsum⟩
    · refine iff_of_true ⟨hslope, hvalue, hresidual, htime, fun hup => absurd hup hnot, fun _ => ?_⟩
        (.inr (.inl ?_))
      · rw [hlow', hhigh', hlow, hhigh, hfirst, hlast, Nat.sub_zero, Nat.sub_self]
        exact ⟨rfl, rfl⟩
      · rw [ClampedRanks, hcount, hspread]
        exact hfew
    · have hbelow_high : m - 1 - low_rank spread m = high_rank spread m - 1 := by omega
      have hbelow_low : m - 1 - high_rank spread m = low_rank spread m - 1 := by omega
      rw [hbelow_high] at hlow'
      rw [hbelow_low] at hhigh'
      have hclamped : ¬ ClampedRanks z samples := by
        rw [ClampedRanks, hcount, hspread]
        omega
      rw [or_iff_right hnot, or_iff_right hclamped, List.forall_mem_cons, List.forall_mem_singleton]
      constructor
      · intro hfollows
        obtain ⟨hdown_low, hdown_high⟩ := hfollows.interval_down hneg
        rw [hlow', hhigh] at hdown_low
        rw [hhigh', hlow] at hdown_high
        exact ⟨mul_left_cancel₀ ha hdown_high, mul_left_cancel₀ ha hdown_low⟩
      · rintro ⟨htied_low, htied_high⟩
        refine ⟨hslope, hvalue, hresidual, htime, fun hup => absurd hup hnot, fun _ => ?_⟩
        rw [hlow', hhigh', hlow, hhigh, htied_low, htied_high]
        exact ⟨rfl, rfl⟩
  | inr hpos =>
    rw [rank_after, if_pos hpos] at hlow' hhigh'
    refine iff_of_true ⟨hslope, hvalue, hresidual, htime, fun _ => ?_, fun hdown => absurd hpos hdown.not_gt⟩
      (.inl hpos)
    rw [hlow', hhigh', hlow, hhigh]
    exact ⟨rfl, rfl⟩

/-- The fit of a moved series follows the fit of the series just when the factor
    is positive, the ranks are clamped to the ends, or slopes are tied where the
    ranks are off the middle. Ranks around the middle are the clamped ones alone. -/
theorem theil_sen_equivariant_iff (z : K) (ha : a ≠ 0) (hlength : MIN_FIT_POINTS ≤ samples.length)
    (hmoved : Moved a b d samples moved) :
    (Equivariant z a b d samples moved ↔ 0 < a ∨ ClampedRanks z samples ∨ TiedRanks z samples) ∧
      (Equivariant z a b d samples moved ∧ (a < 0 → SymmetricRanks z samples) ↔
        0 < a ∨ ClampedRanks z samples) := by
  have hsome : samples ≠ [] := by
    rintro rfl
    cases hlength
  have hlast : samples.getLast? = some (samples.getLast hsome) := List.getLast?_eq_some_getLast hsome
  generalize samples.getLast hsome = newest at hlast
  obtain ⟨newest', hlast', htime⟩ := hmoved.getLast? hlast
  have hmoved_length : moved.length = samples.length := hmoved.length_eq.symm
  have hfirst : Equivariant z a b d samples moved ↔ 0 < a ∨ ClampedRanks z samples ∨ TiedRanks z samples := by
    have hcount : (slopes (coordinates newest.at_time samples)).length = pair_count samples := by
      rw [length_slopes, length_raw_slopes]
    have hcount' : (slopes (coordinates newest'.at_time moved)).length = pair_count samples := by
      rw [hmoved.coordinates_eq htime, length_slopes, raw_slopes_affine_length, length_raw_slopes]
    unfold Equivariant
    rw [theil_sen_eq hlast, theil_sen_eq hlast', hmoved_length, if_neg (not_lt.mpr hlength),
      if_neg (not_lt.mpr hlength), hcount, hcount']
    cases Nat.eq_zero_or_pos (pair_count samples) with
    | inl hzero =>
      rw [if_pos hzero, if_pos hzero]
      refine iff_of_true (.inl ⟨rfl, rfl⟩) (.inr (.inl ?_))
      rw [ClampedRanks, hzero]
      omega
    | inr hpos =>
      rw [if_neg hpos.ne', if_neg hpos.ne']
      have htied : TiedRanks z samples ↔ ∀ rank ∈ [low_rank, high_rank],
          (slopes (coordinates newest.at_time samples)).getD
              (rank (rank_spread z samples.length) (pair_count samples) - 1) 0 =
            (slopes (coordinates newest.at_time samples)).getD
              (rank (rank_spread z samples.length) (pair_count samples)) 0 := by
        constructor
        · rintro ⟨own, hown, htied⟩
          rw [hlast, Option.some.injEq] at hown
          rw [hown]
          exact htied
        · exact fun htied => ⟨newest, hlast, htied⟩
      rw [htied, ← follows_iff z ha hmoved htime hpos]
      constructor
      · rintro (⟨hnone, -⟩ | ⟨fit, fit', hfit, hfit', hfollows⟩)
        · cases hnone
        · cases hfit
          cases hfit'
          exact hfollows
      · exact fun hfollows => .inr ⟨_, _, rfl, rfl, hfollows⟩
  refine ⟨hfirst, ?_⟩
  rw [hfirst, symmetricRanks_iff]
  constructor
  · rintro ⟨hpos | hclamped | htied, hranks⟩
    · exact .inl hpos
    · exact .inr hclamped
    · cases lt_or_gt_of_ne ha with
      | inl hneg => exact .inr (hranks hneg)
      | inr hpos => exact .inl hpos
  · rintro (hpos | hclamped)
    · exact ⟨.inl hpos, fun hneg => absurd hpos hneg.not_gt⟩
    · exact ⟨.inr (.inl hclamped), fun _ => hclamped⟩

end Moved

/-- Six hourly samples on a parabola. -/
def parabola (factor : ℚ) : List (Point UtcDatetime ℚ) :=
  [⟨at_minute 0, 50⟩, ⟨at_minute 60, 50 + factor⟩, ⟨at_minute 120, 50 + 4 * factor⟩,
    ⟨at_minute 180, 50 + 9 * factor⟩, ⟨at_minute 240, 50 + 16 * factor⟩, ⟨at_minute 300, 50 + 25 * factor⟩]

theorem parabola_turned (factor : ℚ) : Moved (-1) 100 0 (parabola factor) (parabola (-factor)) := by
  have hvalue : ∀ k : ℚ, 50 + k * -factor = -1 * (50 + k * factor) + 100 := fun k => by ring
  have hone : 50 + -factor = -1 * (50 + factor) + 100 := by ring
  refine .cons ⟨rfl, by norm_num⟩ (.cons ⟨rfl, hone⟩ (.cons ⟨rfl, hvalue 4⟩ (.cons ⟨rfl, hvalue 9⟩
    (.cons ⟨rfl, hvalue 16⟩ (.cons ⟨rfl, hvalue 25⟩ .nil)))))

theorem theil_sen_equivariant_iff_parabola :
    (Equivariant (49 / 25) (-1) 100 0 (parabola (-1)) (parabola (- -1)) ↔
        (0 : ℚ) < -1 ∨ ClampedRanks (49 / 25) (parabola (-1)) ∨ TiedRanks (49 / 25) (parabola (-1))) ∧
      (Equivariant (49 / 25) (-1) 100 0 (parabola (-1)) (parabola (- -1)) ∧
          ((-1 : ℚ) < 0 → SymmetricRanks (49 / 25) (parabola (-1))) ↔
        (0 : ℚ) < -1 ∨ ClampedRanks (49 / 25) (parabola (-1))) :=
  theil_sen_equivariant_iff (49 / 25) (by norm_num) (by decide) (parabola_turned (-1))

/-- Turned around, a band from -7 to -2 becomes one from 3 to 8. -/
theorem theil_sen_not_equivariant :
    ¬ Equivariant (49 / 25) (-1) 100 0 (parabola (-1)) (parabola (- -1)) := by
  have hband : (theil_sen (49 / 25) (parabola (-1))).map
      (fun fit => (fit.slope_low_per_hour, fit.slope_high_per_hour)) = some (-7, -2) := by decide +kernel
  have hturned : (theil_sen (49 / 25) (parabola (- -1))).map
      (fun fit => (fit.slope_low_per_hour, fit.slope_high_per_hour)) = some (3, 8) := by decide +kernel
  rintro (⟨hnone, -⟩ | ⟨fit, fit', hfit, hfit', hfollows⟩)
  · rw [hnone] at hband
    cases hband
  · have hlow := (hfollows.interval_down (by norm_num)).1
    rw [hfit, Option.map_some, Option.some.injEq, Prod.mk.injEq] at hband
    rw [hfit', Option.map_some, Option.some.injEq, Prod.mk.injEq] at hturned
    rw [hband.2, hturned.1] at hlow
    norm_num at hlow

end planter_telemetry.analytics.model
