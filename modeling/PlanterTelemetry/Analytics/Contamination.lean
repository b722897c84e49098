import PlanterTelemetry.Analytics.Estimator

open planter_telemetry.python

namespace planter_telemetry.analytics.model

variable {K : Type} [Field K] [LinearOrder K] [IsStrictOrderedRing K] [FloorRing K] {z a b : K}
  {samples : List (Point UtcDatetime K)} {sample : Point UtcDatetime K} {newest : UtcDatetime}

/-! ### Coordinates of a series in time order -/

/-- The line `y = a + b * t`, with `t` in hours. -/
def line (a b : K) (time : UtcDatetime) : K := a + b * (total_seconds time.micros / 3600)

omit [LinearOrder K] [IsStrictOrderedRing K] [FloorRing K] in
/-- The line at a sample, from its value at the newest one. -/
theorem line_eq (a b : K) (newest time : UtcDatetime) :
    line a b time = line a b newest + b * (total_seconds (DataTime.since time newest) / 3600) := by
  have hsince : (DataTime.since time newest : Int) = time.micros - newest.micros := rfl
  simp only [line, hsince, total_seconds, Int.cast_sub]
  ring

theorem hours_lt_iff {first second : UtcDatetime} :
    (total_seconds (DataTime.since first newest) / 3600 : K) <
        total_seconds (DataTime.since second newest) / 3600 ↔ first < second := by
  have hsince (time : UtcDatetime) : DataTime.since time newest = time.micros - newest.micros := rfl
  rw [div_lt_div_iff_of_pos_right (by norm_num), total_seconds, total_seconds,
    div_lt_div_iff_of_pos_right (by norm_num), Int.cast_lt, UtcDatetime.lt_iff, hsince, hsince]
  omega

theorem coordinates_increasing (newest : UtcDatetime)
    (htimes : samples.Pairwise fun p q => p.at_time < q.at_time) :
    (coordinates newest samples).Pairwise fun p q => p.1 < q.1 :=
  List.pairwise_map.mpr (htimes.imp hours_lt_iff.mpr)

omit [IsStrictOrderedRing K] [FloorRing K] in
/-- No pair is skipped where the hours increase. -/
theorem slopes_perm {points : List (K × K)} (hpoints : points.Pairwise fun p q => p.1 < q.1) :
    (slopes points).Perm ((pairs points).map fun (p, q) => (q.2 - p.2) / (q.1 - p.1)) := by
  have hkept : (pairs points).filter (fun (p, q) => decide (q.1 ≠ p.1)) = pairs points := by
    apply List.filter_eq_self.mpr
    intro pair hpair
    have hlt := forall_mem_pairs.mpr hpoints pair hpair
    exact decide_eq_true hlt.ne'
  unfold slopes
  rw [hkept]
  exact List.perm_insertionSort _ _

omit [IsStrictOrderedRing K] [FloorRing K] in
theorem slopes_length {points : List (K × K)} (hpoints : points.Pairwise fun p q => p.1 < q.1) :
    (slopes points).length = points.length.choose 2 := by
  rw [(slopes_perm hpoints).length_eq, List.length_map, pairs_length]

/-! ### Samples on a line -/

/-- A point of the line through `(0, c)` with slope `b`. -/
def on_line (b c : K) (point : K × K) : Bool := decide (point.2 = c + b * point.1)

omit [IsStrictOrderedRing K] [FloorRing K] in
theorem coordinates_on_line (a b : K) (newest : UtcDatetime)
    (samples : List (Point UtcDatetime K)) :
    (coordinates newest samples).countP (on_line b (line a b newest)) =
      samples.countP fun s => decide (s.value = line a b s.at_time) := by
  rw [coordinates, List.countP_map]
  apply List.countP_congr
  intro s _
  simp only [Function.comp_apply, on_line, decide_eq_true_iff]
  rw [line_eq a b newest s.at_time]

omit [IsStrictOrderedRing K] [FloorRing K] in
/-- Every two points on the line have its slope. -/
theorem slopes_count {b c : K} {points : List (K × K)}
    (hpoints : points.Pairwise fun p q => p.1 < q.1) :
    (points.countP (on_line b c)).choose 2 ≤ (slopes points).count b := by
  have hpair : ∀ pair ∈ pairs points,
      (on_line b c pair.1 && on_line b c pair.2) = true →
        ((pair.2.2 - pair.1.2) / (pair.2.1 - pair.1.1) == b) = true := by
    intro pair hpair hboth
    obtain ⟨hfirst, hsecond⟩ := Bool.and_eq_true_iff.mp hboth
    have hlt := forall_mem_pairs.mpr hpoints pair hpair
    rw [beq_iff_eq, of_decide_eq_true hfirst, of_decide_eq_true hsecond,
      div_eq_iff (sub_ne_zero.mpr hlt.ne')]
    ring
  calc (points.countP (on_line b c)).choose 2
      = (pairs (points.filter (on_line b c))).length := by
        rw [pairs_length, List.countP_eq_length_filter]
    _ = (pairs points).countP fun pair => on_line b c pair.1 && on_line b c pair.2 := by
        rw [← pairs_filter, List.countP_eq_length_filter]
    _ ≤ (pairs points).countP fun pair => (pair.2.2 - pair.1.2) / (pair.2.1 - pair.1.1) == b :=
        List.countP_mono_left hpair
    _ = (slopes points).count b := by
        rw [(slopes_perm hpoints).count_eq, List.count, List.countP_map]
        rfl

omit [FloorRing K] in
/-- A quantity that is the same for all points on the line has that median, if
    they are a strict majority. -/
theorem median_on_line {b c value : K} {f : K × K → K} {points : List (K × K)}
    (hmost : points.length < 2 * points.countP (on_line b c))
    (hf : ∀ x, f (x, c + b * x) = value) : median (points.map f) = value := by
  have hcount : points.countP (on_line b c) ≤ (points.map f).count value := by
    rw [List.count, List.countP_map]
    apply List.countP_mono_left
    intro point _ hpoint
    have hvalue : f point = value := by
      rw [← hf point.1, ← of_decide_eq_true hpoint]
    exact beq_iff_eq.mpr hvalue
  apply median_of_majority
  rw [List.length_map]
  omega

/-! ### The breakdown point -/

/-- A strict majority of all pairs takes a strict majority of the samples. -/
theorem majority_of_pairs {n g : Nat} (hle : g ≤ n) (h : n.choose 2 < 2 * g.choose 2) : n < 2 * g := by
  by_contra hfew
  have hgood : 2 * g.choose 2 ≤ g * (g - 1) := by
    rw [Nat.choose_two_right]
    exact Nat.mul_div_le _ _
  have hall : n * (n - 1) ≤ 2 * n.choose 2 + 1 := by
    rw [Nat.choose_two_right]
    omega
  have hsmall : 2 * (g * (g - 1)) ≤ n * (n - 1) := by
    calc 2 * (g * (g - 1)) = (2 * g) * (g - 1) := (Nat.mul_assoc _ _ _).symm
      _ ≤ n * (n - 1) := Nat.mul_le_mul (by omega) (by omega)
  omega

theorem theil_sen_of_majority (hthree : MIN_FIT_POINTS ≤ samples.length)
    (htimes : samples.Pairwise fun p q => p.at_time < q.at_time)
    (hlast : samples.getLast? = some sample) (a b : K)
    (hmajority : samples.length.choose 2 <
      2 * (samples.countP fun s => decide (s.value = line a b s.at_time)).choose 2) :
    ∃ fit, theil_sen z samples = some fit ∧ fit.slope_per_hour = b ∧
      fit.value_at_anchor = line a b sample.at_time ∧ fit.residual_mad = 0 ∧
      fit.slope_low_per_hour ≤ b ∧ b ≤ fit.slope_high_per_hour := by
  have hpoints := coordinates_increasing sample.at_time htimes
  have hlength : (coordinates sample.at_time samples).length = samples.length := List.length_map _
  have hgood := coordinates_on_line a b sample.at_time samples
  have hmost := majority_of_pairs List.countP_le_length hmajority
  -- slopes, residual intercepts and residuals each have a majority of equal values
  have hpairs := slopes_count (b := b) (c := line a b sample.at_time) hpoints
  have hranks := slopes_length hpoints
  rw [hgood] at hpairs
  rw [hlength] at hranks
  have hslope : median (slopes (coordinates sample.at_time samples)) = b :=
    median_of_majority (by omega)
  have hintercept : intercept (coordinates sample.at_time samples) = line a b sample.at_time := by
    apply median_on_line (hgood ▸ hlength ▸ hmost)
    intro x
    simp only [hslope]
    exact add_sub_cancel_right (line a b sample.at_time) (b * x)
  have hsome : slopes (coordinates sample.at_time samples) ≠ [] := by
    intro hempty
    rw [hempty] at hpairs
    simp only [List.count_nil] at hpairs
    omega
  refine ⟨_, theil_sen_eq_some_iff.mpr ⟨sample, hlast, hthree, hsome, rfl⟩, hslope, hintercept, ?_⟩
  have hcopies := List.count_le_length (a := b) (l := slopes (coordinates sample.at_time samples))
  have hsorted : (slopes (coordinates sample.at_time samples)).Pairwise (· ≤ ·) :=
    List.pairwise_insertionSort _ _
  refine ⟨?_, ?_, ?_⟩
  · apply median_on_line (hgood ▸ hlength ▸ hmost)
    intro x
    simp only [hslope, hintercept]
    rw [add_comm (b * x), sub_self, abs_zero]
  · simp only [fit_of, low_rank]
    rw [List.getD_eq_getElem _ _ (by omega)]
    exact Rank.getElem_le_of_lt_count hsorted _ (by omega)
  · simp only [fit_of, high_rank]
    rw [List.getD_eq_getElem _ _ (by omega)]
    exact Rank.le_getElem_of_length_le hsorted _ (by omega)

/-- Whatever the values of `k` samples are, the fit finds the line that the
    others lie on, if their pairs are a strict majority of all pairs. -/
theorem theil_sen_survives_contamination (z a b : K) (samples : List (Point UtcDatetime K)) (k : Nat)
    (hthree : MIN_FIT_POINTS ≤ samples.length)
    (htimes : samples.Pairwise fun p q => p.at_time < q.at_time)
    (hoff : samples.countP (fun s => decide (s.value ≠ line a b s.at_time)) = k)
    (hmajority : samples.length * (samples.length - 1) / 2 <
      (samples.length - k) * (samples.length - k - 1)) :
    ∃ newest fit, samples.getLast? = some newest ∧ theil_sen z samples = some fit ∧
      fit.slope_per_hour = b ∧ fit.value_at_anchor = line a b newest.at_time ∧
      fit.residual_mad = 0 ∧ fit.slope_low_per_hour ≤ b ∧ b ≤ fit.slope_high_per_hour := by
  cases hlast : samples.getLast? with
  | none =>
    rw [List.getLast?_eq_none_iff.mp hlast] at hthree
    cases hthree
  | some newest =>
    have hgood : samples.countP (fun s => decide (s.value = line a b s.at_time)) =
        samples.length - k := by
      have hall := samples.length_eq_countP_add_countP fun s => decide (s.value = line a b s.at_time)
      have hrest : samples.countP (fun s => decide ¬decide (s.value = line a b s.at_time) = true) =
          k := by
        rw [← hoff]
        apply List.countP_congr
        intro s _
        simp
      omega
    obtain ⟨fit, hfit⟩ := theil_sen_of_majority (z := z) hthree htimes hlast a b (by
      rw [hgood, Nat.choose_two_right, Nat.choose_two_right]
      have heven := Nat.even_mul_pred_self (samples.length - k)
      obtain ⟨half, hhalf⟩ := heven
      omega)
    exact ⟨newest, fit, rfl, hfit⟩

/-- Of five samples on a line falling 2 % an hour, the newest reads 90 %. -/
def glitch : List (Point UtcDatetime ℚ) :=
  [⟨at_minute 0, 50⟩, ⟨at_minute 60, 48⟩, ⟨at_minute 90, 47⟩, ⟨at_minute 120, 46⟩,
    ⟨at_minute 150, 90⟩]

/-- The line is found although the newest sample is off it. -/
theorem theil_sen_survives_contamination_glitch :
    ∃ newest fit, glitch.getLast? = some newest ∧ theil_sen 2 glitch = some fit ∧
      fit.slope_per_hour = -2 ∧ fit.value_at_anchor = line 35504450 (-2) newest.at_time ∧
      fit.residual_mad = 0 ∧ fit.slope_low_per_hour ≤ -2 ∧ -2 ≤ fit.slope_high_per_hour :=
  theil_sen_survives_contamination 2 35504450 (-2) glitch 1 (by decide) (by decide +kernel)
    (by decide +kernel) (by decide)

end planter_telemetry.analytics.model
