import PlanterTelemetry.Analytics.LinearDepletion
import PlanterTelemetry.Analytics.Truncation

open planter_telemetry.python

namespace planter_telemetry.analytics.model

variable {K : Type} [Field K] [LinearOrder K] [IsStrictOrderedRing K] [FloorRing K] {z a b : K}
  {metric : Metric K} {samples : List (Sample UtcDatetime K)} {series : List (Point UtcDatetime K)}
  {interval : Int} {edge : Option UtcDatetime} {oldest newest : Point UtcDatetime K}

/-! ### Series of one interval -/

/-- Every sample is one interval after the one before it. -/
def Uniform (interval : Int) (series : List (Point UtcDatetime K)) : Prop :=
  series.IsChain fun p q => DataTime.since q.at_time p.at_time = interval

omit [Field K] [LinearOrder K] [IsStrictOrderedRing K] [FloorRing K] in
theorem Uniform.suffix {own : List (Point UtcDatetime K)} (h : Uniform interval series) (hsuffix : own <:+ series) :
    Uniform interval own := by
  obtain ⟨front, rfl⟩ := hsuffix
  exact (List.isChain_append.mp h).2.1

omit [Field K] [LinearOrder K] [IsStrictOrderedRing K] [FloorRing K] in
/-- The whole span is one interval less than there are samples. -/
theorem Uniform.span (h : Uniform interval series) (hhead : series.head? = some oldest)
    (hlast : series.getLast? = some newest) :
    DataTime.since newest.at_time oldest.at_time = ((series.length - 1 : Nat) : Int) * interval := by
  have hsince : ∀ first second : UtcDatetime, DataTime.since first second = first.micros - second.micros :=
    fun _ _ => rfl
  have hplace : ∀ (i : Nat) (hi : i < series.length),
      series[i].at_time.micros = oldest.at_time.micros + i * interval := by
    intro i hi
    induction i with
    | zero =>
      rw [List.head?_eq_getElem?, List.getElem?_eq_getElem hi, Option.some.injEq] at hhead
      rw [hhead]
      omega
    | succ i ih =>
      have hstep := List.isChain_iff_getElem.mp h i hi
      have hbefore := ih (by omega)
      rw [hsince] at hstep
      rw [hbefore] at hstep
      push_cast
      rw [add_mul, one_mul]
      omega
  have hsome : series ≠ [] := by
    rintro rfl
    cases hlast
  have hlength := List.length_pos_of_ne_nil hsome
  rw [List.getLast?_eq_getElem?, List.getElem?_eq_getElem (by omega), Option.some.injEq] at hlast
  have hend := hplace (series.length - 1) (by omega)
  rw [hlast] at hend
  rw [hsince, hend]
  omega

omit [FloorRing K] in
/-- The cadence of a uniform series is its interval. -/
theorem Uniform.cadence (h : Uniform interval series) (hpositive : 0 < interval) (htwo : 2 ≤ series.length) :
    cadence_seconds series = some (total_seconds interval) := by
  have hgap : (0 : K) < total_seconds interval := div_pos (Int.cast_pos.mpr hpositive) (by norm_num)
  have hall : ∀ gap ∈ (pairwise series).map fun pair =>
      (total_seconds (DataTime.since pair.2.at_time pair.1.at_time) : K), gap = total_seconds interval := by
    intro gap hmem
    obtain ⟨⟨p, q⟩, hpair, rfl⟩ := List.mem_map.mp hmem
    have hchain : series.IsChain fun p q => decide (DataTime.since q.at_time p.at_time = interval) = true :=
      h.imp fun p q hstep => decide_eq_true hstep
    have hevery := List.all_eq_true.mp ((pairwise_all_iff_isChain _ _).mpr hchain) (p, q) hpair
    exact congrArg total_seconds (of_decide_eq_true hevery)
  have hkept : positive_gaps series = (pairwise series).map fun pair =>
      (total_seconds (DataTime.since pair.2.at_time pair.1.at_time) : K) :=
    List.filter_eq_self.mpr fun gap hmem => decide_eq_true (hall gap hmem ▸ hgap)
  have hlength : (positive_gaps series).length = series.length - 1 := by
    rw [hkept, List.length_map, pairwise, List.length_zip, List.length_tail]
    omega
  have hcount : (positive_gaps series).count (total_seconds interval) = (positive_gaps series).length := by
    rw [List.count_eq_length, hkept]
    exact fun gap hmem => (hall gap hmem).symm
  have hsome : positive_gaps series ≠ [] := by
    rw [← List.length_pos_iff]
    omega
  have hmedian : median (positive_gaps series) = total_seconds interval := median_of_majority (by omega)
  rw [cadence_seconds_eq, if_neg hsome, hmedian]

/-! ### A line sampled at one interval -/

/-- The constants leave a uniform falling series in one fresh segment. -/
structure Tuned (metric : Metric K) : Prop where
  jump : 0 < metric.refill_jump
  gap : 1 ≤ metric.gap_factor
  stale : 0 ≤ metric.stale_after_seconds
  fit : MIN_FIT_POINTS ≤ metric.min_points
  cap : metric.min_points ≤ metric.max_fit_points

/-- Samples of a falling line above the target, one interval apart. -/
structure UniformFall (metric : Metric K) (interval : Int) (a b : K) (samples : List (Sample UtcDatetime K)) :
    Prop where
  positive : 0 < interval
  even : samples.IsChain fun p q => DataTime.since q.at_time p.at_time = interval
  falling : b < 0
  values : ∀ sample ∈ samples, sample.value = .finite (line a b sample.at_time)
  above : ∀ sample ∈ samples, metric.target < line a b sample.at_time

namespace UniformFall

omit [IsStrictOrderedRing K] [FloorRing K] in
theorem points_eq (h : UniformFall metric interval a b samples) :
    points samples = samples.map fun sample => ⟨sample.at_time, line a b sample.at_time⟩ := by
  have hpoints : points (samples.map id) =
      samples.map fun sample => ⟨sample.at_time, line a b sample.at_time⟩ := points_of_finite h.values
  rwa [List.map_id] at hpoints

omit [IsStrictOrderedRing K] [FloorRing K] in
theorem uniform (h : UniformFall metric interval a b samples) : Uniform interval (points samples) := by
  rw [h.points_eq, Uniform, List.isChain_map]
  exact h.even

omit [IsStrictOrderedRing K] [FloorRing K] in
theorem valid (h : UniformFall metric interval a b samples) : is_valid_series samples = true := by
  refine is_valid_series_iff.mpr ⟨fun sample hsample => by rw [h.values sample hsample]; rfl, ?_⟩
  refine List.IsChain.pairwise (h.even.imp fun p q hstep => ?_)
  have hsince : DataTime.since q.at_time p.at_time = q.at_time.micros - p.at_time.micros := rfl
  have hpositive := h.positive
  rw [UtcDatetime.lt_iff]
  omega

omit [FloorRing K] in
/-- The line has one segment: it never steps up, and no gap is a long one. -/
theorem newest_segment_eq (h : UniformFall metric interval a b samples) (htuned : Tuned metric)
    (htwo : 2 ≤ samples.length) : newest_segment metric (points samples) = points samples := by
  have hlength : (points samples).length = samples.length := by rw [h.points_eq, List.length_map]
  have hsome : points samples ≠ [] := by
    rw [← List.length_pos_iff]
    omega
  have hwhole := newest_segment_iff metric [] hsome
  rw [List.nil_append] at hwhole
  refine hwhole.mpr ⟨?_, fun last hlast => by cases hlast⟩
  rw [gap_limit, h.uniform.cadence h.positive (by omega), Option.map_some]
  apply List.isChain_iff_getElem.mpr
  intro i hi
  have hstep := List.isChain_iff_getElem.mp h.uniform i hi
  have hseconds : (0 : K) < total_seconds interval := div_pos (Int.cast_pos.mpr h.positive) (by norm_num)
  have hfall : (points samples)[i + 1].value - (points samples)[i].value < metric.refill_jump := by
    have hvalue : ∀ p ∈ points samples, p.value = line a b p.at_time := by
      intro p hp
      rw [h.points_eq] at hp
      obtain ⟨sample, -, rfl⟩ := List.mem_map.mp hp
      rfl
    rw [hvalue _ (List.getElem_mem _), hvalue _ (List.getElem_mem _),
      line_eq a b (points samples)[i].at_time (points samples)[i + 1].at_time, hstep, add_sub_cancel_left]
    exact (mul_neg_of_neg_of_pos h.falling (div_pos hseconds (by norm_num))).trans htuned.jump
  have hshort : total_seconds interval ≤ total_seconds interval * metric.gap_factor :=
    le_mul_of_one_le_right hseconds.le htuned.gap
  rw [breaks, exceeds_gap, hstep, Bool.or_eq_false_iff]
  exact ⟨decide_eq_false (not_le.mpr hfall), decide_eq_false (not_lt.mpr hshort)⟩

end UniformFall

/-! ### Histories that are too short -/

/-- The forecast refuses the series as too short, in samples or in time. -/
def Refused (z : K) (samples : List (Sample UtcDatetime K)) (metric : Metric K) (now : UtcDatetime)
    (edge : Option UtcDatetime) : Prop :=
  ∃ fc, forecast z samples metric now edge = .ok fc ∧
    (fc.status = .insufficient_points ∨ fc.status = .insufficient_span)

omit [IsStrictOrderedRing K] in
theorem not_refused_of_fitted {now : UtcDatetime} {fit : Fit UtcDatetime K}
    (h : Fitted z samples metric now edge newest fit) : ¬ Refused z samples metric now edge := by
  rintro ⟨fc, hfc, hstatus⟩
  rw [forecast_of_fitted h] at hfc
  rcases forecast_of_fit_eq_ok_iff.mp hfc with ⟨-, rfl⟩ | ⟨_, _, _, -, -, -, rfl⟩
  · cases hstatus with
    | inl hstatus => cases hstatus
    | inr hstatus => cases hstatus
  · unfold crossing_forecast at hstatus
    cases hstatus with
    | inl hstatus => split at hstatus <;> cases hstatus
    | inr hstatus => split at hstatus <;> cases hstatus

/-- The newest samples that a fit takes of a uniform falling series decide. -/
theorem UniformFall.refused_iff (h : UniformFall metric interval a b samples) (htuned : Tuned metric)
    {last : Sample UtcDatetime K} (hlast : samples.getLast? = some last)
    (hlong : metric.min_points ≤ samples.length) (z : K) (edge : Option UtcDatetime) :
    Refused z samples metric last.at_time edge ↔
      total_seconds (((min metric.max_fit_points samples.length - 1 : Nat) : Int) * interval) <
        metric.min_span_seconds := by
  have hfit := htuned.fit
  have hcap := htuned.cap
  unfold MIN_FIT_POINTS at hfit
  have hlength : (points samples).length = samples.length := by rw [h.points_eq, List.length_map]
  have hsegment := h.newest_segment_eq htuned (by omega)
  have hnewest : (points samples).getLast? = some ⟨last.at_time, line a b last.at_time⟩ := by
    rw [h.points_eq, List.getLast?_map, hlast, Option.map_some]
  obtain ⟨first, hfirst⟩ := fit_samples_head? metric hnewest
  have hspan : DataTime.since last.at_time first.at_time =
      ((min metric.max_fit_points samples.length - 1 : Nat) : Int) * interval := by
    have hsuffix := fit_samples_suffix metric (points_ne_nil hnewest)
    have hend := (fit_samples_getLast? metric (points_ne_nil hnewest)).trans hnewest
    have hcount : (fit_samples metric (points samples)).length = min metric.max_fit_points samples.length := by
      rw [fit_samples, last_points_length (by omega), hsegment, hlength]
    have htotal := (h.uniform.suffix hsuffix).span hfirst hend
    rwa [hcount] at htotal
  have hfresh : total_seconds (DataTime.since last.at_time last.at_time) ≤
      stale_limit metric (cadence_seconds (points samples)) := by
    have hzero : (total_seconds (DataTime.since last.at_time last.at_time) : K) = 0 := by
      change ((last.at_time.micros - last.at_time.micros : Int) : K) / 1000000 = 0
      rw [sub_self, Int.cast_zero, zero_div]
    rw [hzero, h.uniform.cadence h.positive (by omega)]
    exact htuned.stale.trans (le_max_left _ _)
  have habove := h.above last (List.mem_of_getLast? hlast)
  have henough : metric.min_points ≤ (newest_segment metric (points samples)).length := by
    rw [hsegment, hlength]
    exact hlong
  rw [← hspan]
  constructor
  · intro hrefused
    by_contra hwide
    have hgates : PassesGates samples metric last.at_time ⟨last.at_time, line a b last.at_time⟩ := by
      refine ⟨h.valid, hnewest, hfresh, habove, henough, fun other hother => ?_⟩
      rw [hfirst, Option.some.injEq] at hother
      exact hother ▸ not_lt.mp hwide
    have hline : OnFallingLine a b samples metric last.at_time ⟨last.at_time, line a b last.at_time⟩ := by
      refine ⟨hgates, h.falling, fun p hp => ?_, ?_⟩
      · rw [hsegment, h.points_eq] at hp
        obtain ⟨sample, -, rfl⟩ := List.mem_map.mp hp
        rfl
      · rw [fit_samples, last_points_length (by omega), hsegment, hlength]
        unfold MIN_FIT_POINTS
        omega
    obtain ⟨fit, hfitted, -⟩ := hline.fit z edge
    exact not_refused_of_fitted hfitted hrefused
  · intro hnarrow
    refine ⟨no_crossing metric .insufficient_span (some last.at_time) (some (line a b last.at_time)) none,
      ?_, .inr rfl⟩
    rw [forecast_eq h.valid hnewest, if_neg (not_lt.mpr hfresh), if_neg (not_le.mpr habove),
      forecast_of_segments_eq hnewest hfirst, if_neg (not_lt.mpr henough), if_pos hnarrow]

theorem metrics_tuned : ∀ metric ∈ METRICS, Tuned metric := by
  have hall : ∀ metric ∈ METRICS, 0 < metric.refill_jump ∧ 1 ≤ metric.gap_factor ∧
      0 ≤ metric.stale_after_seconds ∧ MIN_FIT_POINTS ≤ metric.min_points ∧
      metric.min_points ≤ metric.max_fit_points := by
    decide +kernel
  intro metric hmetric
  obtain ⟨hjump, hgap, hstale, hfit, hcap⟩ := hall metric hmetric
  exact ⟨hjump, hgap, hstale, hfit, hcap⟩

/-- A uniform falling history with enough samples over a long enough time is not
    refused, exactly if the fit takes all its samples or those that it takes
    span enough. -/
theorem uniform_fall_unrefused_iff (z a b : ℚ) (metric : Metric ℚ) (hmetric : metric ∈ METRICS) (interval : Int)
    (samples : List (Sample UtcDatetime ℚ)) (h : UniformFall metric interval a b samples)
    (oldest newest : Sample UtcDatetime ℚ) (hhead : samples.head? = some oldest)
    (hlast : samples.getLast? = some newest) (hlong : metric.min_points ≤ samples.length)
    (hspan : metric.min_span_seconds ≤ total_seconds (DataTime.since newest.at_time oldest.at_time))
    (edge : Option UtcDatetime) :
    ¬ Refused z samples metric newest.at_time edge ↔
      samples.length ≤ metric.max_fit_points ∨
        metric.min_span_seconds ≤ total_seconds (((metric.max_fit_points - 1 : Nat) : Int) * interval) := by
  have hends : DataTime.since newest.at_time oldest.at_time = ((samples.length - 1 : Nat) : Int) * interval := by
    have hfirst : (points samples).head? = some ⟨oldest.at_time, line a b oldest.at_time⟩ := by
      rw [h.points_eq, List.head?_map, hhead, Option.map_some]
    have hend : (points samples).getLast? = some ⟨newest.at_time, line a b newest.at_time⟩ := by
      rw [h.points_eq, List.getLast?_map, hlast, Option.map_some]
    have htotal := h.uniform.span hfirst hend
    rwa [h.points_eq, List.length_map] at htotal
  rw [h.refused_iff (metrics_tuned metric hmetric) hlast hlong z edge, not_lt]
  cases Nat.le_total samples.length metric.max_fit_points with
  | inl hshort =>
    rw [Nat.min_eq_right hshort, ← hends]
    exact iff_of_true hspan (.inl hshort)
  | inr hcapped =>
    rw [Nat.min_eq_left hcapped]
    refine ⟨.inr, fun hcondition => ?_⟩
    cases hcondition with
    | inl hshort =>
      rw [hends, Nat.le_antisymm hshort hcapped] at hspan
      exact hspan
    | inr hwide => exact hwide

/-- A battery that is sampled every two minutes for half a day, falling by 0.03 V
    an hour. -/
def eager_battery : List (Sample UtcDatetime ℚ) :=
  (List.range 361).map fun k => ⟨at_minute (Fin.ofNat _ (2 * k)), .finite (4 - k / 1000)⟩

theorem eager_battery_uniform : UniformFall BATTERY (2 * 60 * second) (4 + 739675 * 24 * 3 / 100) (-3 / 100)
    eager_battery := by
  have hall : eager_battery.IsChain (fun p q => DataTime.since q.at_time p.at_time = 2 * 60 * second) ∧
      ∀ sample ∈ eager_battery, sample.value = .finite (line (4 + 739675 * 24 * 3 / 100) (-3 / 100) sample.at_time) ∧
        BATTERY.target < line (4 + 739675 * 24 * 3 / 100) (-3 / 100) sample.at_time := by
    decide +kernel
  exact ⟨by decide, hall.1, by norm_num, fun sample hsample => (hall.2 sample hsample).1,
    fun sample hsample => (hall.2 sample hsample).2⟩

theorem uniform_fall_unrefused_iff_eager_battery :
    ¬ Refused 2 eager_battery BATTERY (at_minute 720) none ↔
      eager_battery.length ≤ BATTERY.max_fit_points ∨ BATTERY.min_span_seconds ≤
        total_seconds (((BATTERY.max_fit_points - 1 : Nat) : Int) * (2 * 60 * second)) :=
  uniform_fall_unrefused_iff 2 (4 + 739675 * 24 * 3 / 100) (-3 / 100) BATTERY (by decide +kernel)
    (2 * 60 * second) eager_battery eager_battery_uniform ⟨at_minute 0, .finite 4⟩
    ⟨at_minute 720, .finite (364 / 100)⟩ (by decide +kernel) (by decide +kernel) (by decide +kernel)
    (by decide +kernel) none

/-- Its newest 300 samples span less than the half day that the battery's fit
    asks for. -/
theorem capped_history_refused :
    ¬ ∀ (metric : Metric ℚ) (interval : Int) (a b : ℚ) (samples : List (Sample UtcDatetime ℚ))
      (oldest newest : Sample UtcDatetime ℚ), metric ∈ METRICS → UniformFall metric interval a b samples →
      samples.head? = some oldest → samples.getLast? = some newest → metric.min_points ≤ samples.length →
      metric.min_span_seconds ≤ total_seconds (DataTime.since newest.at_time oldest.at_time) →
      ¬ Refused 2 samples metric newest.at_time none := by
  intro h
  refine h BATTERY (2 * 60 * second) (4 + 739675 * 24 * 3 / 100) (-3 / 100) eager_battery
    ⟨at_minute 0, .finite 4⟩ ⟨at_minute 720, .finite (364 / 100)⟩ (by decide +kernel) eager_battery_uniform
    (by decide +kernel) (by decide +kernel) (by decide +kernel) (by decide +kernel) ?_
  have htuned := metrics_tuned BATTERY (by decide +kernel)
  exact (eager_battery_uniform.refused_iff htuned (by decide +kernel) (by decide +kernel) 2 none).mpr
    (by decide +kernel)

end planter_telemetry.analytics.model
