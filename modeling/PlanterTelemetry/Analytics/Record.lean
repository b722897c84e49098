import PlanterTelemetry.Analytics.Crossing

open planter_telemetry.python

namespace planter_telemetry.analytics.model

variable {K : Type} [Field K] [LinearOrder K] [IsStrictOrderedRing K] [FloorRing K] {z : K}
  {series used : List (Point UtcDatetime K)} {samples : List (Sample UtcDatetime K)}
  {metric : Metric K} {now : UtcDatetime} {window_start : Option UtcDatetime}
  {newest : Point UtcDatetime K} {fit own : Fit UtcDatetime K} {fc : Forecast UtcDatetime K}

/-! ### The confidence ranks -/

theorem ceil_sqrt_positive {n : Nat} (hn : 0 < n) : 0 < ceil_sqrt n := by
  have hsqrt := Nat.sqrt_pos.mpr hn
  unfold ceil_sqrt
  split
  · exact hsqrt
  · omega

/-- The ranks are at least one apart from the middle. -/
theorem rank_spread_positive (hz : 0 < z) {n : Nat} (hn : MIN_FIT_POINTS ≤ n) :
    0 < rank_spread z n := by
  unfold MIN_FIT_POINTS at hn
  apply ceil_sqrt_positive
  have hcount : 0 < n * (n - 1) * (2 * n + 5) :=
    Nat.mul_pos (Nat.mul_pos (by omega) (by omega)) (by omega)
  have hpositive : 0 < z * z * ((n * (n - 1) * (2 * n + 5) : Nat) : K) / 18 :=
    div_pos (mul_pos (mul_pos hz hz) (Nat.cast_pos.mpr hcount)) (by norm_num)
  have hceil := Int.ceil_pos.mpr hpositive
  omega

/-- The two ranks lie around the middle of any number of slopes. -/
theorem ranks_around {spread m : Nat} (hspread : 0 < spread) (hm : 0 < m) :
    low_rank spread m ≤ (m - 1) / 2 ∧ m / 2 ≤ high_rank spread m ∧ high_rank spread m < m := by
  unfold low_rank high_rank
  omega

/-- The band's slopes lie on both sides of the median slope. -/
theorem theil_sen_band (hz : 0 < z) (h : theil_sen z used = some fit) :
    fit.slope_low_per_hour ≤ fit.slope_per_hour ∧ fit.slope_per_hour ≤ fit.slope_high_per_hour := by
  obtain ⟨newest, -, hlength, hsome, rfl⟩ := theil_sen_eq_some_iff.mp h
  obtain ⟨hlow, hmiddle, hhigh⟩ :=
    ranks_around (rank_spread_positive hz hlength) (List.length_pos_of_ne_nil hsome)
  exact median_between (List.pairwise_insertionSort _ _) hlow hmiddle hhigh

omit [IsStrictOrderedRing K] in
theorem theil_sen_source (h : theil_sen z used = some fit) :
    (∃ newest, used.getLast? = some newest ∧ fit.anchor_at = newest.at_time) ∧
      fit.points = used.length := by
  obtain ⟨newest, hnewest, -, -, rfl⟩ := theil_sen_eq_some_iff.mp h
  exact ⟨⟨newest, hnewest, rfl⟩, rfl⟩

/-! ### The record -/

/-- What a forecast promises its readers, whatever it was made from. -/
structure RecordInvariant (z : K) (samples : List (Sample UtcDatetime K)) (metric : Metric K)
    (fc : Forecast UtcDatetime K) : Prop where
  crossing_iff : fc.crosses_at.isSome = true ↔
    fc.status = .ok ∨ fc.status = .beyond_horizon ∨ fc.status = .at_or_below_target
  fit_iff : fc.fit.isSome = true ↔
    fc.status = .ok ∨ fc.status = .beyond_horizon ∨ fc.status = .not_depleting
  band : ∀ crosses_at, fc.crosses_at = some crosses_at →
    ∃ newest earliest, samples.getLast? = some newest ∧ fc.as_of = some newest.at_time ∧
      fc.crosses_at_earliest = some earliest ∧ newest.at_time ≤ earliest ∧ earliest ≤ crosses_at ∧
      ∀ latest, fc.crosses_at_latest = some latest → crosses_at ≤ latest
  open_band : ∀ fit, fc.crosses_at.isSome = true → fc.fit = some fit →
    (fc.crosses_at_latest = none ↔ 0 ≤ fit.slope_high_per_hour)
  at_target : fc.status = .at_or_below_target →
    fc.crosses_at = fc.as_of ∧ fc.crosses_at_earliest = fc.as_of ∧ fc.crosses_at_latest = fc.as_of
  within : fc.status = .ok → ∀ crosses_at as_of, fc.crosses_at = some crosses_at →
    fc.as_of = some as_of → total_seconds (DataTime.since crosses_at as_of) ≤ metric.max_horizon_seconds
  beyond : fc.status = .beyond_horizon → ∀ crosses_at as_of, fc.crosses_at = some crosses_at →
    fc.as_of = some as_of → metric.max_horizon_seconds < total_seconds (DataTime.since crosses_at as_of)
  fitted : ∀ fit, fc.fit = some fit → ∃ used own, used <:+ newest_segment metric (points samples) ∧
    used.length ≤ metric.max_fit_points ∧ fit.points = used.length ∧
    theil_sen z used = some own ∧ fit = { own with
      segment_points := fit.segment_points
      truncated := fit.truncated }

omit [Field K] [LinearOrder K] [IsStrictOrderedRing K] [FloorRing K] in
theorem newest_sample (hvalid : is_valid_series samples = true)
    (hnewest : (points samples).getLast? = some newest) :
    ∃ sample, samples.getLast? = some sample ∧ sample.at_time = newest.at_time := by
  have htimes := points_times (finite_of_is_valid_series hvalid)
  have hlast : samples.getLast?.map Sample.at_time = some newest.at_time := by
    rw [← List.getLast?_map, ← htimes, List.getLast?_map, hnewest, Option.map_some]
  exact Option.map_eq_some_iff.mp hlast

omit [IsStrictOrderedRing K] in
theorem Unfitted.record (h : Unfitted samples metric fc) : RecordInvariant z samples metric fc := by
  have hfit : ∀ fit, fc.fit ≠ some fit := by
    intro fit hsome
    rw [h.fit] at hsome
    cases hsome
  by_cases hbelow : fc.status = .at_or_below_target
  · obtain ⟨newest, hnewest, -, has, hcrosses, hearliest, hlatest⟩ := h.crossing hbelow
    obtain ⟨sample, hsample, htime⟩ := newest_sample (h.valid hbelow) hnewest
    refine ⟨?_, ?_, ?_, ?_, ?_, ?_, ?_, ?_⟩
    · simp [hcrosses, hbelow]
    · simp [h.fit, hbelow]
    · intro crosses_at hsome
      obtain rfl := Option.some.inj (hcrosses.symm.trans hsome)
      refine ⟨sample, newest.at_time, hsample, by rw [has, htime], hearliest, htime.le,
        le_refl _, fun latest hsome => ?_⟩
      exact (Option.some.inj (hlatest.symm.trans hsome)).le
    · exact fun fit _ hsome => absurd hsome (hfit fit)
    · rw [has]
      exact fun _ => ⟨hcrosses, hearliest, hlatest⟩
    · intro hok
      rw [hbelow] at hok
      cases hok
    · intro hbeyond
      rw [hbelow] at hbeyond
      cases hbeyond
    · exact fun fit hsome => absurd hsome (hfit fit)
  · obtain ⟨hcrosses, -, -⟩ := h.no_crossing hbelow
    have hstatus := h.status
    have hok : fc.status ≠ .ok := fun hok => by simp [hok, Status.unfitted] at hstatus
    have hbeyond : fc.status ≠ .beyond_horizon := fun hbeyond => by
      simp [hbeyond, Status.unfitted] at hstatus
    have hnot : fc.status ≠ .not_depleting := fun hnot => by simp [hnot, Status.unfitted] at hstatus
    refine ⟨?_, ?_, ?_, ?_, ?_, ?_, ?_, ?_⟩
    · simp [hcrosses, hok, hbeyond, hbelow]
    · simp [h.fit, hok, hbeyond, hnot]
    · intro crosses_at hsome
      rw [hcrosses] at hsome
      cases hsome
    · exact fun fit _ hsome => absurd hsome (hfit fit)
    · exact fun h => absurd h hbelow
    · exact fun h => absurd h hok
    · exact fun h => absurd h hbeyond
    · exact fun fit hsome => absurd hsome (hfit fit)

omit [IsStrictOrderedRing K] in
/-- The fit's anchor is the newest sample. -/
theorem Fitted.anchor (h : Fitted z samples metric now window_start newest fit) :
    fit.anchor_at = newest.at_time := by
  obtain ⟨own, hown, rfl⟩ := h.fit_eq
  obtain ⟨⟨last, hlast, hanchor⟩, -⟩ := theil_sen_source hown
  have hsome := fit_samples_getLast? metric (points_ne_nil h.newest_eq)
  rw [hlast, h.newest_eq, Option.some.injEq] at hsome
  exact hsome ▸ hanchor

omit [IsStrictOrderedRing K] in
theorem Fitted.source (hmax : metric.max_fit_points ≠ 0)
    (h : Fitted z samples metric now window_start newest fit) :
    ∃ used own, used <:+ newest_segment metric (points samples) ∧
      used.length ≤ metric.max_fit_points ∧ fit.points = used.length ∧
      theil_sen z used = some own ∧ fit = { own with
        segment_points := fit.segment_points
        truncated := fit.truncated } := by
  obtain ⟨own, hown, rfl⟩ := h.fit_eq
  refine ⟨fit_samples metric (points samples), own, last_points_suffix _ _, ?_,
    (theil_sen_source hown).2, hown, rfl⟩
  rw [fit_samples, last_points_length hmax]
  exact Nat.min_le_left _ _

theorem Fitted.band (hz : 0 < z) (h : Fitted z samples metric now window_start newest fit) :
    fit.slope_low_per_hour ≤ fit.slope_per_hour ∧ fit.slope_per_hour ≤ fit.slope_high_per_hour := by
  obtain ⟨own, hown, rfl⟩ := h.fit_eq
  obtain ⟨hlow, hhigh⟩ := theil_sen_band hz hown
  exact ⟨hlow, hhigh⟩

theorem Fitted.record (hz : 0 < z) (hmax : metric.max_fit_points ≠ 0)
    (h : Fitted z samples metric now window_start newest fit)
    (hfc : forecast_of_fit metric newest fit = .ok fc) : RecordInvariant z samples metric fc := by
  rcases forecast_of_fit_eq_ok_iff.mp hfc with ⟨-, rfl⟩ |
    ⟨crosses_at, earliest, latest, hcrosses, hearliest, hlatest, rfl⟩
  · refine ⟨?_, ?_, ?_, ?_, ?_, ?_, ?_, ?_⟩
    · simp [no_crossing]
    · simp [no_crossing]
    · exact fun _ hsome => by cases hsome
    · exact fun _ hsome => by cases hsome
    · exact fun hbelow => by cases hbelow
    · exact fun hok => by cases hok
    · exact fun hbeyond => by cases hbeyond
    · intro other hother
      cases hother
      exact h.source hmax
  · obtain ⟨hslope, hmicros⟩ := crossing_eq_some_iff.mp hcrosses
    obtain ⟨hlow, hhigh⟩ := h.band hz
    obtain ⟨sample, hsample, htime⟩ := newest_sample h.valid h.newest_eq
    have hanchor := h.anchor
    have hlow_negative : fit.slope_low_per_hour < 0 := hlow.trans_lt hslope
    have hstatus : (crossing_forecast metric newest fit crosses_at earliest latest).status =
        if metric.max_horizon_seconds < total_seconds (DataTime.since crosses_at fit.anchor_at)
        then .beyond_horizon else .ok := rfl
    refine ⟨?_, ?_, ?_, ?_, ?_, ?_, ?_, ?_⟩
    · rw [hstatus]
      split <;> simp [crossing_forecast]
    · rw [hstatus]
      split <;> simp [crossing_forecast]
    · intro other hother
      cases hother
      cases earliest with
      | none => exact absurd (crossing_eq_none_iff.mp hearliest) (not_le.mpr hlow_negative)
      | some earliest =>
        obtain ⟨-, hfirst⟩ := crossing_eq_some_iff.mp hearliest
        have hnonneg := delay_nonneg fit.value_at_anchor metric.target fit.slope_low_per_hour
        have hband := delay_mono fit.value_at_anchor metric.target hlow hslope
        refine ⟨sample, earliest, hsample, by rw [htime]; rfl, rfl, ?_, ?_, fun last hlast => ?_⟩
        · rw [htime, ← hanchor, UtcDatetime.le_iff]
          omega
        · rw [UtcDatetime.le_iff]
          omega
        · cases hlast
          obtain ⟨hnegative, hsecond⟩ := crossing_eq_some_iff.mp hlatest
          have hband := delay_mono fit.value_at_anchor metric.target hhigh hnegative
          rw [UtcDatetime.le_iff]
          omega
    · intro other _ hother
      cases hother
      constructor
      · rintro rfl
        exact crossing_eq_none_iff.mp hlatest
      · intro hflat
        have hnone := hlatest.symm.trans (crossing_eq_none_iff.mpr hflat)
        exact Except.ok.inj hnone
    · intro hbelow
      rw [hstatus] at hbelow
      split at hbelow
      · cases hbelow
      · cases hbelow
    · intro hok other as_of hother has
      cases hother
      cases has
      rw [hstatus] at hok
      split at hok
      · cases hok
      · next hwithin => exact hanchor ▸ not_lt.mp hwithin
    · intro hbeyond other as_of hother has
      cases hother
      cases has
      rw [hstatus] at hbeyond
      split at hbeyond
      · next hlong => exact hanchor ▸ hlong
      · cases hbeyond
    · intro other hother
      cases hother
      exact h.source hmax

/-- Every forecast that is returned keeps the record's invariant. -/
theorem forecast_record (z : K) (hz : 0 < z) (metric : Metric K)
    (hmin : MIN_FIT_POINTS ≤ metric.min_points) (hmax : metric.min_points ≤ metric.max_fit_points)
    (samples : List (Sample UtcDatetime K)) (now : UtcDatetime) (window_start : Option UtcDatetime)
    (fc : Forecast UtcDatetime K) (h : forecast z samples metric now window_start = .ok fc) :
    RecordInvariant z samples metric fc := by
  by_cases hfitted : ∃ newest fit, Fitted z samples metric now window_start newest fit
  · obtain ⟨newest, fit, hfit⟩ := hfitted
    rw [forecast_of_fitted hfit] at h
    refine hfit.record hz ?_ h
    unfold MIN_FIT_POINTS at hmin
    omega
  · push Not at hfitted
    obtain ⟨other, hother, hunfitted⟩ := forecast_unfitted hfitted
    rw [h, Except.ok.injEq] at hother
    exact hother ▸ hunfitted.record

/-- Water that is fitted from three samples on. -/
def QUICK_WATER : Metric ℚ := { WATER with min_points := 3, min_span_seconds := 3600 }

/-- One percent an hour. -/
def ramp : List (Sample UtcDatetime ℚ) :=
  [⟨at_minute 0, .finite 50⟩, ⟨at_minute 60, .finite 49⟩, ⟨at_minute 120, .finite 48⟩]

def ramp_fit : Fit UtcDatetime ℚ where
  slope_per_hour := -1
  slope_low_per_hour := -1
  slope_high_per_hour := -1
  value_at_anchor := 48
  anchor_at := at_minute 120
  residual_mad := 0
  points := 3
  segment_points := 3
  span_seconds := 7200
  truncated := true

def ramp_forecast : Forecast UtcDatetime ℚ :=
  crossing_forecast QUICK_WATER ⟨at_minute 120, 48⟩ ramp_fit (at_minute 2400)
    (some (at_minute 2400)) (some (at_minute 2400))

theorem forecast_record_ramp : RecordInvariant 2 ramp QUICK_WATER ramp_forecast :=
  forecast_record 2 (by decide) QUICK_WATER (by decide) (by decide) ramp (at_minute 120) none _
    (by decide +kernel)

end planter_telemetry.analytics.model
