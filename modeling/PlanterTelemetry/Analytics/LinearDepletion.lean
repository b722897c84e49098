import PlanterTelemetry.Analytics.Contamination
import PlanterTelemetry.Analytics.Record

open planter_telemetry.python

namespace planter_telemetry.analytics.model

variable {K : Type} [Field K] [LinearOrder K] [IsStrictOrderedRing K] [FloorRing K] {z a b : K}
  {samples : List (Sample UtcDatetime K)} {metric : Metric K} {now : UtcDatetime}
  {window_start : Option UtcDatetime} {newest : Point UtcDatetime K}

/-! ### Rounding and whole microseconds -/

section Ticks

variable {x : K}

omit [IsStrictOrderedRing K] in
theorem round_half_even_of_not_half (h : x - ⌊x⌋ ≠ 1 / 2) :
    round_half_even x = if x - ⌊x⌋ < 1 / 2 then ⌊x⌋ else ⌊x⌋ + 1 := by
  unfold round_half_even
  simp only
  split
  · rfl
  · next hge => rw [if_pos (lt_of_le_of_ne (not_lt.mp hge) (Ne.symm h))]

/-- Whole microseconds pass through rounding, except from a half. -/
theorem round_half_even_add_int (x : K) (n : Int) :
    (round_half_even (x + n) = round_half_even x + n ∨ x - ⌊x⌋ = 1 / 2) ∧
      |round_half_even (x + n) - (round_half_even x + n)| ≤ 1 := by
  have hfraction : x + n - ((⌊x⌋ + n : Int) : K) = x - ⌊x⌋ := by
    push_cast
    ring
  constructor
  · by_cases hhalf : x - ⌊x⌋ = 1 / 2
    · exact .inr hhalf
    · left
      rw [round_half_even_of_not_half, round_half_even_of_not_half hhalf,
        Int.floor_add_intCast, hfraction]
      · split
        · rfl
        · omega
      · rwa [Int.floor_add_intCast, hfraction]
  · have hsum := round_half_even_cases (x + n)
    rw [Int.floor_add_intCast] at hsum
    rcases hsum with ⟨hsum, -⟩ | ⟨hsum, -⟩
    · rcases round_half_even_cases x with ⟨hx, -⟩ | ⟨hx, -⟩
      · rw [hsum, hx, abs_le]
        omega
      · rw [hsum, hx, abs_le]
        omega
    · rcases round_half_even_cases x with ⟨hx, -⟩ | ⟨hx, -⟩
      · rw [hsum, hx, abs_le]
        omega
      · rw [hsum, hx, abs_le]
        omega

end Ticks

/-! ### The forecast of a line -/

/-- The series gets to a fit, and its newest segment lies on a falling line. -/
structure OnFallingLine (a b : K) (samples : List (Sample UtcDatetime K)) (metric : Metric K)
    (now : UtcDatetime) (newest : Point UtcDatetime K) : Prop
    extends PassesGates samples metric now newest where
  falling : b < 0
  values : ∀ p ∈ newest_segment metric (points samples), p.value = line a b p.at_time
  fit_length : MIN_FIT_POINTS ≤ (fit_samples metric (points samples)).length

/-- The microseconds that a falling value takes down to the target. -/
def remaining_micros (target slope : K) (newest : Point UtcDatetime K) : K :=
  (newest.value - target) / -slope * 3600000000

omit [IsStrictOrderedRing K] [FloorRing K] in
/-- All pairs on the line have its slope. -/
theorem slopes_on_line {c slope : K} {points : List (K × K)}
    (hpoints : ∀ point ∈ points, on_line b c point = true) (hslope : slope ∈ slopes points) :
    slope = b := by
  obtain ⟨⟨p, q⟩, hpair, rfl⟩ := List.mem_map.mp ((List.mem_insertionSort _).mp hslope)
  obtain ⟨hmem, hne⟩ := List.mem_filter.mp hpair
  have hboth : points.Pairwise fun p q => on_line b c p = true ∧ on_line b c q = true :=
    List.pairwise_of_forall_mem_list fun p hp q hq => ⟨hpoints p hp, hpoints q hq⟩
  obtain ⟨hfirst, hsecond⟩ := forall_mem_pairs.mpr hboth (p, q) hmem
  simp only
  rw [of_decide_eq_true hfirst, of_decide_eq_true hsecond,
    div_eq_iff (sub_ne_zero.mpr (of_decide_eq_true hne))]
  ring

/-- The fit of a line is the line. -/
theorem OnFallingLine.fit (h : OnFallingLine a b samples metric now newest) (z : K)
    (window_start : Option UtcDatetime) :
    ∃ fit, Fitted z samples metric now window_start newest fit ∧ fit.slope_per_hour = b ∧
      fit.slope_low_per_hour = b ∧ fit.slope_high_per_hour = b ∧
      fit.value_at_anchor = newest.value := by
  have hsome := points_ne_nil h.newest_eq
  have hlast := (fit_samples_getLast? metric hsome).trans h.newest_eq
  have hused : ∀ p ∈ fit_samples metric (points samples), p.value = line a b p.at_time :=
    fun p hp => h.values p ((last_points_suffix _ _).subset hp)
  have htimes := (points_increasing h.valid).sublist (fit_samples_suffix metric hsome).sublist
  have hall : (fit_samples metric (points samples)).countP
      (fun s => decide (s.value = line a b s.at_time)) = (fit_samples metric (points samples)).length := by
    rw [List.countP_eq_length]
    exact fun p hp => decide_eq_true (hused p hp)
  obtain ⟨own, hown, hslope, hanchor, -⟩ := theil_sen_of_majority (z := z) h.fit_length htimes hlast a b
    (by
      have hchoose := Nat.choose_pos (show 2 ≤ (fit_samples metric (points samples)).length by
        have hthree := h.fit_length
        unfold MIN_FIT_POINTS at hthree
        omega)
      rw [hall]
      omega)
  obtain ⟨last, hlast', -, hslopes, hfit⟩ := theil_sen_eq_some_iff.mp hown
  rw [hlast, Option.some.injEq] at hlast'
  subst hlast'
  have hline : ∀ point ∈ coordinates newest.at_time (fit_samples metric (points samples)),
      on_line b (line a b newest.at_time) point = true := by
    intro point hpoint
    obtain ⟨p, hp, rfl⟩ := List.mem_map.mp hpoint
    exact decide_eq_true ((hused p hp).trans (line_eq a b newest.at_time p.at_time))
  have hranked : ∀ i, i < (slopes (coordinates newest.at_time
      (fit_samples metric (points samples)))).length →
      (slopes (coordinates newest.at_time (fit_samples metric (points samples)))).getD i 0 = b := by
    intro i hi
    rw [List.getD_eq_getElem _ _ hi]
    exact slopes_on_line hline (List.getElem_mem hi)
  have hpositive := List.length_pos_of_ne_nil hslopes
  refine ⟨_, ⟨h.toPassesGates, own, hown, rfl⟩, hslope, ?_, ?_, ?_⟩
  · rw [hfit]
    apply hranked
    unfold low_rank
    omega
  · rw [hfit]
    apply hranked
    unfold high_rank
    omega
  · have hvalue := hused newest (List.mem_of_getLast? hlast)
    rw [hvalue]
    exact hanchor

/-- All three crossings are the instant at which the line reaches the target,
    rounded to microseconds, and the status compares the rounded horizon. -/
structure Exact (metric : Metric K) (b : K) (newest : Point UtcDatetime K)
    (fc : Forecast UtcDatetime K) (crosses_at : UtcDatetime) : Prop where
  as_of : fc.as_of = some newest.at_time
  crossing : fc.crosses_at = some crosses_at
  earliest : fc.crosses_at_earliest = some crosses_at
  latest : fc.crosses_at_latest = some crosses_at
  instant : crosses_at.micros =
    newest.at_time.micros + round_half_even (remaining_micros metric.target b newest)
  status : fc.status = if metric.max_horizon_seconds <
      total_seconds (DataTime.since crosses_at newest.at_time)
    then .beyond_horizon else .ok

/-- The line reaches the target within the years of a datetime. -/
def ReachesInTime (metric : Metric K) (b : K) (newest : Point UtcDatetime K) : Prop :=
  newest.at_time.micros + round_half_even (remaining_micros metric.target b newest) < datetime_end

theorem OnFallingLine.exact (h : OnFallingLine a b samples metric now newest) (z : K)
    (window_start : Option UtcDatetime) (hend : ReachesInTime metric b newest) :
    ∃ fc crosses_at, forecast z samples metric now window_start = .ok fc ∧
      Exact metric b newest fc crosses_at := by
  obtain ⟨fit, hfit, hslope, hlow, hhigh, hvalue⟩ := h.fit z window_start
  have hanchor := hfit.anchor
  unfold ReachesInTime at hend
  have hremaining : delay newest.value metric.target b =
      round_half_even (remaining_micros metric.target b newest) := by
    have hpositive : 0 ≤ (newest.value - metric.target) / -b :=
      div_nonneg (sub_nonneg.mpr h.above.le) (neg_nonneg.mpr h.falling.le)
    unfold delay remaining_micros
    rw [max_eq_right hpositive]
  have hdelay := delay_nonneg newest.value metric.target b
  have hstart := newest.at_time.range.1
  have hrange : Representable (newest.at_time.micros + delay newest.value metric.target b) :=
    ⟨by omega, by omega⟩
  have hcrossing : fit.crossing metric.target b = .ok (some ⟨_, hrange⟩) := by
    unfold Fit.crossing
    rw [hvalue, hanchor]
    exact crossing_eq_some_iff.mpr ⟨h.falling, rfl⟩
  have hfc : forecast_of_fit metric newest fit = .ok (crossing_forecast metric newest fit
      ⟨_, hrange⟩ (some ⟨_, hrange⟩) (some ⟨_, hrange⟩)) := by
    refine forecast_of_fit_eq_ok_iff.mpr (.inr ⟨_, _, _, ?_, ?_, ?_, rfl⟩)
    · rw [hslope, hcrossing]
    · rw [hlow, hcrossing]
    · rw [hhigh, hcrossing]
  refine ⟨_, ⟨_, hrange⟩, (forecast_of_fitted hfit).trans hfc, rfl, rfl, rfl, rfl,
    by rw [← hremaining], ?_⟩
  simp only [crossing_forecast, hanchor]

omit [IsStrictOrderedRing K] in
/-- Wherever a sample is on the line, the line reaches the target at one instant. -/
theorem OnFallingLine.reach (h : OnFallingLine a b samples metric now newest) :
    remaining_micros metric.target b newest + newest.at_time.micros =
      (a - metric.target) / -b * 3600000000 := by
  have hsome := points_ne_nil h.newest_eq
  have hlast := suffix_getLast? (newest_segment_split metric hsome).2 (newest_segment_split metric hsome).1
  have hvalue := h.values newest (List.mem_of_getLast? (hlast.trans h.newest_eq))
  have hb := h.falling.ne
  unfold remaining_micros
  rw [hvalue]
  unfold line total_seconds
  field_simp
  ring

/-- On a falling line the forecast is the instant at which the line reaches the
    target, and between any two series of the line the horizon ticks down with
    device time: exactly, unless that instant lies midway between microseconds,
    and up to one microsecond then. -/
theorem linear_forecast_exact (z a b : K) (metric : Metric K)
    (samples other : List (Sample UtcDatetime K)) (now now' : UtcDatetime)
    (window_start window_start' : Option UtcDatetime) (newest newest' : Point UtcDatetime K)
    (h : OnFallingLine a b samples metric now newest) (hend : ReachesInTime metric b newest)
    (h' : OnFallingLine a b other metric now' newest') (hend' : ReachesInTime metric b newest') :
    ∃ fc crosses_at fc' crosses_at',
      forecast z samples metric now window_start = .ok fc ∧ Exact metric b newest fc crosses_at ∧
      forecast z other metric now' window_start' = .ok fc' ∧ Exact metric b newest' fc' crosses_at' ∧
      (DataTime.since crosses_at newest.at_time - DataTime.since crosses_at' newest'.at_time =
          DataTime.since newest'.at_time newest.at_time ∨
        remaining_micros metric.target b newest - ⌊remaining_micros metric.target b newest⌋ = 1 / 2) ∧
      |DataTime.since crosses_at newest.at_time - DataTime.since crosses_at' newest'.at_time -
        DataTime.since newest'.at_time newest.at_time| ≤ 1 := by
  obtain ⟨fc, crosses_at, hfc, hexact⟩ := h.exact z window_start hend
  obtain ⟨fc', crosses_at', hfc', hexact'⟩ := h'.exact z window_start' hend'
  refine ⟨fc, crosses_at, fc', crosses_at', hfc, hexact, hfc', hexact', ?_⟩
  have hsince (x y : UtcDatetime) : DataTime.since x y = x.micros - y.micros := rfl
  have hlater : remaining_micros metric.target b newest' = remaining_micros metric.target b newest +
      ((newest.at_time.micros - newest'.at_time.micros : Int) : K) := by
    have hone := h.reach
    rw [← h'.reach] at hone
    push_cast
    linarith
  obtain ⟨hticks, hclose⟩ := round_half_even_add_int (remaining_micros metric.target b newest)
    (newest.at_time.micros - newest'.at_time.micros)
  rw [← hlater, abs_le] at hclose
  rw [← hlater] at hticks
  simp only [hsince, hexact.instant, hexact'.instant, abs_le]
  refine ⟨hticks.imp_left fun hsame => ?_, ?_, ?_⟩
  · omega
  · omega
  · omega

/-! ### Lines between microseconds -/

instance (samples : List (Sample UtcDatetime ℚ)) (metric : Metric ℚ) (now : UtcDatetime)
    (newest : Point UtcDatetime ℚ) : Decidable (PassesGates samples metric now newest) :=
  decidable_of_iff (is_valid_series samples = true ∧ (points samples).getLast? = some newest ∧
      total_seconds (DataTime.since now newest.at_time) ≤
        stale_limit metric (cadence_seconds (points samples)) ∧
      metric.target < newest.value ∧
      metric.min_points ≤ (newest_segment metric (points samples)).length ∧
      ∀ first ∈ (fit_samples metric (points samples)).head?,
        metric.min_span_seconds ≤ total_seconds (DataTime.since newest.at_time first.at_time))
    ⟨fun ⟨h1, h2, h3, h4, h5, h6⟩ => ⟨h1, h2, h3, h4, h5, h6⟩,
      fun h => ⟨h.valid, h.newest_eq, h.fresh, h.above, h.enough, h.long⟩⟩

instance (a b : ℚ) (samples : List (Sample UtcDatetime ℚ)) (metric : Metric ℚ) (now : UtcDatetime)
    (newest : Point UtcDatetime ℚ) : Decidable (OnFallingLine a b samples metric now newest) :=
  decidable_of_iff (PassesGates samples metric now newest ∧ b < 0 ∧
      (∀ p ∈ newest_segment metric (points samples), p.value = line a b p.at_time) ∧
      MIN_FIT_POINTS ≤ (fit_samples metric (points samples)).length)
    ⟨fun ⟨h1, h2, h3, h4⟩ => ⟨h1, h2, h3, h4⟩,
      fun h => ⟨h.toPassesGates, h.falling, h.values, h.fit_length⟩⟩

instance (metric : Metric ℚ) (b : ℚ) (newest : Point UtcDatetime ℚ) :
    Decidable (ReachesInTime metric b newest) := inferInstanceAs (Decidable (_ < _))

/-- Half an hour after the ramp, on its line. -/
def longer_ramp : List (Sample UtcDatetime ℚ) := ramp ++ [⟨at_minute 150, .finite (95 / 2)⟩]

theorem linear_forecast_exact_ramp :
    ∃ fc crosses_at fc' crosses_at', forecast 2 ramp QUICK_WATER (at_minute 120) none = .ok fc ∧
      Exact QUICK_WATER (-1) ⟨at_minute 120, 48⟩ fc crosses_at ∧
      forecast 2 longer_ramp QUICK_WATER (at_minute 150) none = .ok fc' ∧
      Exact QUICK_WATER (-1) ⟨at_minute 150, 95 / 2⟩ fc' crosses_at' ∧
      (DataTime.since crosses_at (at_minute 120) - DataTime.since crosses_at' (at_minute 150) =
          DataTime.since (at_minute 150) (at_minute 120) ∨
        remaining_micros 10 (-1) ⟨at_minute 120, (48 : ℚ)⟩ -
          ⌊remaining_micros 10 (-1) ⟨at_minute 120, (48 : ℚ)⟩⌋ = 1 / 2) ∧
      |DataTime.since crosses_at (at_minute 120) - DataTime.since crosses_at' (at_minute 150) -
        DataTime.since (at_minute 150) (at_minute 120)| ≤ 1 :=
  linear_forecast_exact 2 17752250 (-1) QUICK_WATER ramp longer_ramp (at_minute 120) (at_minute 150)
    none none ⟨at_minute 120, 48⟩ ⟨at_minute 150, 95 / 2⟩ (by decide +kernel) (by decide +kernel)
    (by decide +kernel) (by decide +kernel)

/-- A microsecond past the ramp's next hour, on its line. -/
def odd_ramp : List (Sample UtcDatetime ℚ) :=
  ramp ++ [⟨⟨739675 * day + 10800000001, by decide⟩, .finite (47 - 1 / 3600000000)⟩]

/-- Two samples are a line without a fit; a horizon of 3600.00000004 seconds
    does not count as past 3600; and a line that reaches the target midway
    between two microseconds does so at either of them, depending on the newest
    sample. -/
theorem linear_forecast_inexact :
    (¬ ∀ (z a b : ℚ) (metric : Metric ℚ) (samples : List (Sample UtcDatetime ℚ)) (now : UtcDatetime)
      (window_start : Option UtcDatetime) (newest : Point UtcDatetime ℚ),
      PassesGates samples metric now newest → b < 0 →
      (∀ p ∈ newest_segment metric (points samples), p.value = line a b p.at_time) →
      ReachesInTime metric b newest → ∃ fc, forecast z samples metric now window_start = .ok fc ∧
        (fc.status = .ok ∨ fc.status = .beyond_horizon)) ∧
    (¬ ∀ (z a b : ℚ) (metric : Metric ℚ) (samples : List (Sample UtcDatetime ℚ)) (now : UtcDatetime)
      (window_start : Option UtcDatetime) (newest : Point UtcDatetime ℚ),
      OnFallingLine a b samples metric now newest → ReachesInTime metric b newest →
      ∃ fc, forecast z samples metric now window_start = .ok fc ∧
        fc.status = if metric.max_horizon_seconds < (newest.value - metric.target) / -b * 3600
          then .beyond_horizon else .ok) ∧
    ¬ ∀ (z a b : ℚ) (metric : Metric ℚ) (samples other : List (Sample UtcDatetime ℚ))
      (now now' : UtcDatetime) (window_start window_start' : Option UtcDatetime)
      (newest newest' : Point UtcDatetime ℚ),
      OnFallingLine a b samples metric now newest → ReachesInTime metric b newest →
      OnFallingLine a b other metric now' newest' → ReachesInTime metric b newest' →
      ∃ fc crosses_at fc' crosses_at', forecast z samples metric now window_start = .ok fc ∧
        fc.crosses_at = some crosses_at ∧
        forecast z other metric now' window_start' = .ok fc' ∧ fc'.crosses_at = some crosses_at' ∧
        DataTime.since crosses_at newest.at_time - DataTime.since crosses_at' newest'.at_time =
          DataTime.since newest'.at_time newest.at_time := by
  refine ⟨fun h => ?_, fun h => ?_, fun h => ?_⟩
  · obtain ⟨fc, hfc, hstatus⟩ := h 2 17752250 (-1) { QUICK_WATER with min_points := 2 }
      (ramp.take 2) (at_minute 60) none ⟨at_minute 60, 49⟩ (by decide +kernel) (by decide)
      (by decide +kernel) (by decide +kernel)
    have hshort : (forecast 2 (ramp.take 2) { QUICK_WATER with min_points := 2 } (at_minute 60)
        none).map (fun fc => fc.status) = .ok .insufficient_points := by decide +kernel
    rw [hfc, Except.map, Except.ok.injEq] at hshort
    rw [hshort] at hstatus
    revert hstatus
    decide
  · obtain ⟨fc, hfc, hstatus⟩ := h 2 17752250 (-1)
      { QUICK_WATER with target := 47 - 1 / 10 ^ 11, max_horizon_seconds := 3600 } ramp
      (at_minute 120) none ⟨at_minute 120, 48⟩ (by decide +kernel) (by decide +kernel)
    have hwithin : (forecast 2 ramp
        { QUICK_WATER with target := 47 - 1 / 10 ^ 11, max_horizon_seconds := 3600 }
        (at_minute 120) none).map (fun fc => fc.status) = .ok .ok := by decide +kernel
    rw [hfc, Except.map, Except.ok.injEq] at hwithin
    rw [hwithin] at hstatus
    revert hstatus
    decide +kernel
  · obtain ⟨fc, crosses_at, fc', crosses_at', hfc, hcrosses, hfc', hcrosses', hticks⟩ :=
      h 2 17752250 (-1) { QUICK_WATER with target := 10 - 1 / 7200000000 } ramp odd_ramp
        (at_minute 120) ⟨739675 * day + 10800000001, by decide⟩ none none ⟨at_minute 120, 48⟩
        ⟨⟨739675 * day + 10800000001, by decide⟩, 47 - 1 / 3600000000⟩ (by decide +kernel)
        (by decide +kernel) (by decide +kernel) (by decide +kernel)
    have hfirst : (forecast 2 ramp { QUICK_WATER with target := 10 - 1 / 7200000000 } (at_minute 120)
        none).map (fun fc => fc.crosses_at) = .ok (some (at_minute 2400)) := by decide +kernel
    have hsecond : (forecast 2 odd_ramp { QUICK_WATER with target := 10 - 1 / 7200000000 }
        ⟨739675 * day + 10800000001, by decide⟩ none).map (fun fc => fc.crosses_at) =
        .ok (some ⟨739675 * day + 144000000001, by decide⟩) := by decide +kernel
    rw [hfc, Except.map, Except.ok.injEq, hcrosses, Option.some.injEq] at hfirst
    rw [hfc', Except.map, Except.ok.injEq, hcrosses', Option.some.injEq] at hsecond
    rw [hfirst, hsecond] at hticks
    revert hticks
    decide

end planter_telemetry.analytics.model
