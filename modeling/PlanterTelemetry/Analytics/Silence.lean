import PlanterTelemetry.Analytics.Crossing
import PlanterTelemetry.Analytics.Pass

open planter_telemetry.python planter_telemetry.analytics.model planter_telemetry.analytics.config
open planter_telemetry.analytics.service

namespace planter_telemetry.analytics.model

/-! ### When a forecast is stale -/

section Stale

variable {K : Type} [Field K] [LinearOrder K] [FloorRing K] {z : K} {metric : Metric K}
  {samples : List (Sample UtcDatetime K)} {now : UtcDatetime} {edge : Option UtcDatetime}
  {fc : Forecast UtcDatetime K} {newest first : Point UtcDatetime K}

/-- Behind the staleness check no forecast is stale or without data. -/
theorem status_of_segments (hnewest : (points samples).getLast? = some newest)
    (hfirst : (fit_samples metric (points samples)).head? = some first)
    (h : forecast_of_segments z metric edge (cadence_seconds (points samples)) newest
      (split_segments (points samples) metric.refill_jump metric.gap_factor) = .ok fc) :
    fc.status ≠ .stale ∧ fc.status ≠ .no_data := by
  rw [forecast_of_segments_eq hnewest hfirst] at h
  split at h
  · cases h
    exact ⟨nofun, nofun⟩
  · split at h
    · cases h
      exact ⟨nofun, nofun⟩
    · split at h
      · cases h
        exact ⟨nofun, nofun⟩
      · rcases forecast_of_fit_eq_ok_iff.mp h with ⟨-, rfl⟩ | ⟨_, _, _, -, -, -, rfl⟩
        · exact ⟨nofun, nofun⟩
        · unfold crossing_forecast
          constructor
          · split <;> exact nofun
          · split <;> exact nofun

/-- A valid series has no current forecast just when it has no newest sample, or
    one that is past the staleness limit. -/
theorem stale_or_no_data_iff (hvalid : is_valid_series samples = true) :
    (∃ fc, forecast z samples metric now edge = .ok fc ∧ (fc.status = .stale ∨ fc.status = .no_data)) ↔
      ∀ newest ∈ (points samples).getLast?, stale_limit metric (cadence_seconds (points samples)) <
        total_seconds (DataTime.since now newest.at_time) := by
  cases hnewest : (points samples).getLast? with
  | none =>
    refine iff_of_true ⟨_, forecast_no_data hvalid hnewest, .inr rfl⟩ fun newest hmem => ?_
    cases hmem
  | some newest =>
    simp only [Option.mem_some_iff, forall_eq']
    obtain ⟨first, hfirst⟩ := fit_samples_head? metric hnewest
    rw [forecast_eq hvalid hnewest]
    split
    · next hstale => exact iff_of_true ⟨_, rfl, .inl rfl⟩ hstale
    · next hfresh =>
      refine iff_of_false ?_ hfresh
      rintro ⟨fc, hfc, hstatus⟩
      split at hfc
      · cases hfc
        cases hstatus with
        | inl hstatus => cases hstatus
        | inr hstatus => cases hstatus
      · obtain ⟨hstale, hno_data⟩ := status_of_segments hnewest hfirst hfc
        exact hstatus.elim hstale hno_data

end Stale

end planter_telemetry.analytics.model

namespace planter_telemetry.analytics.service

variable {z : ℚ} {metric : Metric ℚ} {readings : List (Sample UtcDatetime ℚ)}
  {first second start later : UtcDatetime} {edge edge' : Option UtcDatetime}
  {newest : Point UtcDatetime ℚ} {fc : Forecast UtcDatetime ℚ}

/-! ### The window over unchanged readings -/

/-- The readings that are newer than the start of a window. -/
def recent (readings : List (Sample UtcDatetime ℚ)) (window_start : UtcDatetime) :
    List (Sample UtcDatetime ℚ) :=
  readings.filter fun sample => window_start < sample.at_time

theorem recent_valid (hvalid : is_valid_series readings = true) (window_start : UtcDatetime) :
    is_valid_series (recent readings window_start) = true := by
  obtain ⟨hfinite, horder⟩ := is_valid_series_iff.mp hvalid
  exact is_valid_series_iff.mpr
    ⟨fun sample hsample => hfinite sample (List.mem_of_mem_filter hsample), horder.filter _⟩

/-- What holds from some item of a list on is kept as its end. -/
theorem filter_suffix {α : Type} {p : α → Bool} {items : List α}
    (h : items.Pairwise fun a b => p a = true → p b = true) : items.filter p <:+ items := by
  induction items with
  | nil => exact List.suffix_refl _
  | cons item items ih =>
    obtain ⟨hitem, hitems⟩ := List.pairwise_cons.mp h
    by_cases hp : p item = true
    · have hall : (item :: items).filter p = item :: items := by
        apply List.filter_eq_self.mpr
        intro other hother
        rcases List.mem_cons.mp hother with rfl | hother
        · exact hp
        · exact hitem other hother hp
      exact ⟨[], hall⟩
    · rw [List.filter_cons_of_neg hp]
      exact (ih hitems).trans (List.suffix_cons _ _)

/-- A later window ends in the same reading, if it has any. -/
theorem recent_newest (hvalid : is_valid_series readings = true) (hle : start ≤ later)
    (hnewest : (points (recent readings later)).getLast? = some newest) :
    (points (recent readings start)).getLast? = some newest := by
  have hfilter : recent readings later = (recent readings start).filter fun sample => later < sample.at_time := by
    unfold recent
    rw [List.filter_filter]
    apply List.filter_congr
    intro sample _
    rw [← Bool.decide_and, decide_eq_decide]
    exact ⟨fun h => ⟨h, lt_of_le_of_lt hle h⟩, fun h => h.1⟩
  have hsuffix : recent readings later <:+ recent readings start := by
    rw [hfilter]
    refine filter_suffix ((is_valid_series_iff.mp (recent_valid hvalid start)).2.imp fun hlt hsample => ?_)
    exact decide_eq_true ((of_decide_eq_true hsample).trans hlt)
  have hpoints : points (recent readings later) <:+ points (recent readings start) := hsuffix.filterMap _
  exact (suffix_getLast? hpoints (points_ne_nil hnewest)).symm.trans hnewest

/-- The lookback of both metrics is a `timedelta`. -/
theorem metrics_lookback (hmetric : metric ∈ METRICS) :
    ∃ lookback : Int, 0 ≤ lookback ∧ ∀ now, window_start_of now metric = now.add (-lookback) := by
  rcases List.mem_cons.mp hmetric with rfl | hbattery
  · have hwater : timedelta_seconds WATER.lookback_seconds = .ok (10 * day) := by decide +kernel
    refine ⟨10 * day, by decide, fun now => ?_⟩
    rw [window_start_of, hwater]
    rfl
  · obtain rfl := List.mem_singleton.mp hbattery
    have hbattery : timedelta_seconds BATTERY.lookback_seconds = .ok (35 * day) := by decide +kernel
    refine ⟨35 * day, by decide, fun now => ?_⟩
    rw [window_start_of, hbattery]
    rfl

/-- The window moves forward with the watermark. -/
theorem exists_later_window (hmetric : metric ∈ METRICS) (hle : first ≤ second)
    (hstart : window_start_of first metric = .ok start) :
    ∃ later, window_start_of second metric = .ok later ∧ start ≤ later := by
  obtain ⟨lookback, hlookback, hwindow⟩ := metrics_lookback hmetric
  rw [hwindow] at hstart
  have hmicros := UtcDatetime.add_ok_iff.mp hstart
  rw [UtcDatetime.le_iff] at hle
  have hlow := start.range.1
  have hhigh := second.range.2
  refine ⟨⟨second.micros + -lookback, by omega, by omega⟩, ?_, ?_⟩
  · rw [hwindow]
    exact UtcDatetime.add_ok_iff.mpr rfl
  · rw [UtcDatetime.le_iff]
    change start.micros ≤ second.micros + -lookback
    omega

/-! ### A device that says nothing more -/

/-- Both terms of the staleness limit are met by a longer silence over a median
    gap that has not grown. -/
theorem stale_limit_le {gap gap' : Option ℚ} (hmetric : metric ∈ METRICS)
    (hgap : ∀ after ∈ gap', ∃ before ∈ gap, after ≤ before) : stale_limit metric gap' ≤ stale_limit metric gap := by
  have hfactor : 0 ≤ metric.gap_factor :=
    (show ∀ metric ∈ METRICS, 0 ≤ metric.gap_factor by decide +kernel) metric hmetric
  cases gap' with
  | none =>
    cases gap with
    | none => exact le_refl _
    | some before => exact le_max_left _ _
  | some after =>
    obtain ⟨before, hbefore, hsmaller⟩ := hgap after rfl
    rw [Option.mem_def.mp hbefore]
    exact max_le_max (le_refl _) (mul_le_mul_of_nonneg_right hsmaller hfactor)

/-- A dry planter that reported every ten minutes for an hour, and then once more
    a day later. -/
def quiet_planter : List (Sample UtcDatetime ℚ) :=
  [⟨at_minute 20000, .finite 5⟩, ⟨at_minute 20010, .finite 5⟩, ⟨at_minute 20020, .finite 5⟩,
    ⟨at_minute 20030, .finite 5⟩, ⟨at_minute 21470, .finite 5⟩]

/-- A dry planter that reported every ten minutes for an hour, then once a day. -/
def fading_planter : List (Sample UtcDatetime ℚ) :=
  [⟨at_minute 20000, .finite 5⟩, ⟨at_minute 20010, .finite 5⟩, ⟨at_minute 20020, .finite 5⟩,
    ⟨at_minute 20030, .finite 5⟩, ⟨at_minute 20040, .finite 5⟩, ⟨at_minute 20050, .finite 5⟩,
    ⟨at_minute 20060, .finite 5⟩, ⟨at_minute 21440, .finite 5⟩, ⟨at_minute 22880, .finite 5⟩,
    ⟨at_minute 24320, .finite 5⟩, ⟨at_minute 25760, .finite 5⟩, ⟨at_minute 27200, .finite 5⟩]

theorem fading_planter_stale : forecast 2 (recent fading_planter (at_minute 12920)) WATER (at_minute 27320) none =
    .ok (no_crossing WATER .stale (some (at_minute 27200)) (some 5) none) := by
  decide +kernel

end planter_telemetry.analytics.service
