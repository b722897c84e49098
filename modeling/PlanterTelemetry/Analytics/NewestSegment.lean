import PlanterTelemetry.Analytics.Crossing

open planter_telemetry.python

namespace planter_telemetry.analytics.model

variable {K : Type} [Field K] [LinearOrder K] [FloorRing K] {z : K} {metric : Metric K}
  {now : UtcDatetime} {window_start : Option UtcDatetime}
  {first second tail : List (Sample UtcDatetime K)} {newest : Point UtcDatetime K}

/-- A forecast up to the truncation flag of its fit. -/
def untruncated (fc : Forecast UtcDatetime K) : Forecast UtcDatetime K :=
  { fc with fit := fc.fit.map fun fit => { fit with truncated := false } }

omit [Field K] [LinearOrder K] [FloorRing K] in
@[simp] theorem untruncated_status (fc : Forecast UtcDatetime K) : (untruncated fc).status = fc.status := rfl

/-- The forecast of a fit does not depend on its truncation flag but to carry it. -/
theorem map_untruncated_of_fit {fit other : Fit UtcDatetime K} (h : fit = { other with truncated := fit.truncated }) :
    (forecast_of_fit metric newest fit).map untruncated =
      (forecast_of_fit metric newest other).map untruncated := by
  rw [h]
  unfold forecast_of_fit
  simp only [bind, Except.bind]
  cases crossing other.value_at_anchor metric.target other.slope_per_hour other.anchor_at with
  | error error => rfl
  | ok result =>
    cases result with
    | none => rfl
    | some crosses_at =>
      cases crossing other.value_at_anchor metric.target other.slope_low_per_hour other.anchor_at with
      | error error => rfl
      | ok earliest =>
        cases crossing other.value_at_anchor metric.target other.slope_high_per_hour other.anchor_at with
        | error error => rfl
        | ok latest => rfl

/-- A valid series whose newest segment is the given one. -/
structure EndsIn (metric : Metric K) (samples tail : List (Sample UtcDatetime K)) : Prop where
  valid : is_valid_series samples = true
  segment : newest_segment metric (points samples) = points tail

omit [FloorRing K] in
theorem EndsIn.newest_eq (h : EndsIn metric first tail) :
    (points first).getLast? = (points tail).getLast? := by
  rw [← h.segment]
  by_cases hsome : points first = []
  · rw [hsome]
    rfl
  · obtain ⟨hsegment, hsuffix⟩ := newest_segment_split metric hsome
    exact (suffix_getLast? hsuffix hsegment).symm

/-- Two series that end in one segment, with one cadence, have one forecast. -/
theorem forecast_congr (hfirst : EndsIn metric first tail) (hsecond : EndsIn metric second tail)
    (hcadence : cadence_seconds (points first) = cadence_seconds (points second)) :
    (forecast z first metric now window_start).map untruncated =
      (forecast z second metric now window_start).map untruncated := by
  cases hnewest : (points tail).getLast? with
  | none =>
    rw [forecast_no_data hfirst.valid (hfirst.newest_eq.trans hnewest),
      forecast_no_data hsecond.valid (hsecond.newest_eq.trans hnewest)]
  | some newest =>
    have hnewest_first := hfirst.newest_eq.trans hnewest
    have hnewest_second := hsecond.newest_eq.trans hnewest
    have hsegment := hfirst.segment.trans hsecond.segment.symm
    have hsamples : fit_samples metric (points first) = fit_samples metric (points second) :=
      congrArg (last_points metric.max_fit_points) hsegment
    obtain ⟨oldest, holdest⟩ := fit_samples_head? metric hnewest_first
    rw [forecast_eq hfirst.valid hnewest_first, forecast_eq hsecond.valid hnewest_second, hcadence]
    split
    · rfl
    · split
      · rfl
      · rw [← hcadence, forecast_of_segments_eq hnewest_first holdest, hcadence,
          forecast_of_segments_eq hnewest_second (hsamples ▸ holdest), hsegment, hsamples]
        split
        · rfl
        · split
          · rfl
          · cases theil_sen z (fit_samples metric (points second)) with
            | none => rfl
            | some own => exact map_untruncated_of_fit rfl

/-- What leaves the forecast of a series as it is: nothing new, or finite samples
    that keep the median gap and either the newest segment too or a newest sample
    at or below the target. -/
inductive Undisturbed (metric : Metric K) (first : List (Sample UtcDatetime K)) :
    List (Sample UtcDatetime K) → Prop
  | same : Undisturbed metric first first
  | segment {second : List (Sample UtcDatetime K)} (hfirst : is_valid_series first = true)
    (hsecond : is_valid_series second = true)
    (hcadence : cadence_seconds (points second) = cadence_seconds (points first))
    (hsegment : newest_segment metric (points second) = newest_segment metric (points first)) :
    Undisturbed metric first second
  | below {second : List (Sample UtcDatetime K)} (hfirst : is_valid_series first = true)
    (hsecond : is_valid_series second = true)
    (hcadence : cadence_seconds (points second) = cadence_seconds (points first))
    (hnewest : (points second).getLast? = (points first).getLast?)
    (hbelow : ∀ newest ∈ (points first).getLast?, newest.value ≤ metric.target) :
    Undisturbed metric first second

omit [Field K] [LinearOrder K] [FloorRing K] in
/-- Every list of points comes from samples. -/
theorem exists_points (segment : List (Point UtcDatetime K)) :
    ∃ tail : List (Sample UtcDatetime K), segment = points tail := by
  refine ⟨segment.map fun p => ⟨p.at_time, .finite p.value⟩, ?_⟩
  rw [points_of_finite fun p _ => rfl, List.map_id'']
  exact fun p => rfl

theorem Undisturbed.forecast_eq (h : Undisturbed metric first second) :
    (forecast z second metric now window_start).map untruncated =
      (forecast z first metric now window_start).map untruncated := by
  cases h with
  | same => rfl
  | segment hfirst hsecond hcadence hsegment =>
    obtain ⟨tail, htail⟩ := exists_points (newest_segment metric (points first))
    exact forecast_congr ⟨hsecond, hsegment.trans htail⟩ ⟨hfirst, htail⟩ hcadence
  | below hfirst hsecond hcadence hnewest hbelow =>
    -- answered before the segments are looked at
    cases hsome : (points first).getLast? with
    | none =>
      rw [forecast_no_data hfirst hsome, forecast_no_data hsecond (hnewest.trans hsome)]
    | some newest =>
      have hdry := hbelow newest hsome
      rw [model.forecast_eq hfirst hsome, model.forecast_eq hsecond (hnewest.trans hsome), if_pos hdry,
        if_pos hdry, hcadence]

/-- A forecast of an undisturbed series is there again, but for the flag. -/
theorem Undisturbed.forecast_ok {fc : Forecast UtcDatetime K} (h : Undisturbed metric first second)
    (hfc : forecast z first metric now window_start = .ok fc) :
    ∃ fc', forecast z second metric now window_start = .ok fc' ∧ untruncated fc' = untruncated fc := by
  have hsame : (forecast z second metric now window_start).map untruncated =
      (forecast z first metric now window_start).map untruncated := h.forecast_eq
  rw [hfc] at hsame
  cases hfc' : forecast z second metric now window_start with
  | error error =>
    rw [hfc'] at hsame
    cases hsame
  | ok fc' =>
    rw [hfc', Except.map, Except.map, Except.ok.injEq] at hsame
    exact ⟨fc', rfl, hsame⟩

/-- The segment is too short, in samples or in time. -/
def FailsGate (metric : Metric K) (segment : List (Point UtcDatetime K)) : Prop :=
  segment.length < metric.min_points ∨
    ∃ oldest newest, (last_points metric.max_fit_points segment).head? = some oldest ∧
      segment.getLast? = some newest ∧
      total_seconds (DataTime.since newest.at_time oldest.at_time) < metric.min_span_seconds

/-- A segment that fails a gate has no fit, and a newest value above the target
    then leaves no crossing either. -/
theorem no_crossing_of_fails_gate (h : EndsIn metric first tail)
    (hfails : FailsGate metric (points tail))
    (habove : ∀ newest, (points tail).getLast? = some newest → metric.target < newest.value) :
    ∃ fc, forecast z first metric now window_start = .ok fc ∧ fc.status.crossing = false ∧
      fc.crosses_at = none := by
  have hnot : ∀ newest fit, ¬ Fitted z first metric now window_start newest fit := by
    intro newest fit hfit
    rcases hfails with hshort | ⟨oldest, last, holdest, hlast, hnarrow⟩
    · have henough := hfit.enough
      rw [h.segment] at henough
      omega
    · rw [← h.newest_eq, hfit.newest_eq, Option.some.injEq] at hlast
      rw [← h.segment] at holdest
      exact absurd (hfit.long oldest holdest) (not_le.mpr (hlast ▸ hnarrow))
  obtain ⟨fc, hfc, hunfitted⟩ := forecast_unfitted hnot
  have hbelow : fc.status ≠ .at_or_below_target := by
    intro hbelow
    obtain ⟨newest, hnewest, hle, -⟩ := hunfitted.crossing hbelow
    exact absurd hle (not_le.mpr (habove newest (h.newest_eq.symm.trans hnewest)))
  refine ⟨fc, hfc, ?_, (hunfitted.no_crossing hbelow).1⟩
  have hstatus := hunfitted.status
  cases hcase : fc.status with
  | at_or_below_target => exact absurd hcase hbelow
  | ok | beyond_horizon | not_depleting => simp [hcase, Status.unfitted] at hstatus
  | no_data | stale | invalid_series | insufficient_points | insufficient_span => rfl

/-- Whatever came before its newest segment, a valid series has the forecast of
    that segment, up to the truncation flag. If the segment fails a gate and
    ends above the target, that forecast has no crossing. -/
theorem newest_segment_decides (z : K) (metric : Metric K) (now : UtcDatetime)
    (window_start : Option UtcDatetime) (before other tail : List (Sample UtcDatetime K))
    (hbefore : EndsIn metric (before ++ tail) tail) (hother : EndsIn metric (other ++ tail) tail)
    (hcadence : cadence_seconds (points (before ++ tail)) = cadence_seconds (points (other ++ tail))) :
    (forecast z (before ++ tail) metric now window_start).map untruncated =
      (forecast z (other ++ tail) metric now window_start).map untruncated ∧
    (FailsGate metric (points tail) →
      (∀ newest, (points tail).getLast? = some newest → metric.target < newest.value) →
      ∃ fc, forecast z (before ++ tail) metric now window_start = .ok fc ∧
        fc.status.crossing = false ∧ fc.crosses_at = none) :=
  ⟨forecast_congr hbefore hother hcadence, no_crossing_of_fails_gate hbefore⟩

/-- Three samples of a refilled planter, after the old tank. -/
def refilled : List (Sample UtcDatetime ℚ) :=
  [⟨at_minute 60, .finite 95⟩, ⟨at_minute 70, .finite 94⟩, ⟨at_minute 80, .finite 93⟩]

theorem newest_segment_decides_refilled :
    (forecast 2 ([⟨at_minute 40, .finite 20⟩, ⟨at_minute 50, .finite 15⟩] ++ refilled) WATER
      (at_minute 80) none).map untruncated =
      (forecast 2 ([⟨at_minute 50, .finite 60⟩] ++ refilled) WATER (at_minute 80) none).map
        untruncated ∧
    ∃ fc, forecast 2 ([⟨at_minute 40, .finite 20⟩, ⟨at_minute 50, .finite 15⟩] ++ refilled) WATER
      (at_minute 80) none = .ok fc ∧ fc.status.crossing = false ∧ fc.crosses_at = none := by
  obtain ⟨hsame, hgate⟩ := newest_segment_decides 2 WATER (at_minute 80) none
    [⟨at_minute 40, .finite 20⟩, ⟨at_minute 50, .finite 15⟩] [⟨at_minute 50, .finite 60⟩] refilled
    ⟨by decide +kernel, by decide +kernel⟩ ⟨by decide +kernel, by decide +kernel⟩
    (by decide +kernel)
  refine ⟨hsame, hgate (.inl (by decide +kernel)) fun newest hnewest => ?_⟩
  have hlast : (points refilled).getLast? = some ⟨at_minute 80, 93⟩ := by decide +kernel
  obtain rfl := Option.some.inj (hlast.symm.trans hnewest)
  decide

/-- A dry sample alone is too few points for a fit, but is a crossing: that it
    is dry is answered before the gates. -/
theorem crossing_of_failed_gate :
    ¬ ∀ (z : ℚ) (metric : Metric ℚ) (now : UtcDatetime) (window_start : Option UtcDatetime)
      (before other tail : List (Sample UtcDatetime ℚ)),
      EndsIn metric (before ++ tail) tail → EndsIn metric (other ++ tail) tail →
      cadence_seconds (points (before ++ tail)) = cadence_seconds (points (other ++ tail)) →
      (forecast z (before ++ tail) metric now window_start).map untruncated =
        (forecast z (other ++ tail) metric now window_start).map untruncated ∧
      (FailsGate metric (points tail) →
        ∃ fc, forecast z (before ++ tail) metric now window_start = .ok fc ∧
          fc.status.crossing = false ∧ fc.crosses_at = none) := by
  intro h
  have hdry : EndsIn WATER [⟨at_minute 0, .finite 5⟩] [⟨at_minute 0, .finite 5⟩] :=
    ⟨by decide +kernel, by decide +kernel⟩
  obtain ⟨fc, hfc, hcrossing, -⟩ := (h 2 WATER (at_minute 0) none [] [] [⟨at_minute 0, .finite 5⟩]
    hdry hdry rfl).2 (.inl (by decide +kernel))
  have hstatus : (forecast 2 [⟨at_minute 0, .finite 5⟩] WATER (at_minute 0) none).map
      (fun fc => fc.status.crossing) = .ok true := by decide +kernel
  rw [List.nil_append] at hfc
  rw [hfc, Except.map, hcrossing] at hstatus
  cases hstatus

end planter_telemetry.analytics.model
