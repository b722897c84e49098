import PlanterTelemetry.Analytics.Estimator
import PlanterTelemetry.Analytics.Segment

open planter_telemetry.python

namespace planter_telemetry.analytics.model

variable {K : Type} [Field K] [LinearOrder K] [FloorRing K] {z : K}
  {samples : List (Sample UtcDatetime K)} {metric : Metric K} {now : UtcDatetime}
  {window_start : Option UtcDatetime} {newest : Point UtcDatetime K} {fit : Fit UtcDatetime K}

/-! ### Where a forecast ends -/

/-- Whether the lookback edge chose where the newest segment begins. -/
def truncated (metric : Metric K) (window_start : Option UtcDatetime)
    (series : List (Point UtcDatetime K)) : Bool :=
  let edge_slack := match cadence_seconds series with
    | none => 0
    | some cadence => cadence * metric.gap_factor
  let reached_edge := match window_start, (newest_segment metric series).head? with
    | some edge, some oldest => decide (total_seconds (DataTime.since oldest.at_time edge) ≤ edge_slack)
    | _, _ => true
  decide ((split_segments series metric.refill_jump metric.gap_factor).length = 1) && reached_edge

/-- The series gets as far as a fit of its newest segment. -/
structure PassesGates (samples : List (Sample UtcDatetime K)) (metric : Metric K) (now : UtcDatetime)
    (newest : Point UtcDatetime K) : Prop where
  valid : is_valid_series samples = true
  newest_eq : (points samples).getLast? = some newest
  fresh : total_seconds (DataTime.since now newest.at_time) ≤
    stale_limit metric (cadence_seconds (points samples))
  above : metric.target < newest.value
  enough : metric.min_points ≤ (newest_segment metric (points samples)).length
  long : ∀ first, (fit_samples metric (points samples)).head? = some first →
    metric.min_span_seconds ≤ total_seconds (DataTime.since newest.at_time first.at_time)

/-- The newest segment passes every gate, and this is its fit. -/
structure Fitted (z : K) (samples : List (Sample UtcDatetime K)) (metric : Metric K)
    (now : UtcDatetime) (window_start : Option UtcDatetime) (newest : Point UtcDatetime K)
    (fit : Fit UtcDatetime K) : Prop extends PassesGates samples metric now newest where
  fit_eq : ∃ own, theil_sen z (fit_samples metric (points samples)) = some own ∧
    fit = { own with
      segment_points := (newest_segment metric (points samples)).length
      truncated := truncated metric window_start (points samples) }

/-- The statuses of a forecast without a fit. -/
def Status.unfitted : Status → Bool
  | .no_data | .invalid_series | .stale | .at_or_below_target | .insufficient_points
  | .insufficient_span => true
  | _ => false

/-- A forecast that is made before any fit. Only a newest sample at or below
    the target has a crossing: there and then. -/
structure Unfitted (samples : List (Sample UtcDatetime K)) (metric : Metric K)
    (fc : Forecast UtcDatetime K) : Prop where
  status : fc.status.unfitted = true
  fit : fc.fit = none
  valid : fc.status = .at_or_below_target → is_valid_series samples = true
  crossing : fc.status = .at_or_below_target → ∃ newest, (points samples).getLast? = some newest ∧
    newest.value ≤ metric.target ∧ fc.as_of = some newest.at_time ∧
    fc.crosses_at = some newest.at_time ∧ fc.crosses_at_earliest = some newest.at_time ∧
    fc.crosses_at_latest = some newest.at_time
  no_crossing : fc.status ≠ .at_or_below_target →
    fc.crosses_at = none ∧ fc.crosses_at_earliest = none ∧ fc.crosses_at_latest = none


/-- The gates of `forecast`, in its order. -/
theorem forecast_eq (hvalid : is_valid_series samples = true)
    (hnewest : (points samples).getLast? = some newest) :
    forecast z samples metric now window_start =
      if stale_limit metric (cadence_seconds (points samples)) <
          total_seconds (DataTime.since now newest.at_time) then
        .ok (no_crossing metric .stale (some newest.at_time) (some newest.value) none)
      else if newest.value ≤ metric.target then
        .ok {
          kind := metric.kind
          status := .at_or_below_target
          as_of := some newest.at_time
          target := metric.target
          latest_value := some newest.value
          crosses_at := some newest.at_time
          crosses_at_earliest := some newest.at_time
          crosses_at_latest := some newest.at_time
          fit := none }
      else forecast_of_segments z metric window_start (cadence_seconds (points samples)) newest
        (split_segments (points samples) metric.refill_jump metric.gap_factor) := by
  have hsome : samples ≠ [] := by
    rintro rfl
    cases hnewest
  unfold forecast
  rw [List.getLast?_eq_some_getLast hsome]
  simp only [hvalid, DataTime.aware, Bool.not_true, Bool.or_self, Bool.false_eq_true, if_false,
    hnewest]

theorem forecast_no_data (hvalid : is_valid_series samples = true)
    (hnone : (points samples).getLast? = none) :
    forecast z samples metric now window_start = .ok (no_crossing metric .no_data none none none) := by
  unfold forecast
  cases samples.getLast? with
  | none => rfl
  | some sample =>
    simp only [hvalid, DataTime.aware, Bool.not_true, Bool.or_self, Bool.false_eq_true, if_false, hnone]

omit [Field K] [LinearOrder K] [FloorRing K] in
theorem points_ne_nil (hnewest : (points samples).getLast? = some newest) : points samples ≠ [] := by
  intro hnil
  rw [hnil] at hnewest
  cases hnewest

theorem forecast_of_segments_eq {first : Point UtcDatetime K}
    (hnewest : (points samples).getLast? = some newest)
    (hfirst : (fit_samples metric (points samples)).head? = some first) :
    forecast_of_segments z metric window_start (cadence_seconds (points samples)) newest
        (split_segments (points samples) metric.refill_jump metric.gap_factor) =
      if (newest_segment metric (points samples)).length < metric.min_points then
        .ok (no_crossing metric .insufficient_points (some newest.at_time) (some newest.value) none)
      else if total_seconds (DataTime.since newest.at_time first.at_time) < metric.min_span_seconds then
        .ok (no_crossing metric .insufficient_span (some newest.at_time) (some newest.value) none)
      else match theil_sen z (fit_samples metric (points samples)) with
        | none =>
          .ok (no_crossing metric .insufficient_points (some newest.at_time) (some newest.value) none)
        | some own => forecast_of_fit metric newest { own with
            segment_points := (newest_segment metric (points samples)).length
            truncated := truncated metric window_start (points samples) } := by
  have hlast := (fit_samples_getLast? metric (points_ne_nil hnewest)).trans hnewest
  unfold fit_samples newest_segment at hfirst hlast ⊢
  unfold forecast_of_segments truncated newest_segment
  simp only [hfirst, hlast]
  cases theil_sen z (last_points metric.max_fit_points
      ((split_segments (points samples) metric.refill_jump metric.gap_factor).getLastD [])) with
  | none => rfl
  | some own =>
    cases window_start with
    | none => rfl
    | some edge =>
      cases ((split_segments (points samples) metric.refill_jump metric.gap_factor).getLastD []).head? with
      | none => rfl
      | some oldest => rfl

omit [Field K] [FloorRing K] in
theorem unfitted_refused {status : Status} (hstatus : status.unfitted = true)
    (hcrossing : status ≠ .at_or_below_target) (as_of : Option UtcDatetime) (latest : Option K) :
    Unfitted samples metric (no_crossing metric status as_of latest none) where
  status := hstatus
  fit := rfl
  valid h := absurd h hcrossing
  crossing h := absurd h hcrossing
  no_crossing _ := ⟨rfl, rfl, rfl⟩

omit [FloorRing K] in
theorem fit_samples_head? (metric : Metric K) (hnewest : (points samples).getLast? = some newest) :
    ∃ first, (fit_samples metric (points samples)).head? = some first := by
  have hsome := last_points_ne_nil metric.max_fit_points
    (newest_segment_split metric (points_ne_nil hnewest)).1
  exact ⟨_, List.head?_eq_some_head hsome⟩

theorem forecast_of_fitted (h : Fitted z samples metric now window_start newest fit) :
    forecast z samples metric now window_start = forecast_of_fit metric newest fit := by
  obtain ⟨own, hown, rfl⟩ := h.fit_eq
  obtain ⟨first, hfirst⟩ := fit_samples_head? metric h.newest_eq
  rw [forecast_eq h.valid h.newest_eq, if_neg (not_lt.mpr h.fresh), if_neg (not_le.mpr h.above),
    forecast_of_segments_eq h.newest_eq hfirst, if_neg (not_lt.mpr h.enough),
    if_neg (not_lt.mpr (h.long first hfirst)), hown]

/-- Without a fit, the forecast is made by one of the gates. -/
theorem forecast_unfitted (hnot : ∀ newest fit, ¬ Fitted z samples metric now window_start newest fit) :
    ∃ fc, forecast z samples metric now window_start = .ok fc ∧ Unfitted samples metric fc := by
  by_cases hvalid : is_valid_series samples = true
  · cases hnewest : (points samples).getLast? with
    | none =>
      exact ⟨_, forecast_no_data hvalid hnewest, unfitted_refused rfl (by decide) none none⟩
    | some newest =>
      obtain ⟨first, hfirst⟩ := fit_samples_head? metric hnewest
      rw [forecast_eq hvalid hnewest]
      split
      · exact ⟨_, rfl, unfitted_refused rfl (by decide) _ _⟩
      · next hfresh =>
        split
        · next hbelow =>
          refine ⟨_, rfl, rfl, rfl, fun _ => hvalid, fun _ => ?_, fun h => absurd rfl h⟩
          exact ⟨newest, hnewest, hbelow, rfl, rfl, rfl, rfl⟩
        · next habove =>
          rw [forecast_of_segments_eq hnewest hfirst]
          split
          · exact ⟨_, rfl, unfitted_refused rfl (by decide) _ _⟩
          · next henough =>
            split
            · exact ⟨_, rfl, unfitted_refused rfl (by decide) _ _⟩
            · next hlong =>
              cases hown : theil_sen z (fit_samples metric (points samples)) with
              | none => exact ⟨_, rfl, unfitted_refused rfl (by decide) _ _⟩
              | some own =>
                refine absurd ⟨⟨hvalid, hnewest, not_lt.mp hfresh, not_le.mp habove,
                  not_lt.mp henough, ?_⟩, own, hown, rfl⟩ (hnot newest _)
                intro other hother
                rw [hfirst, Option.some.injEq] at hother
                exact hother ▸ not_lt.mp hlong
  · unfold forecast
    cases samples.getLast? with
    | none => exact ⟨_, rfl, unfitted_refused rfl (by decide) none none⟩
    | some sample =>
      simp only [Bool.eq_false_iff.mpr hvalid, DataTime.aware, Bool.not_false, Bool.true_or, if_true]
      exact ⟨_, rfl, unfitted_refused rfl (by decide) _ _⟩

end planter_telemetry.analytics.model
