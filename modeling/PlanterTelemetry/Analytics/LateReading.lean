import PlanterTelemetry.Analytics.NewestSegment
import PlanterTelemetry.Analytics.Record
import PlanterTelemetry.Analytics.Turn

open planter_telemetry.python planter_telemetry.migrations planter_telemetry.analytics.model
open planter_telemetry.analytics.db planter_telemetry.analytics.service

namespace planter_telemetry.analytics.model

section Series

variable {K : Type} {front back : List (Sample UtcDatetime K)} {late : Sample UtcDatetime K}

/-- A reading whose time is strictly inside a series, and its place there. -/
structure ArrivesLate (front back : List (Sample UtcDatetime K)) (late : Sample UtcDatetime K) : Prop where
  front_ne : front ≠ []
  back_ne : back ≠ []
  after_front : ∀ sample ∈ front, sample.at_time < late.at_time
  before_back : ∀ sample ∈ back, late.at_time < sample.at_time

theorem ArrivesLate.newest (h : ArrivesLate front back late) :
    (front ++ late :: back).getLast? = (front ++ back).getLast? := by
  rw [List.getLast?_append_of_ne_nil _ (List.cons_ne_nil _ _), List.getLast?_append_of_ne_nil _ h.back_ne,
    List.getLast?_cons_of_ne_nil h.back_ne]

theorem ArrivesLate.valid (h : ArrivesLate front back late) (hvalid : is_valid_series (front ++ back) = true)
    (hfinite : late.value.isfinite = true) : is_valid_series (front ++ late :: back) = true := by
  obtain ⟨hall, horder⟩ := is_valid_series_iff.mp hvalid
  obtain ⟨hfront, hback, hacross⟩ := List.pairwise_append.mp horder
  refine is_valid_series_iff.mpr ⟨fun sample hsample => ?_, ?_⟩
  · cases List.mem_append.mp hsample with
    | inl hsample => exact hall sample (List.mem_append_left _ hsample)
    | inr hsample =>
      rcases List.mem_cons.mp hsample with rfl | hsample
      · exact hfinite
      · exact hall sample (List.mem_append_right _ hsample)
  · refine List.pairwise_append.mpr ⟨hfront, List.pairwise_cons.mpr ⟨h.before_back, hback⟩, ?_⟩
    intro sample hsample other hother
    rcases List.mem_cons.mp hother with rfl | hother
    · exact h.after_front sample hsample
    · exact hacross sample hsample other hother

theorem ArrivesLate.newest_point (h : ArrivesLate front back late)
    (hvalid : is_valid_series (front ++ back) = true) :
    (points (front ++ late :: back)).getLast? = (points (front ++ back)).getLast? := by
  have hback : points back ≠ [] := by
    obtain ⟨sample, rest, rfl⟩ := List.exists_cons_of_ne_nil h.back_ne
    have hfinite : ∀ sample' ∈ sample :: rest, sample'.value.isfinite = true := fun sample' hmem =>
      (is_valid_series_iff.mp hvalid).1 sample' (List.mem_append_right _ hmem)
    have htimes := congrArg List.length (points_times hfinite)
    rw [List.length_map, List.length_map, List.length_cons] at htimes
    exact List.ne_nil_of_length_eq_add_one htimes
  have hcons : late :: back = [late] ++ back := rfl
  rw [hcons, points_append, points_append, points_append,
    List.getLast?_append_of_ne_nil _ (List.append_ne_nil_of_right_ne_nil _ hback),
    List.getLast?_append_of_ne_nil _ hback, List.getLast?_append_of_ne_nil _ hback]

end Series

end planter_telemetry.analytics.model

namespace planter_telemetry.analytics.service

variable {fc fc' : Forecast UtcDatetime ℚ} {as_of : UtcDatetime} {device_id : String} {row : ForecastRow}
  {db : Database}

/-- A forecast of the recorded status leaves the table of forecasts as it is. -/
theorem inserted_forecast_same_status (has : fc.as_of = some as_of)
    (hrow : db.forecasts.lookup (device_id, fc.kind, as_of) = some row) (hstatus : row.status = fc.status) :
    (inserted_forecast db device_id fc).forecasts = db.forecasts := by
  unfold inserted_forecast
  rw [has]
  exact KeyedTable.upsert_eq_self hrow (if_pos hstatus)

/-- A planter that was refilled between the second and the third reading. -/
def refilled_ramp : List (Sample UtcDatetime ℚ) :=
  [⟨at_minute 0, .finite 20⟩, ⟨at_minute 60, .finite 19⟩, ⟨at_minute 180, .finite 50⟩,
    ⟨at_minute 240, .finite 49⟩, ⟨at_minute 300, .finite 48⟩]

def refilled_forecast : Forecast UtcDatetime ℚ :=
  crossing_forecast QUICK_WATER ⟨at_minute 300, 48⟩ { ramp_fit with anchor_at := at_minute 300, truncated := false }
    (at_minute 2580) (some (at_minute 2580)) (some (at_minute 2580))

end planter_telemetry.analytics.service
