import PlanterTelemetry.Analytics.PassOrder
import PlanterTelemetry.Library.Interference
import Mathlib.Logic.Relation

open planter_telemetry.python planter_telemetry.migrations
open planter_telemetry.analytics.model planter_telemetry.analytics.config
open planter_telemetry.analytics.db

namespace planter_telemetry.analytics.service

/-! ### What a pass cannot tell once it has its window -/

/-- The statements of a pass after its window is read. -/
def WindowRead : Effect → Prop
  | .data_now | .load_window _ => False
  | _ => True

/-- The worlds agree on all that analytics writes. -/
structure Alike (first second : World) : Prop where
  forecasts : first.db.forecasts = second.db.forecasts
  alert_events : first.db.alert_events = second.db.alert_events
  next_id : first.db.next_id = second.db.next_id
  counters : first.counters = second.counters
  devices_forecast : first.devices_forecast = second.devices_forecast
  sent : first.sent = second.sent

theorem congruence (around : Surroundings) :
    Program.Congruence (perform around) WindowRead Alike where
  refl _ := ⟨rfl, rfl, rfl, rfl, rfl, rfl⟩
  response := by
    rintro effect first second hallowed ⟨hforecasts, halert_events, hnext_id, -, -, hsent⟩
    cases effect with
    | data_now | load_window => exact hallowed.elim
    | latest_alert_states =>
      funext device_id kind
      simp only [perform, latest_alert_states, alert_history, halert_events]
    | insert_forecast row => simp only [perform, insert_forecast, hforecasts]
    | insert_alert_event decision => simp only [perform, insert_alert_event, halert_events, hnext_id]
    | post_ntfy notification => simp only [perform, hsent]
    | mark_notified | count | set_devices_forecast => rfl
  state := by
    rintro effect first second hallowed ⟨hforecasts, halert_events, hnext_id, hcounters, hdevices, hsent⟩
    cases effect with
    | data_now | load_window => exact hallowed.elim
    | latest_alert_states => exact ⟨hforecasts, halert_events, hnext_id, hcounters, hdevices, hsent⟩
    | insert_forecast row =>
      refine ⟨?_, halert_events, hnext_id, hcounters, hdevices, hsent⟩
      simp only [perform, insert_forecast, hforecasts]
    | insert_alert_event decision =>
      refine ⟨hforecasts, ?_, ?_, hcounters, hdevices, hsent⟩
      · simp only [perform, insert_alert_event, halert_events, hnext_id]
      · simp only [perform, insert_alert_event, hnext_id]
    | post_ntfy notification =>
      refine ⟨hforecasts, halert_events, hnext_id, hcounters, hdevices, ?_⟩
      simp only [perform, hsent]
    | mark_notified event_id error =>
      refine ⟨hforecasts, ?_, hnext_id, hcounters, hdevices, hsent⟩
      simp only [perform, mark_notified, halert_events]
    | count bump =>
      refine ⟨hforecasts, halert_events, hnext_id, ?_, hdevices, hsent⟩
      simp only [perform, hcounters]
    | set_devices_forecast devices => exact ⟨hforecasts, halert_events, hnext_id, hcounters, rfl, hsent⟩

theorem handle_alert_window_read (settings : AnalyticsSettings) (device_id : String)
    (metric : Metric ℚ) (fc : Forecast UtcDatetime ℚ) (previous : Option (AlertState UtcDatetime)) :
    (handle_alert settings device_id metric fc previous).Only WindowRead := by
  unfold handle_alert
  split
  · refine ⟨trivial, fun event_id => ?_⟩
    cases event_id with
    | none => trivial
    | some event_id =>
      apply (announce_only_quiet event_id _).mono
      intro effect hquiet
      cases effect with
      | data_now | load_window => exact hquiet
      | _ => trivial
  · trivial

theorem record_forecast_window_read (device_id : String) (fc : Forecast UtcDatetime ℚ) :
    (record_forecast device_id fc).Only WindowRead := by
  unfold record_forecast Store.insert_forecast
  cases fc.as_of with
  | none => trivial
  | some as_of =>
    refine ⟨trivial, fun written => ?_⟩
    cases written with
    | true => exact ⟨trivial, fun _ => trivial⟩
    | false => trivial

theorem work_on_window_read (settings : AnalyticsSettings) (now_data : UtcDatetime)
    (windows : List (Metric ℚ × UtcDatetime)) (window : List (String × ByKind)) :
    (work_on settings now_data windows window).Only WindowRead := by
  refine ⟨trivial, fun alert_states => ?_⟩
  simp only [Program.ret_bind]
  refine Program.Only.bind ?_ fun _ => ⟨trivial, fun _ => trivial⟩
  refine Program.Only.forEach fun entry => Program.Only.forEach fun pair => ?_
  unfold forecast_metric
  refine Program.Only.bind ?_ fun fc =>
    (record_forecast_window_read _ fc).bind fun _ => handle_alert_window_read settings _ _ fc _
  cases forecast Z_95 (metric_samples entry.2 pair.1 pair.2) pair.1 now_data (some pair.2) with
  | ok fc => trivial
  | error error => trivial

theorem work_on_returns (settings : AnalyticsSettings) (now_data : UtcDatetime)
    (windows : List (Metric ℚ × UtcDatetime)) (window : List (String × ByKind)) :
    (work_on settings now_data windows window).Returns (· = some now_data) :=
  Program.Returns.bind fun _ => Program.Returns.bind fun _ => Program.Returns.bind fun _ => rfl

/-! ### What a pass leaves -/

variable {settings : AnalyticsSettings} {around : Surroundings} {world final : World}
  {now_data : UtcDatetime} {windows : List (Metric ℚ × UtcDatetime)}

/-- Undisturbed, the window is worked through job by job. -/
theorem advanced_of_work_on {result : Option UtcDatetime}
    (hwindows : metric_windows settings now_data = .ok windows)
    (h : (work_on settings now_data windows
      (load_window world.db (longest_window now_data windows))).run (perform around) world =
        (final, .ok result)) :
    Advanced settings now_data around.tie world.db (jobs world.db now_data windows) final.db := by
  unfold work_on at h
  rw [(reads_latest_alert_states (.here _)).run, ← turns_eq] at h
  obtain ⟨after, value, hturns, hrest⟩ := Program.run_bind_ok_iff.mp h
  have hfinal : final.db = after.db := by
    cases hrest
    rfl
  rw [hfinal]
  exact run_turns hwindows hturns

/-- The views are all that matters. -/
theorem Advanced.congr {tie : TieBreak} {start db other : Database} {done : List Job}
    (h : Advanced settings now_data tie start done db)
    (hviews : ∀ device_id kind, view other device_id kind = view db device_id kind) :
    Advanced settings now_data tie start done other where
  own job hjob := by
    obtain ⟨fc, hforecast, hview⟩ := h.own job hjob
    exact ⟨fc, hforecast, (hviews _ _).trans hview⟩
  other device_id kind habsent := (hviews device_id kind).trans (h.other device_id kind habsent)

end planter_telemetry.analytics.service
