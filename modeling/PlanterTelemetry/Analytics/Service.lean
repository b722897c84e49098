import PlanterTelemetry.Analytics.Config
import PlanterTelemetry.Analytics.Db
import PlanterTelemetry.Library.Autocommit

open planter_telemetry.python planter_telemetry.migrations planter_telemetry.analytics.model
open planter_telemetry.analytics.config planter_telemetry.analytics.db

namespace planter_telemetry.analytics.service

/-- The counters that a pass itself bumps. -/
structure Counters where
  forecasts_written : Nat := 0
  alerts_fired : Nat := 0
  alerts_cleared : Nat := 0
  notify_failures : Nat := 0
  deriving DecidableEq, Repr

/-- A notification, by the values its texts are made of. -/
structure Notification where
  device_id : String
  kind : String
  crosses_at : UtcDatetime
  horizon_seconds : ℚ
  deriving DecidableEq

/-- What a pass reads and writes. `sent` is every notification posted. -/
structure World where
  db : Database
  counters : Counters := {}
  devices_forecast : Nat := 0
  sent : List Notification := []

/-- The effects of a pass: the statements of the store, the POST, and its own
    counters and gauge. -/
inductive Effect where
  | data_now
  | load_window (cutoff : UtcDatetime)
  | latest_alert_states
  | insert_forecast (row : ForecastRow)
  | insert_alert_event (decision : AlertDecision)
  | post_ntfy (notification : Notification)
  | mark_notified (event_id : Nat) (error : Option String)
  | count (bump : Counters → Counters)
  | set_devices_forecast (devices : Nat)

abbrev Effect.Response : Effect → Type
  | .data_now => Option UtcDatetime
  | .load_window _ => List (String × ByKind)
  | .latest_alert_states => String → String → Option (AlertState UtcDatetime)
  | .insert_forecast _ => Bool
  | .insert_alert_event _ => Option Nat
  | .post_ntfy _ => Option String
  | _ => Unit

/-- What the model takes from outside: the choice the database makes among
    alert rows of equal `as_of`, and what `post_ntfy` returns after earlier
    posts. -/
structure Surroundings where
  tie : TieBreak
  ntfy : List Notification → Notification → Option String

def perform (around : Surroundings) : Program.Semantics Effect.Response World
  | .data_now, world => (world, data_now world.db)
  | .load_window cutoff, world => (world, load_window world.db cutoff)
  | .latest_alert_states, world => (world, latest_alert_states around.tie world.db)
  | .insert_forecast row, world =>
    ({ world with db := (insert_forecast world.db row).1 }, (insert_forecast world.db row).2)
  | .insert_alert_event decision, world =>
    ({ world with db := (insert_alert_event world.db decision).1 },
      (insert_alert_event world.db decision).2)
  | .post_ntfy notification, world =>
    ({ world with sent := world.sent ++ [notification] }, around.ntfy world.sent notification)
  | .mark_notified event_id error, world =>
    ({ world with db := mark_notified world.db event_id error }, ())
  | .count bump, world => ({ world with counters := bump world.counters }, ())
  | .set_devices_forecast devices, world => ({ world with devices_forecast := devices }, ())

abbrev Pass := Program Effect.Response PyError

def Store.data_now : Pass (Option UtcDatetime) := Program.perform Effect.data_now

def Store.load_window (cutoff : UtcDatetime) : Pass (List (String × ByKind)) :=
  Program.perform (Effect.load_window cutoff)

def Store.latest_alert_states : Pass (String → String → Option (AlertState UtcDatetime)) :=
  Program.perform Effect.latest_alert_states

/-- `Store.insert_forecast`: without a watermark there is no row to key. -/
def Store.insert_forecast (device_id : String) (fc : Forecast UtcDatetime ℚ) : Pass Bool :=
  match fc.as_of with
  | none => pure false
  | some as_of => Program.perform (Effect.insert_forecast (forecast_row device_id as_of fc))

def Store.insert_alert_event (decision : AlertDecision) : Pass (Option Nat) :=
  Program.perform (Effect.insert_alert_event decision)

def Store.mark_notified (event_id : Nat) (error : Option String) : Pass Unit :=
  Program.perform (Effect.mark_notified event_id error)

def post_ntfy (notification : Notification) : Pass (Option String) :=
  Program.perform (Effect.post_ntfy notification)

def count (bump : Counters → Counters) : Pass Unit := Program.perform (Effect.count bump)

def set_devices_forecast (devices : Nat) : Pass Unit :=
  Program.perform (Effect.set_devices_forecast devices)

/-- The default of `alert_transition`'s `clear_factor`. -/
def CLEAR_FACTOR : ℚ := 3 / 2

/-- `NormalDist().inv_cdf(0.975)`, the quantile behind the default confidence. -/
def Z_95 : ℚ := 19599639845400536 / 10000000000000000

variable (settings : AnalyticsSettings)

/-- The decision that a transition records. -/
def decision_of (device_id : String) (metric : Metric ℚ) (transition : AlertTransition)
    (as_of crosses_at : UtcDatetime) : AlertDecision where
  device_id := device_id
  kind := metric.kind
  state := transition
  as_of := as_of
  crosses_at := crosses_at
  horizon_seconds := horizon_seconds crosses_at as_of
  threshold_seconds := metric.alert_horizon_seconds

/-- The end of `_handle_alert`, for a new decision row. -/
def announce (event_id : Nat) (decision : AlertDecision) : Pass Unit :=
  match decision.state with
  | .firing => do
    count fun c => { c with alerts_fired := c.alerts_fired + 1 }
    if settings.ntfy_url ≠ "" then
      let error ← post_ntfy
        ⟨decision.device_id, decision.kind, decision.crosses_at, decision.horizon_seconds⟩
      Store.mark_notified event_id error
      if error.isSome then
        count fun c => { c with notify_failures := c.notify_failures + 1 }
  | .cleared => count fun c => { c with alerts_cleared := c.alerts_cleared + 1 }

/-- `_handle_alert`. -/
def handle_alert (device_id : String) (metric : Metric ℚ) (fc : Forecast UtcDatetime ℚ)
    (previous : Option (AlertState UtcDatetime)) : Pass Unit :=
  match alert_transition fc metric previous settings.cooldown_seconds CLEAR_FACTOR,
    fc.as_of, fc.crosses_at with
  | some transition, some as_of, some crosses_at => do
    let decision := decision_of device_id metric transition as_of crosses_at
    match ← Store.insert_alert_event decision with
    | none => pure ()
    | some event_id => announce settings event_id decision
  | _, _, _ => pure ()

/-- `[s for s in by_kind[metric.kind] if s.at > window_start]`. -/
def metric_samples (by_kind : ByKind) (metric : Metric ℚ) (window_start : UtcDatetime) :
    List (Sample UtcDatetime ℚ) :=
  (by_kind.get metric.kind).filter fun sample => window_start < sample.at_time

/-- Insert a forecast and count it if a row was written. -/
def record_forecast (device_id : String) (fc : Forecast UtcDatetime ℚ) : Pass Unit := do
  if ← Store.insert_forecast device_id fc then
    count fun c => { c with forecasts_written := c.forecasts_written + 1 }

/-- The body of the two loops of `run_pass`. -/
def forecast_metric (now_data : UtcDatetime)
    (alert_states : String → String → Option (AlertState UtcDatetime))
    (device_id : String) (by_kind : ByKind) (metric : Metric ℚ) (window_start : UtcDatetime) :
    Pass Unit := do
  let fc ← Program.lift
    (forecast Z_95 (metric_samples by_kind metric window_start) metric now_data (some window_start))
  record_forecast device_id fc
  handle_alert settings device_id metric fc (alert_states device_id metric.kind)

/-- `now_data - timedelta(seconds=metric.lookback_seconds)`. -/
def window_start_of (now_data : UtcDatetime) (metric : Metric ℚ) : Except PyError UtcDatetime := do
  let lookback ← timedelta_seconds metric.lookback_seconds
  now_data.add (-lookback)

/-- The list `metric_windows` of `run_pass`. -/
def metric_windows (now_data : UtcDatetime) : Except PyError (List (Metric ℚ × UtcDatetime)) :=
  settings.metrics.mapM fun metric => do
    let window_start ← window_start_of now_data metric
    pure (metric, window_start)

/-- `min(window_start for _, window_start in metric_windows)`. -/
def longest_window (now_data : UtcDatetime) (windows : List (Metric ℚ × UtcDatetime)) :
    UtcDatetime :=
  (windows.map Prod.snd).min?.getD now_data

/-- `run_pass`. -/
def run_pass (since : Option UtcDatetime) : Pass (Option UtcDatetime) := do
  let metrics := settings.metrics
  let missing := (metrics.map Metric.kind).filter fun kind => kind ∉ WINDOW_KINDS
  if missing ≠ [] then
    Program.raise (.value_error ("no telemetry column for metric kind(s): " ++
      toString (missing.insertionSort (· ≤ ·))))
  else
  match ← Store.data_now with
  | none =>
    set_devices_forecast 0
    pure none
  | some now_data =>
    if since.any (fun since => decide (now_data ≤ since)) then pure (some now_data)
    else
    let windows ← Program.lift (metric_windows settings now_data)
    let window ← Store.load_window (longest_window now_data windows)
    let alert_states ← Store.latest_alert_states
    Program.forEach window fun (device_id, by_kind) =>
      Program.forEach windows fun (metric, window_start) =>
        forecast_metric settings now_data alert_states device_id by_kind metric window_start
    set_devices_forecast window.length
    pure (some now_data)

end planter_telemetry.analytics.service
