import PlanterTelemetry.Schema
import Mathlib.Data.List.MinMax
import Mathlib.Data.Prod.Lex
import Mathlib.Data.String.Basic

open planter_telemetry.python planter_telemetry.migrations planter_telemetry.analytics.model

namespace planter_telemetry.analytics.db

def WINDOW_KINDS : List String := ["water", "battery"]

/-! ### The telemetry window -/

/-- `Store.data_now`. -/
def data_now (db : Database) : Option UtcDatetime :=
  (db.telemetry.rows.map TelemetryRow.measured_at).max?

/-- The value of one device in `load_window`: its samples by metric kind. -/
structure ByKind where
  water : List (Sample UtcDatetime ℚ)
  battery : List (Sample UtcDatetime ℚ)
  deriving DecidableEq

/-- `by_kind[kind]`. A pass checks its kinds first, so no other kind is asked. -/
def ByKind.get (by_kind : ByKind) (kind : String) : List (Sample UtcDatetime ℚ) :=
  if kind = "water" then by_kind.water
  else if kind = "battery" then by_kind.battery
  else []

def ByKind.append (by_kind : ByKind) (row : TelemetryRow) : ByKind where
  water := by_kind.water ++ [⟨row.measured_at, row.water_level⟩]
  battery := by_kind.battery ++ [⟨row.measured_at, row.battery_voltage⟩]

/-- `ORDER BY device_id, measured_at`. -/
def WindowOrder (a b : TelemetryRow) : Prop := toLex a.key ≤ toLex b.key

instance : DecidableRel WindowOrder := fun a b => inferInstanceAs (Decidable (toLex a.key ≤ toLex b.key))

instance : Std.Total WindowOrder := ⟨fun a b => le_total (toLex a.key) (toLex b.key)⟩

instance : IsTrans TelemetryRow WindowOrder := ⟨fun _ _ _ hab hbc => le_trans hab hbc⟩

/-- `_SELECT_WINDOW`. -/
def select_window (db : Database) (cutoff : UtcDatetime) : List TelemetryRow :=
  (db.telemetry.rows.filter fun row => cutoff < row.measured_at).insertionSort WindowOrder

/-- One turn of the grouping loop over the dict of devices. -/
def append_row (series : List (String × ByKind)) (row : TelemetryRow) : List (String × ByKind) :=
  if row.device_id ∈ series.map Prod.fst then
    series.map fun (device_id, by_kind) =>
      (device_id, if device_id = row.device_id then by_kind.append row else by_kind)
  else series ++ [(row.device_id, ByKind.append ⟨[], []⟩ row)]

/-- `Store.load_window`, as the items of the dict in insertion order. -/
def load_window (db : Database) (cutoff : UtcDatetime) : List (String × ByKind) :=
  (select_window db cutoff).foldl append_row []

/-! ### Alert states -/

/-- What the database returns among rows of equal `as_of`: some one of them. -/
structure TieBreak where
  pick : AlertDecision → List AlertDecision → AlertDecision
  pick_mem : ∀ first rest, pick first rest ∈ first :: rest

/-- The decisions of one (device, kind), in the order they were inserted. -/
def alert_history (db : Database) (device_id kind : String) : List AlertDecision :=
  (db.alert_events.rows.map AlertEventRow.toAlertDecision).filter fun decision =>
    decision.device_id = device_id ∧ decision.kind = kind

/-- The decisions that carry the newest `as_of`. -/
def newest_decisions (history : List AlertDecision) : List AlertDecision :=
  history.filter fun decision => history.all fun other => other.as_of ≤ decision.as_of

def latest_of_history (tie : TieBreak) (history : List AlertDecision) :
    Option (AlertState UtcDatetime) :=
  match newest_decisions history with
  | [] => none
  | first :: rest =>
    let latest := tie.pick first rest
    some ⟨latest.state, latest.as_of⟩

/-- `Store.latest_alert_states`, the dict by its `get`. -/
def latest_alert_states (tie : TieBreak) (db : Database) (device_id kind : String) :
    Option (AlertState UtcDatetime) :=
  latest_of_history tie (alert_history db device_id kind)

/-! ### Writes -/

/-- The values of `_INSERT_FORECAST`. -/
def forecast_row (device_id : String) (as_of : UtcDatetime) (fc : Forecast UtcDatetime ℚ) :
    ForecastRow where
  device_id := device_id
  kind := fc.kind
  as_of := as_of
  status := fc.status
  target_value := fc.target
  latest_value := fc.latest_value
  crosses_at := fc.crosses_at
  crosses_at_earliest := fc.crosses_at_earliest
  crosses_at_latest := fc.crosses_at_latest
  slope_per_hour := fc.fit.map Fit.slope_per_hour
  residual_mad := fc.fit.map Fit.residual_mad
  fit_points := fc.fit.map Fit.points
  segment_points := fc.fit.map Fit.segment_points
  fit_span_seconds := fc.fit.map Fit.span_seconds
  truncated := fc.fit.elim false Fit.truncated

/-- `DO UPDATE SET ... WHERE forecasts.status IS DISTINCT FROM EXCLUDED.status`. -/
def overwrite (excluded old : ForecastRow) : ForecastRow :=
  if old.status = excluded.status then old
  else { excluded with device_id := old.device_id, kind := old.kind, as_of := old.as_of }

theorem overwrite_key (excluded old : ForecastRow) : (overwrite excluded old).key = old.key := by
  unfold overwrite
  split <;> rfl

/-- The statement of `Store.insert_forecast`; the response is `rowcount == 1`. -/
def insert_forecast (db : Database) (row : ForecastRow) : Database × Bool :=
  ({ db with forecasts := db.forecasts.upsert row (overwrite row) (overwrite_key row) },
    match db.forecasts.lookup row.key with
    | none => true
    | some old => decide (old.status ≠ row.status))

/-- `Store.insert_alert_event`: the id of the new row, or none where the key
    exists. A conflict uses up an id of the identity column too. -/
def insert_alert_event (db : Database) (decision : AlertDecision) : Database × Option Nat :=
  ({ db with
      alert_events := db.alert_events.insertIgnore { decision with id := db.next_id }
      next_id := db.next_id + 1
      ids_issued := by
        intro row hrow
        rcases KeyedTable.mem_insertIgnore.mp hrow with hold | ⟨-, rfl⟩
        · exact Nat.lt_succ_of_lt (db.ids_issued row hold)
        · exact Nat.lt_succ_self _ },
    if decision.key ∈ db.alert_events.keys then none else some db.next_id)

/-- `_MARK_NOTIFIED` on one row. -/
def with_delivery (error : Option String) (row : AlertEventRow) : AlertEventRow :=
  { row with notified := error.isNone, notify_error := error }

/-- `Store.mark_notified`. -/
def mark_notified (db : Database) (event_id : Nat) (error : Option String) : Database :=
  { db with
    alert_events :=
      db.alert_events.updateWhere (fun row => row.id = event_id) (with_delivery error) fun _ => rfl
    ids_issued := by
      intro row hrow
      rcases KeyedTable.mem_updateWhere.mp hrow with ⟨hold, -⟩ | ⟨old, hold, -, rfl⟩
      · exact db.ids_issued row hold
      · exact db.ids_issued old hold }

/-! ### Views -/

/-- The row `forecasts_latest` shows for a (device, kind). -/
def latest_forecast (db : Database) (device_id kind : String) : Option ForecastRow :=
  (db.forecasts.rows.filter fun row => row.device_id = device_id ∧ row.kind = kind).argmax
    ForecastRow.as_of

/-- `forecasts_latest`, for the devices of the roster. -/
def forecasts_latest (db : Database) : List ForecastRow :=
  db.devices.rows.flatMap fun device =>
    ["water", "battery"].filterMap fun kind => latest_forecast db device.device_id kind

end planter_telemetry.analytics.db
