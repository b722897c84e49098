import PlanterTelemetry.Library.Table
import PlanterTelemetry.Ingestion.Core
import PlanterTelemetry.Analytics.Model

open planter_telemetry.python planter_telemetry.contract
open planter_telemetry.ingestion.core planter_telemetry.analytics.model

namespace planter_telemetry.migrations

/-! ### Tables, with the columns that some modelled statement reads or writes -/

structure TelemetryRow where
  device_id : String
  measured_at : UtcDatetime
  water_level : PyFloat ℚ
  battery_voltage : PyFloat ℚ
  schema_version : Nat
  deriving DecidableEq

/-- `UNIQUE (device_id, measured_at)`. -/
def TelemetryRow.key (row : TelemetryRow) : String × UtcDatetime :=
  (row.device_id, row.measured_at)

instance : LawfulBEq (String × UtcDatetime) := inferInstance

/-- `device_id` is the primary key. -/
@[ext]
structure DeviceRow where
  device_id : String
  first_seen : UtcDatetime
  last_seen : UtcDatetime
  deriving DecidableEq

structure IngestEventRow where
  event : String
  device_id : String
  measured_at : UtcDatetime
  deriving DecidableEq

structure ForecastRow where
  device_id : String
  kind : String
  as_of : UtcDatetime
  status : Status
  target_value : ℚ
  latest_value : Option ℚ
  crosses_at : Option UtcDatetime
  crosses_at_earliest : Option UtcDatetime
  crosses_at_latest : Option UtcDatetime
  slope_per_hour : Option ℚ
  residual_mad : Option ℚ
  fit_points : Option Nat
  segment_points : Option Nat
  fit_span_seconds : Option ℚ
  truncated : Bool
  deriving DecidableEq

/-- `PRIMARY KEY (device_id, kind, as_of)`. -/
def ForecastRow.key (row : ForecastRow) : String × String × UtcDatetime :=
  (row.device_id, row.kind, row.as_of)

/-- What one alert decision says, without the columns about its delivery. -/
structure AlertDecision where
  device_id : String
  kind : String
  state : AlertTransition
  as_of : UtcDatetime
  crosses_at : UtcDatetime
  horizon_seconds : ℚ
  threshold_seconds : ℚ
  deriving DecidableEq

structure AlertEventRow extends AlertDecision where
  id : Nat
  notified : Bool := false
  notify_error : Option String := none
  deriving DecidableEq

/-- `UNIQUE (device_id, kind, as_of, state)`. -/
def AlertDecision.key (row : AlertDecision) : String × String × UtcDatetime × AlertTransition :=
  (row.device_id, row.kind, row.as_of, row.state)

def AlertEventRow.key (row : AlertEventRow) : String × String × UtcDatetime × AlertTransition :=
  row.toAlertDecision.key

instance : LawfulBEq (String × String × UtcDatetime × AlertTransition) := inferInstance

/-- The database that ingestion and analytics share. `dead_letter` and
    `ingest_events` have no key that a statement could conflict with. The
    identity column of `alert_events` has handed out every id below `next_id`. -/
structure Database where
  telemetry : KeyedTable TelemetryRow.key
  devices : KeyedTable DeviceRow.device_id
  dead_letter : List DeadLetter
  ingest_events : List IngestEventRow
  forecasts : KeyedTable ForecastRow.key
  alert_events : KeyedTable AlertEventRow.key
  next_id : Nat
  ids_issued : ∀ row ∈ alert_events.rows, row.id < next_id

/-- A freshly migrated database. -/
def Database.fresh : Database where
  telemetry := .empty
  devices := .empty
  dead_letter := []
  ingest_events := []
  forecasts := .empty
  alert_events := .empty
  next_id := 1
  ids_issued := by simp

end planter_telemetry.migrations
