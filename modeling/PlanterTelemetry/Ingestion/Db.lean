import PlanterTelemetry.Schema
import PlanterTelemetry.Library.Autocommit

open planter_telemetry.python planter_telemetry.contract planter_telemetry.migrations
open planter_telemetry.ingestion.core

namespace planter_telemetry.ingestion.db

/-- The values of `_INSERT_READING`. -/
def reading_row (reading : TelemetryV1) : TelemetryRow where
  device_id := reading.device_id.val
  measured_at := reading.measured_at
  water_level := reading.water_level.val
  battery_voltage := reading.battery_voltage.val
  schema_version := reading.schema_version.val

/-- The values of `_UPSERT_DEVICE`. -/
def device_row (reading : TelemetryV1) : DeviceRow where
  device_id := reading.device_id.val
  first_seen := reading.measured_at
  last_seen := reading.measured_at

/-- `SET first_seen = LEAST(...), last_seen = GREATEST(...)`. -/
def widen (measured_at : UtcDatetime) (row : DeviceRow) : DeviceRow :=
  { row with first_seen := min row.first_seen measured_at
             last_seen := max row.last_seen measured_at }

/-- `Writer.insert_reading`; the response is `rowcount == 1`. -/
def insert_reading (db : Database) (reading : TelemetryV1) : Database × Bool :=
  ({ db with telemetry := db.telemetry.insertIgnore (reading_row reading) },
    decide ((reading_row reading).key ∉ db.telemetry.keys))

/-- `Writer.upsert_device`. -/
def upsert_device (db : Database) (reading : TelemetryV1) : Database :=
  { db with
    devices := db.devices.upsert (device_row reading) (widen reading.measured_at) fun _ => rfl }

/-- `Writer.record_dedupe`. -/
def record_dedupe (db : Database) (reading : TelemetryV1) : Database :=
  { db with ingest_events := db.ingest_events ++
      [⟨"deduplicated", reading.device_id.val, reading.measured_at⟩] }

/-- `Writer.insert_dead_letter`. -/
def insert_dead_letter (db : Database) (letter : DeadLetter) : Database :=
  { db with dead_letter := db.dead_letter ++ [letter] }

/-- The statements of one accepted reading: the registry, the reading, and an
    event if its key was stored before. -/
def accept (db : Database) (reading : TelemetryV1) : Database :=
  let (stored, inserted) := insert_reading (upsert_device db reading) reading
  if inserted then stored else record_dedupe stored reading

@[simp] theorem reading_row_key (reading : TelemetryV1) :
    (reading_row reading).key = (reading.device_id.val, reading.measured_at) := rfl

/-- A first reading opens the device's row, a later one widens it, and no other
    device is touched. -/
theorem lookup_upsert_device (db : Database) (reading : TelemetryV1) (device_id : String) :
    (upsert_device db reading).devices.lookup device_id =
      if reading.device_id.val = device_id then
        some ((db.devices.lookup device_id).elim (device_row reading) (widen reading.measured_at))
      else db.devices.lookup device_id :=
  KeyedTable.lookup_upsert _ db.devices (device_row reading) device_id

section Frame

variable (db : Database) (reading : TelemetryV1) (letter : DeadLetter)

@[simp] theorem insert_reading_devices : (insert_reading db reading).1.devices = db.devices := rfl
@[simp] theorem insert_reading_dead_letter :
    (insert_reading db reading).1.dead_letter = db.dead_letter := rfl
@[simp] theorem insert_reading_forecasts :
    (insert_reading db reading).1.forecasts = db.forecasts := rfl
@[simp] theorem insert_reading_alert_events :
    (insert_reading db reading).1.alert_events = db.alert_events := rfl
@[simp] theorem upsert_device_telemetry :
    (upsert_device db reading).telemetry = db.telemetry := rfl
@[simp] theorem upsert_device_dead_letter :
    (upsert_device db reading).dead_letter = db.dead_letter := rfl
@[simp] theorem upsert_device_forecasts :
    (upsert_device db reading).forecasts = db.forecasts := rfl
@[simp] theorem upsert_device_alert_events :
    (upsert_device db reading).alert_events = db.alert_events := rfl
@[simp] theorem record_dedupe_telemetry :
    (record_dedupe db reading).telemetry = db.telemetry := rfl
@[simp] theorem record_dedupe_devices :
    (record_dedupe db reading).devices = db.devices := rfl
@[simp] theorem record_dedupe_dead_letter :
    (record_dedupe db reading).dead_letter = db.dead_letter := rfl
@[simp] theorem insert_dead_letter_telemetry :
    (insert_dead_letter db letter).telemetry = db.telemetry := rfl
@[simp] theorem insert_dead_letter_devices :
    (insert_dead_letter db letter).devices = db.devices := rfl

@[simp] theorem accept_telemetry :
    (accept db reading).telemetry = db.telemetry.insertIgnore (reading_row reading) := by
  unfold accept
  simp only
  split <;> rfl
@[simp] theorem accept_devices :
    (accept db reading).devices = (upsert_device db reading).devices := by
  unfold accept
  simp only
  split <;> rfl
@[simp] theorem accept_dead_letter : (accept db reading).dead_letter = db.dead_letter := by
  unfold accept
  simp only
  split <;> rfl
@[simp] theorem accept_forecasts : (accept db reading).forecasts = db.forecasts := by
  unfold accept
  simp only
  split <;> rfl
@[simp] theorem accept_alert_events : (accept db reading).alert_events = db.alert_events := by
  unfold accept
  simp only
  split <;> rfl

end Frame

end planter_telemetry.ingestion.db
