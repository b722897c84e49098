import PlanterTelemetry.Ingestion.Db

open planter_telemetry.python planter_telemetry.contract planter_telemetry.migrations
open planter_telemetry.ingestion.core planter_telemetry.ingestion.db

namespace planter_telemetry.ingestion.service

structure Counters where
  ingested : Nat := 0
  deduplicated : Nat := 0
  dead_lettered : Nat := 0
  out_of_order : Nat := 0
  deriving DecidableEq, Repr

/-- A message as it waits in `pending`: topic and payload. -/
abbrev Item := String × List UInt8

/-- What `_handle_one` reads and writes: the database behind the writer, the
    counters and the newest `measured_at` seen for each device. -/
structure Service where
  db : Database
  counters : Counters
  latest : String → Option UtcDatetime

/-- The service before its first message, on a freshly migrated database. -/
def Service.fresh : Service := ⟨.fresh, {}, fun _ => none⟩

/-- The effects of `_handle_one`: reads and writes of its own memory, and the
    four statements of the writer. -/
inductive Effect where
  | get_latest (device_id : String)
  | set_latest (device_id : String) (measured_at : UtcDatetime)
  | count (bump : Counters → Counters)
  | upsert_device (reading : TelemetryV1)
  | insert_reading (reading : TelemetryV1)
  | record_dedupe (reading : TelemetryV1)
  | insert_dead_letter (letter : DeadLetter)

abbrev Effect.Response : Effect → Type
  | .get_latest _ => Option UtcDatetime
  | .insert_reading _ => Bool
  | _ => Unit

/-- The statements of the writer are awaited and can fail; the rest cannot. -/
def Effect.awaited : Effect → Bool
  | .get_latest _ | .set_latest _ _ | .count _ => false
  | _ => true

def perform : Program.Semantics Effect.Response Service
  | .get_latest device_id, service => (service, service.latest device_id)
  | .set_latest device_id measured_at, service =>
    ({ service with latest := Function.update service.latest device_id (some measured_at) }, ())
  | .count bump, service => ({ service with counters := bump service.counters }, ())
  | .upsert_device reading, service =>
    ({ service with db := db.upsert_device service.db reading }, ())
  | .insert_reading reading, service =>
    let (stored, inserted) := db.insert_reading service.db reading
    ({ service with db := stored }, inserted)
  | .record_dedupe reading, service =>
    ({ service with db := db.record_dedupe service.db reading }, ())
  | .insert_dead_letter letter, service =>
    ({ service with db := db.insert_dead_letter service.db letter }, ())

/-- What an effect does to the database, the rest of the memory aside. -/
def Effect.write : Effect → Database → Database
  | .upsert_device reading, db => ingestion.db.upsert_device db reading
  | .insert_reading reading, db => (ingestion.db.insert_reading db reading).1
  | .record_dedupe reading, db => ingestion.db.record_dedupe db reading
  | .insert_dead_letter letter, db => ingestion.db.insert_dead_letter db letter
  | .get_latest _, db | .set_latest _ _, db | .count _, db => db

theorem perform_db (effect : Effect) (service : Service) :
    (perform effect service).1.db = effect.write service.db := by
  cases effect with
  | get_latest | set_latest | count | upsert_device | insert_reading | record_dedupe
  | insert_dead_letter => rfl

abbrev Handler := Program Effect.Response PyError

/-- `latest.get(device_id)`. -/
def get_latest (device_id : String) : Handler (Option UtcDatetime) :=
  Program.perform (Effect.get_latest device_id)

/-- `latest[device_id] = measured_at`. -/
def set_latest (device_id : String) (measured_at : UtcDatetime) : Handler Unit :=
  Program.perform (Effect.set_latest device_id measured_at)

def count (bump : Counters → Counters) : Handler Unit := Program.perform (Effect.count bump)

def Writer.upsert_device (reading : TelemetryV1) : Handler Unit :=
  Program.perform (Effect.upsert_device reading)

def Writer.insert_reading (reading : TelemetryV1) : Handler Bool :=
  Program.perform (Effect.insert_reading reading)

def Writer.record_dedupe (reading : TelemetryV1) : Handler Unit :=
  Program.perform (Effect.record_dedupe reading)

def Writer.insert_dead_letter (letter : DeadLetter) : Handler Unit :=
  Program.perform (Effect.insert_dead_letter letter)

/-- The in-memory part of the valid branch: out of order, or the device's newest
    reading so far. -/
def note_arrival (reading : TelemetryV1) : Handler Unit := do
  let newest ← get_latest reading.device_id.val
  if newest.any (fun newest => decide (reading.measured_at < newest)) then
    count fun c => { c with out_of_order := c.out_of_order + 1 }
  else
    set_latest reading.device_id.val reading.measured_at

/-- The statements of the valid branch, the registry first. -/
def store_reading (reading : TelemetryV1) : Handler Unit := do
  Writer.upsert_device reading
  if ← Writer.insert_reading reading then
    count fun c => { c with ingested := c.ingested + 1 }
  else
    Writer.record_dedupe reading
    count fun c => { c with deduplicated := c.deduplicated + 1 }

variable (externals : Externals)

/-- `_handle_one`. -/
def handle_one (item : Item) : Handler Unit := do
  match ← Program.lift (classify externals item.1 item.2) with
  | .valid_reading reading =>
    note_arrival reading
    store_reading reading
  | .dead_letter letter =>
    Writer.insert_dead_letter letter
    count fun c => { c with dead_lettered := c.dead_lettered + 1 }

/-- Handling a message by one uninterrupted call. -/
def after_handling (service : Service) (item : Item) : Service :=
  ((handle_one externals item).run perform service).1

/-- Handling a list of deliveries, one call each: a call that raises leaves
    what it wrote before, and the next message has a call of its own. -/
def handle_all (items : List Item) (service : Service) : Service :=
  items.foldl (after_handling externals) service

/-! ### What one call does -/

/-- The reading of a valid message. -/
def valid_reading (item : Item) : Option TelemetryV1 :=
  match classify externals item.1 item.2 with
  | .ok (.valid_reading reading) => some reading
  | _ => none

/-- A message is recorded once its telemetry key exists, or a dead-letter row
    for it does. -/
def recorded (db : Database) (item : Item) : Bool :=
  db.dead_letter.any (fun letter => letter.topic = item.1 ∧ letter.payload = item.2) ||
    (valid_reading externals item).any fun reading => (reading_row reading).key ∈ db.telemetry.keys

section Perform

variable {α : Type} (service : Service) (reading : TelemetryV1)

@[simp] theorem run_get_latest_bind (device_id : String)
    (next : Option UtcDatetime → Handler α) :
    ((get_latest device_id).bind next).run perform service =
      (next (service.latest device_id)).run perform service := rfl

@[simp] theorem run_set_latest (device_id : String) (measured_at : UtcDatetime) :
    (set_latest device_id measured_at).run perform service =
      ({ service with latest := Function.update service.latest device_id (some measured_at) },
        .ok ()) := rfl

@[simp] theorem run_count (bump : Counters → Counters) :
    (count bump).run perform service =
      ({ service with counters := bump service.counters }, .ok ()) := rfl

@[simp] theorem run_upsert_device_bind (next : Unit → Handler α) :
    ((Writer.upsert_device reading).bind next).run perform service =
      (next ()).run perform { service with db := db.upsert_device service.db reading } := rfl

@[simp] theorem run_insert_reading_bind (next : Bool → Handler α) :
    ((Writer.insert_reading reading).bind next).run perform service =
      (next (db.insert_reading service.db reading).2).run perform
        { service with db := (db.insert_reading service.db reading).1 } := rfl

@[simp] theorem run_record_dedupe_bind (next : Unit → Handler α) :
    ((Writer.record_dedupe reading).bind next).run perform service =
      (next ()).run perform { service with db := db.record_dedupe service.db reading } := rfl

@[simp] theorem run_insert_dead_letter_bind (letter : DeadLetter) (next : Unit → Handler α) :
    ((Writer.insert_dead_letter letter).bind next).run perform service =
      (next ()).run perform { service with db := db.insert_dead_letter service.db letter } := rfl

end Perform

/-- Noting an arrival only touches memory. -/
theorem run_note_arrival (reading : TelemetryV1) (service : Service) :
    ∃ after, (note_arrival reading).run perform service = (after, .ok ()) ∧
      after.db = service.db := by
  simp only [note_arrival, Program.bind_eq, run_get_latest_bind]
  split
  · exact ⟨_, run_count service _, rfl⟩
  · exact ⟨_, run_set_latest service _ _, rfl⟩

/-- Storing a reading completes, and its statements are those of `accept`. -/
theorem run_store_reading (reading : TelemetryV1) (service : Service) :
    ∃ after, (store_reading reading).run perform service = (after, .ok ()) ∧
      after.db = accept service.db reading := by
  simp only [store_reading, Program.bind_eq, run_upsert_device_bind, run_insert_reading_bind, accept]
  split
  · exact ⟨_, run_count _ _, rfl⟩
  · rw [run_record_dedupe_bind]
    exact ⟨_, run_count _ _, rfl⟩

variable {externals} {item : Item} {service : Service}

/-- A message that classification does not survive leaves everything as it
    was: the exception comes before the first statement. -/
theorem run_handle_one_error {error : PyError}
    (hclassify : classify externals item.1 item.2 = .error error) :
    (handle_one externals item).run perform service = (service, .error error) := by
  simp only [handle_one, hclassify, Program.lift_error, Program.bind_eq, Program.raise_bind,
    Program.run_raise]

/-- A valid reading always completes. -/
theorem run_handle_one_valid (service : Service) {reading : TelemetryV1}
    (hclassify : classify externals item.1 item.2 = .ok (.valid_reading reading)) :
    ∃ after, (handle_one externals item).run perform service = (after, .ok ()) ∧
      after.db = accept service.db reading := by
  obtain ⟨noted, hnote, hdb⟩ := run_note_arrival reading service
  obtain ⟨after, hstore, haccepted⟩ := run_store_reading reading noted
  refine ⟨after, ?_, hdb ▸ haccepted⟩
  simp only [handle_one, hclassify, Program.lift_ok, Program.bind_eq, Program.ret_bind]
  rw [Program.run_bind_of_ok hnote, hstore]

/-- A dead letter is appended, whatever is stored already. -/
theorem run_handle_one_dead_letter (service : Service) {letter : DeadLetter}
    (hclassify : classify externals item.1 item.2 = .ok (.dead_letter letter)) :
    ∃ after, (handle_one externals item).run perform service = (after, .ok ()) ∧
      after.db = db.insert_dead_letter service.db letter := by
  simp only [handle_one, hclassify, Program.lift_ok, Program.bind_eq, Program.ret_bind,
    run_insert_dead_letter_bind]
  exact ⟨_, run_count _ _, rfl⟩

/-- The telemetry table after one call. -/
theorem after_handling_telemetry (service : Service) (item : Item) :
    (after_handling externals service item).db.telemetry =
      match valid_reading externals item with
      | some reading => service.db.telemetry.insertIgnore (reading_row reading)
      | none => service.db.telemetry := by
  unfold after_handling valid_reading
  match hclassify : classify externals item.1 item.2 with
  | .error error =>
    rw [run_handle_one_error hclassify]
  | .ok (.valid_reading reading) =>
    obtain ⟨after, hrun, hdb⟩ := run_handle_one_valid service hclassify
    rw [hrun]
    simp only [hdb, accept_telemetry]
  | .ok (.dead_letter letter) =>
    obtain ⟨after, hrun, hdb⟩ := run_handle_one_dead_letter service hclassify
    rw [hrun]
    simp only [hdb, insert_dead_letter_telemetry]

/-- The device registry after one call. -/
theorem after_handling_devices (service : Service) (item : Item) :
    (after_handling externals service item).db.devices =
      match valid_reading externals item with
      | some reading => (db.upsert_device service.db reading).devices
      | none => service.db.devices := by
  unfold after_handling valid_reading
  match hclassify : classify externals item.1 item.2 with
  | .error error =>
    rw [run_handle_one_error hclassify]
  | .ok (.valid_reading reading) =>
    obtain ⟨after, hrun, hdb⟩ := run_handle_one_valid service hclassify
    rw [hrun]
    simp only [hdb, accept_devices]
  | .ok (.dead_letter letter) =>
    obtain ⟨after, hrun, hdb⟩ := run_handle_one_dead_letter service hclassify
    rw [hrun]
    simp only [hdb, insert_dead_letter_devices]

/-- What is recorded stays recorded, whatever statement comes next. -/
theorem recorded_perform (effect : Effect) (h : recorded externals service.db item = true) :
    recorded externals (perform effect service).1.db item = true := by
  unfold recorded at h ⊢
  rw [Bool.or_eq_true] at h ⊢
  cases effect with
  | get_latest | set_latest | count | upsert_device | record_dedupe => exact h
  | insert_reading reading =>
    apply h.imp_right
    intro hstored
    obtain ⟨stored, hvalid, hkey⟩ := (Option.any_eq_true _ _).mp hstored
    refine (Option.any_eq_true _ _).mpr ⟨stored, hvalid, decide_eq_true ?_⟩
    exact KeyedTable.mem_keys_insertIgnore.mpr (.inl (of_decide_eq_true hkey))
  | insert_dead_letter letter =>
    apply h.imp_left
    intro hletter
    simp only [perform, db.insert_dead_letter, List.any_append, hletter, Bool.true_or]

/-- A call that returns has recorded its message. -/
theorem recorded_of_run_ok {after : Service}
    (h : (handle_one externals item).run perform service = (after, .ok ())) :
    recorded externals after.db item = true := by
  unfold recorded valid_reading
  match hclassify : classify externals item.1 item.2 with
  | .error error =>
    rw [run_handle_one_error hclassify] at h
    cases h
  | .ok (.valid_reading reading) =>
    obtain ⟨final, hrun, hdb⟩ := run_handle_one_valid service hclassify
    rw [hrun] at h
    cases h
    simp [hdb]
  | .ok (.dead_letter letter) =>
    obtain ⟨final, hrun, hdb⟩ := run_handle_one_dead_letter service hclassify
    rw [hrun] at h
    cases h
    obtain ⟨htopic, hpayload⟩ := classify_dead_letter hclassify
    simp [hdb, db.insert_dead_letter, htopic, hpayload]

end planter_telemetry.ingestion.service
