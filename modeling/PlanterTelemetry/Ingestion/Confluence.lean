import PlanterTelemetry.Ingestion.Handle
import PlanterTelemetry.Library.Machine
import Mathlib.Data.List.Induction
import Mathlib.Order.WithBot
import Mathlib.Data.Set.Basic

open planter_telemetry.python planter_telemetry.contract planter_telemetry.migrations
open planter_telemetry.ingestion.core planter_telemetry.ingestion.db

namespace planter_telemetry.ingestion.service

variable (externals : Externals)

/-! ### The device registry as a join semilattice -/

/-- The span of device time a registry row stands for, growing both ways. -/
abbrev Span := WithBot (UtcDatetimeᵒᵈ × UtcDatetime)

def DeviceRow.span (row : DeviceRow) : UtcDatetimeᵒᵈ × UtcDatetime :=
  (OrderDual.toDual row.first_seen, row.last_seen)

/-- The span of every device, empty for one that is not in the registry. -/
def spans (db : Database) (device_id : String) : Span :=
  (db.devices.lookup device_id).elim ⊥ fun row => (DeviceRow.span row : Span)

/-- The single instant a valid message adds to its own device. -/
def message_span (item : Item) (device_id : String) : Span :=
  (valid_reading externals item).elim ⊥ fun reading =>
    if reading.device_id.val = device_id then (DeviceRow.span (device_row reading) : Span) else ⊥

/-- `LEAST` and `GREATEST` widen a row to the join of the two spans. -/
theorem span_widen (row : DeviceRow) (reading : TelemetryV1) :
    DeviceRow.span (widen reading.measured_at row) =
      DeviceRow.span row ⊔ DeviceRow.span (device_row reading) := rfl

theorem spans_after_handling (service : Service) (item : Item) :
    spans (after_handling externals service item).db =
      spans service.db ⊔ message_span externals item := by
  funext device_id
  rw [Pi.sup_apply]
  unfold spans message_span
  rw [after_handling_devices]
  cases hvalid : valid_reading externals item with
  | none => exact (sup_bot_eq _).symm
  | some reading =>
    simp only [lookup_upsert_device, Option.elim_some]
    by_cases hdevice : reading.device_id.val = device_id
    · rw [if_pos hdevice, if_pos hdevice]
      cases service.db.devices.lookup device_id with
      | none => simp
      | some row => simp [span_widen]
    · rw [if_neg hdevice, if_neg hdevice, sup_bot_eq]

def span_view : JoinView (after_handling externals) (String → Span) where
  view service := spans service.db
  contribution := message_span externals
  view_step := spans_after_handling externals

/-- The registry is determined by its spans: the device is the key. -/
theorem agree_of_spans_eq {first second : Database} (h : spans first = spans second) :
    first.devices.Agree second.devices := by
  rw [KeyedTable.agree_iff_lookup]
  intro device_id
  have hspan : spans first device_id = spans second device_id := congrFun h device_id
  unfold spans at hspan
  cases hfirst : first.devices.lookup device_id with
  | none =>
    cases hsecond : second.devices.lookup device_id with
    | none => rfl
    | some row => simp [hfirst, hsecond] at hspan
  | some row =>
    cases hsecond : second.devices.lookup device_id with
    | none => simp [hfirst, hsecond] at hspan
    | some other =>
      obtain ⟨-, hrow⟩ := KeyedTable.lookup_eq_some.mp hfirst
      obtain ⟨-, hother⟩ := KeyedTable.lookup_eq_some.mp hsecond
      have hseen : DeviceRow.span row = DeviceRow.span other := by
        simpa [hfirst, hsecond] using hspan
      obtain ⟨hfirst_seen, hlast_seen⟩ := Prod.mk.inj hseen
      rw [DeviceRow.ext (hrow.trans hother.symm) (OrderDual.toDual.injective hfirst_seen) hlast_seen]

/-! ### The telemetry keys as a union of sets -/

def key_view : JoinView (after_handling externals) (Set (String × UtcDatetime)) where
  view service := { key | key ∈ service.db.telemetry.keys }
  contribution item := { key | ∃ reading, valid_reading externals item = some reading ∧
    key = (reading_row reading).key }
  view_step service item := by
    ext key
    rw [after_handling_telemetry]
    cases hvalid : valid_reading externals item with
    | none => simp
    | some reading => simp [or_comm]

/-! ### The telemetry contents, for messages that agree on their keys -/

/-- No two valid messages, and no valid message and stored row, carry one key
    with different values. -/
structure Consistent (db : Database) (items : List Item) : Prop where
  messages : ∀ first ∈ items, ∀ second ∈ items, ∀ reading other,
    valid_reading externals first = some reading → valid_reading externals second = some other →
    (reading_row reading).key = (reading_row other).key → reading_row reading = reading_row other
  stored : ∀ item ∈ items, ∀ reading row, valid_reading externals item = some reading →
    row ∈ db.telemetry.rows → row.key = (reading_row reading).key → row = reading_row reading

/-- Consistent deliveries store each message's own row: no earlier row of the
    key can be a different one. -/
theorem mem_telemetry_handle_all {items : List Item} {service : Service}
    (hconsistent : Consistent externals service.db items) (row : TelemetryRow) :
    row ∈ (handle_all externals items service).db.telemetry.rows ↔
      row ∈ service.db.telemetry.rows ∨
        ∃ item ∈ items, ∃ reading, valid_reading externals item = some reading ∧
          row = reading_row reading := by
  induction items using List.reverseRecOn generalizing row with
  | nil => simp [handle_all]
  | append_singleton items item ih =>
    have hbefore := fun row => ih ⟨fun first hfirst second hsecond =>
        hconsistent.messages first (List.mem_append_left _ hfirst) second
          (List.mem_append_left _ hsecond),
      fun item hitem => hconsistent.stored item (List.mem_append_left _ hitem)⟩ row
    have hlast : item ∈ items ++ [item] := List.mem_append_right _ (List.mem_singleton_self item)
    rw [show handle_all externals (items ++ [item]) service =
        after_handling externals (handle_all externals items service) item by
      simp [handle_all], after_handling_telemetry]
    cases hvalid : valid_reading externals item with
    | none =>
      simp only [hbefore, List.mem_append, List.mem_singleton]
      constructor
      · rintro (hstored | ⟨other, hmem, hother⟩)
        · exact .inl hstored
        · exact .inr ⟨other, .inl hmem, hother⟩
      · rintro (hstored | ⟨other, hmem | rfl, reading, hreading, hrow⟩)
        · exact .inl hstored
        · exact .inr ⟨other, hmem, reading, hreading, hrow⟩
        · exact absurd (hvalid.symm.trans hreading) (by simp)
    | some reading =>
      rw [KeyedTable.mem_insertIgnore]
      constructor
      · rintro (hstored | ⟨-, rfl⟩)
        · rcases (hbefore row).mp hstored with hold | ⟨other, hmem, hother⟩
          · exact .inl hold
          · exact .inr ⟨other, List.mem_append_left _ hmem, hother⟩
        · exact .inr ⟨item, hlast, reading, hvalid, rfl⟩
      · rintro (hstored | ⟨other, hmem, reading', hreading', rfl⟩)
        · exact .inl ((hbefore row).mpr (.inl hstored))
        · cases List.mem_append.mp hmem with
          | inl hearlier => exact .inl ((hbefore _).mpr (.inr ⟨other, hearlier, reading', hreading', rfl⟩))
          | inr hother =>
            obtain rfl := List.mem_singleton.mp hother
            obtain rfl : reading = reading' := by simpa [hvalid] using hreading'
            by_cases hnew : (reading_row reading).key ∈
                (handle_all externals items service).db.telemetry.keys
            · obtain ⟨present, hpresent, hkey⟩ := KeyedTable.mem_keys.mp hnew
              suffices heq : present = reading_row reading from .inl (heq ▸ hpresent)
              rcases (hbefore present).mp hpresent with hold | ⟨earlier, hmem', r, hr, rfl⟩
              · exact hconsistent.stored other hlast reading present hvalid hold hkey
              · exact hconsistent.messages earlier (List.mem_append_left _ hmem') other hlast
                  r reading hr hvalid hkey
            · exact .inr ⟨hnew, rfl⟩

/-- Rows are never removed or rewritten. -/
theorem telemetry_rows_subset (items : List Item) (service : Service) :
    service.db.telemetry.rows ⊆ (handle_all externals items service).db.telemetry.rows := by
  induction items generalizing service with
  | nil => exact List.Subset.refl _
  | cons item items ih =>
    refine List.Subset.trans ?_ (ih (after_handling externals service item))
    rw [after_handling_telemetry]
    cases valid_reading externals item with
    | none => exact List.Subset.refl _
    | some reading => exact KeyedTable.rows_subset_insertIgnore

/-- Two delivery lists of the same messages leave the same registry and the
    same telemetry keys, and the same telemetry rows where the values of a key
    agree. Handling a list again changes neither table. -/
theorem handle_all_confluent (externals : Externals) (start : Service) {first second : List Item}
    (hsame : ∀ item, item ∈ first ↔ item ∈ second) :
    (handle_all externals first start).db.devices.Agree
      (handle_all externals second start).db.devices ∧
    (∀ key, key ∈ (handle_all externals first start).db.telemetry.keys ↔
      key ∈ (handle_all externals second start).db.telemetry.keys) ∧
    (Consistent externals start.db first →
      (handle_all externals first start).db.telemetry.Agree
        (handle_all externals second start).db.telemetry) ∧
    (handle_all externals first (handle_all externals first start)).db.devices.Agree
      (handle_all externals first start).db.devices ∧
    (handle_all externals first (handle_all externals first start)).db.telemetry.Agree
      (handle_all externals first start).db.telemetry := by
  refine ⟨?_, ?_, ?_, ?_, ?_⟩
  · exact agree_of_spans_eq ((span_view externals).view_foldl_congr hsame)
  · intro key
    exact Set.ext_iff.mp ((key_view externals).view_foldl_congr hsame) key
  · intro hconsistent row
    have hconsistent' : Consistent externals start.db second :=
      ⟨fun a ha b hb => hconsistent.messages a ((hsame a).mpr ha) b ((hsame b).mpr hb),
        fun a ha => hconsistent.stored a ((hsame a).mpr ha)⟩
    rw [mem_telemetry_handle_all externals hconsistent, mem_telemetry_handle_all externals hconsistent']
    simp only [hsame]
  · exact agree_of_spans_eq ((span_view externals).view_foldl_again first start)
  · have hkeys := Set.ext_iff.mp ((key_view externals).view_foldl_again first start)
    intro row
    refine ⟨fun hrow => ?_, fun hrow => telemetry_rows_subset externals first _ hrow⟩
    obtain ⟨kept, hkept, hkey⟩ := KeyedTable.mem_keys.mp ((hkeys row.key).mp
      (KeyedTable.key_mem_keys hrow))
    rwa [← KeyedTable.row_eq_of_key_eq (telemetry_rows_subset externals first _ hkept) hrow hkey]

/-- A reading of `planter-00` as it is sent, and as the typed readers see it. -/
def reading_document (time : String) (at' : AwareDatetime) (level : ℚ) (level_text : String) :
    List UInt8 × List (String × Scalar) :=
  (("\x7b\"device_id\":\"planter-00\",\"measured_at\":\"" ++ time ++ "\",\"water_level\":" ++
      level_text ++ ",\"battery_voltage\":3.7\x7d").toUTF8.toList,
    [("device_id", .text "planter-00" none), ("measured_at", .text time (some at')),
     ("water_level", .number (.finite level)), ("battery_voltage", .number (.finite (37 / 10)))])

/-- 2026-03-01, by the hour. -/
def march_first (hours : Fin 24) : AwareDatetime where
  wall := 739675 * day + hours * hour
  utcoffset := 0
  wall_range := by
    unfold Representable datetime_end day hour second
    omega
  offset_range := utc_offset_range

def at_noon := reading_document "2026-03-01T12:00:00Z" (march_first 12) 40 "40.0"
def at_one := reading_document "2026-03-01T13:00:00Z" (march_first 13) 39 "39.0"

def noon_message : Item := ("planter/v1/planter-00/telemetry", at_noon.1)
def one_message : Item := ("planter/v1/planter-00/telemetry", at_one.1)

def hourly_reader : Externals := document_reader [at_noon, at_one]

theorem hourly_messages_consistent :
    Consistent hourly_reader Database.fresh [noon_message, one_message] := by
  have hkeys : ∀ first ∈ [noon_message, one_message], ∀ second ∈ [noon_message, one_message],
      (valid_reading hourly_reader first).map (fun reading => (reading_row reading).key) =
        (valid_reading hourly_reader second).map (fun reading => (reading_row reading).key) →
      first = second := by decide +kernel
  refine ⟨fun first hfirst second hsecond reading other hreading hother hkey => ?_, ?_⟩
  · obtain rfl := hkeys first hfirst second hsecond (by simp only [hreading, hother, Option.map, hkey])
    rw [Option.some.inj (hreading.symm.trans hother)]
  · intro item hitem reading row hreading hrow
    simp [Database.fresh] at hrow

/-- Two valid readings, delivered in order, and the other way round with one
    of them repeated. -/
theorem handle_all_confluent_hourly :
    (handle_all hourly_reader [noon_message, one_message] Service.fresh).db.devices.Agree
      (handle_all hourly_reader [one_message, noon_message, one_message] Service.fresh).db.devices ∧
    (handle_all hourly_reader [noon_message, one_message] Service.fresh).db.telemetry.Agree
      (handle_all hourly_reader [one_message, noon_message, one_message] Service.fresh).db.telemetry := by
  have hsame (item : Item) : item ∈ [noon_message, one_message] ↔
      item ∈ [one_message, noon_message, one_message] := by
    simp only [List.mem_cons, List.not_mem_nil, or_false]
    tauto
  have hconfluent := handle_all_confluent hourly_reader Service.fresh hsame
  exact ⟨hconfluent.1, hconfluent.2.2.1 hourly_messages_consistent⟩

end planter_telemetry.ingestion.service
