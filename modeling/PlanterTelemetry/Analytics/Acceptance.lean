import PlanterTelemetry.Ingestion.Handle
import PlanterTelemetry.Analytics.Crossing
import PlanterTelemetry.Analytics.Window

open planter_telemetry.python planter_telemetry.contract planter_telemetry.migrations
open planter_telemetry.ingestion.core planter_telemetry.ingestion.db

namespace planter_telemetry.analytics.model

section Valid

variable {K : Type} [Field K] [LinearOrder K] [FloorRing K] {z : K}
  {samples : List (Sample UtcDatetime K)} {metric : Metric K} {now : UtcDatetime}
  {window_start : Option UtcDatetime} {fc : Forecast UtcDatetime K}

omit [Field K] [LinearOrder K] [FloorRing K] in
theorem is_valid_series_filter (keep : Sample UtcDatetime K → Bool)
    (h : is_valid_series samples = true) : is_valid_series (samples.filter keep) = true := by
  obtain ⟨hfinite, horder⟩ := is_valid_series_iff.mp h
  refine is_valid_series_iff.mpr ⟨fun sample hsample => ?_, horder.filter keep⟩
  exact hfinite sample (List.mem_of_mem_filter hsample)

theorem forecast_of_segments_status {cadence : Option K} {newest : Point UtcDatetime K}
    {segments : List (List (Point UtcDatetime K))}
    (h : forecast_of_segments z metric window_start cadence newest segments = .ok fc) :
    fc.status ≠ .invalid_series := by
  unfold forecast_of_segments at h
  simp only at h
  split at h
  · cases h
    exact nofun
  · split at h
    · split at h
      · cases h
        exact nofun
      · split at h
        · cases h
          exact nofun
        · rcases forecast_of_fit_eq_ok_iff.mp h with ⟨-, rfl⟩ | ⟨_, _, _, -, -, -, rfl⟩
          · exact nofun
          · unfold crossing_forecast
            simp only
            split <;> exact nofun
    · cases h
      exact nofun

/-- A valid series never has the status INVALID_SERIES. -/
theorem forecast_status_of_valid (hvalid : is_valid_series samples = true)
    (h : forecast z samples metric now window_start = .ok fc) : fc.status ≠ .invalid_series := by
  cases hnewest : (points samples).getLast? with
  | none =>
    rw [forecast_no_data hvalid hnewest] at h
    cases h
    exact nofun
  | some newest =>
    rw [forecast_eq hvalid hnewest] at h
    split at h
    · cases h
      exact nofun
    · split at h
      · cases h
        exact nofun
      · exact forecast_of_segments_status h

end Valid

end planter_telemetry.analytics.model

namespace planter_telemetry.ingestion.service

variable (externals : Externals)

/-- The valid readings among some deliveries, in the order of arrival. -/
def readings (items : List Item) : List TelemetryV1 := items.filterMap (valid_reading externals)

/-- The first reading of a list that carries its key. -/
def FirstOfKey (readings : List TelemetryV1) (reading : TelemetryV1) : Prop :=
  ∃ earlier later, readings = earlier ++ reading :: later ∧
    ∀ other ∈ earlier, (reading_row other).key ≠ (reading_row reading).key

/-- A list extended by one reading has its old firsts, and the new reading if
    its key is new. -/
theorem firstOfKey_append_iff {readings : List TelemetryV1} {last reading : TelemetryV1} :
    FirstOfKey (readings ++ [last]) reading ↔ FirstOfKey readings reading ∨
      (reading = last ∧ ∀ other ∈ readings, (reading_row other).key ≠ (reading_row last).key) := by
  constructor
  · rintro ⟨earlier, later, heq, hnew⟩
    rcases List.eq_nil_or_concat later with rfl | ⟨later, other, rfl⟩
    · obtain ⟨rfl, hlast⟩ := List.append_inj' heq rfl
      obtain rfl : last = reading := List.singleton_inj.mp hlast
      exact .inr ⟨rfl, hnew⟩
    · rw [List.concat_eq_append, ← List.cons_append, ← List.append_assoc] at heq
      obtain ⟨rfl, -⟩ := List.append_inj' heq rfl
      exact .inl ⟨earlier, later, rfl, hnew⟩
  · rintro (⟨earlier, later, rfl, hnew⟩ | ⟨rfl, hnew⟩)
    · exact ⟨earlier, later ++ [last], by simp, hnew⟩
    · exact ⟨readings, [], rfl, hnew⟩

theorem readings_append (items : List Item) (item : Item) :
    readings externals (items ++ [item]) =
      readings externals items ++ (valid_reading externals item).toList := by
  unfold readings
  rw [List.filterMap_append]
  cases hvalid : valid_reading externals item with
  | none => simp [hvalid]
  | some reading => simp [hvalid]

/-- The keys in the table are those of the valid readings, and its rows are the
    first readings of each key: a later value of a key is never stored. -/
theorem telemetry_handle_all (items : List Item) :
    (∀ key, key ∈ (handle_all externals items Service.fresh).db.telemetry.keys ↔
      ∃ reading ∈ readings externals items, (reading_row reading).key = key) ∧
    ∀ row, row ∈ (handle_all externals items Service.fresh).db.telemetry.rows ↔
      ∃ reading, FirstOfKey (readings externals items) reading ∧ row = reading_row reading := by
  induction items using List.reverseRecOn with
  | nil =>
    have hempty (reading : TelemetryV1) : ¬ FirstOfKey [] reading := by
      rintro ⟨earlier, later, heq, -⟩
      simp at heq
    refine ⟨fun key => ?_, fun row => ?_⟩
    · simp [handle_all, Service.fresh, Database.fresh, KeyedTable.keys, readings]
    · simp [handle_all, Service.fresh, Database.fresh, readings, hempty]
  | append_singleton items item ih =>
    obtain ⟨hkeys, hrows⟩ := ih
    have hstep : handle_all externals (items ++ [item]) Service.fresh =
        after_handling externals (handle_all externals items Service.fresh) item := by
      simp [handle_all]
    rw [hstep, after_handling_telemetry, readings_append]
    cases hvalid : valid_reading externals item with
    | none =>
      rw [Option.toList_none, List.append_nil]
      exact ⟨hkeys, hrows⟩
    | some last =>
      rw [Option.toList_some]
      refine ⟨fun key => ?_, fun row => ?_⟩
      · rw [KeyedTable.mem_keys_insertIgnore, hkeys]
        simp only [List.mem_append, List.mem_singleton, or_and_right, exists_or, exists_eq_left]
        exact or_congr Iff.rfl eq_comm
      · rw [KeyedTable.mem_insertIgnore, hrows, hkeys]
        simp only [firstOfKey_append_iff, or_and_right, exists_or]
        apply or_congr Iff.rfl
        constructor
        · rintro ⟨hnew, rfl⟩
          exact ⟨last, ⟨rfl, fun other hother hkey => hnew ⟨other, hother, hkey⟩⟩, rfl⟩
        · rintro ⟨reading, ⟨rfl, hnew⟩, rfl⟩
          refine ⟨?_, rfl⟩
          rintro ⟨other, hother, hkey⟩
          exact hnew other hother hkey

end planter_telemetry.ingestion.service

namespace planter_telemetry.analytics.service

open planter_telemetry.analytics.model planter_telemetry.analytics.db
open planter_telemetry.ingestion.service

/-! ### What ingestion accepts and the forecasting core can use -/

/-- The forecasting core can use every list of a window. -/
structure UsableWindow (db : Database) (cutoff : UtcDatetime) : Prop where
  valid : ∀ device_id by_kind, (device_id, by_kind) ∈ load_window db cutoff →
    ∀ kind ∈ WINDOW_KINDS, is_valid_series (by_kind.get kind) = true
  forecasts : ∀ device_id by_kind, (device_id, by_kind) ∈ load_window db cutoff →
    ∀ z metric now window_start fc, metric.kind ∈ WINDOW_KINDS →
      forecast z (metric_samples by_kind metric window_start) metric now (some window_start) = .ok fc →
      fc.status ≠ .invalid_series

theorem usableWindow_iff {db : Database} {cutoff : UtcDatetime} :
    UsableWindow db cutoff ↔ ∀ row ∈ db.telemetry.rows, cutoff < row.measured_at →
      row.water_level.isfinite = true ∧ row.battery_voltage.isfinite = true := by
  constructor
  · intro h row hrow hcutoff
    have hmem := mem_device_rows.mpr ⟨hrow, rfl, hcutoff⟩
    have hentry := mem_load_window.mpr ⟨List.ne_nil_of_mem hmem, rfl⟩
    have hnumbers (kind : String) (hkind : kind ∈ WINDOW_KINDS) :
        (value_of kind row).isfinite = true := by
      have hvalid := h.valid _ _ hentry kind hkind
      rw [ByKind.get_of _ hkind] at hvalid
      exact (is_valid_series_iff.mp hvalid).1 _ (List.mem_map_of_mem hmem)
    exact ⟨hnumbers "water" (by decide), hnumbers "battery" (by decide)⟩
  · intro h
    have hvalid : ∀ device_id by_kind, (device_id, by_kind) ∈ load_window db cutoff →
        ∀ kind ∈ WINDOW_KINDS, is_valid_series (by_kind.get kind) = true := by
      intro device_id by_kind hentry kind hkind
      obtain ⟨-, rfl⟩ := mem_load_window.mp hentry
      rw [ByKind.get_of _ hkind, is_valid_series_iff]
      refine ⟨fun sample hsample => ?_, List.pairwise_map.mpr (device_rows_pairwise db device_id cutoff)⟩
      obtain ⟨row, hrow, rfl⟩ := List.mem_map.mp hsample
      obtain ⟨hstored, -, hcutoff⟩ := mem_device_rows.mp hrow
      obtain ⟨hwater, hbattery⟩ := h row hstored hcutoff
      unfold sample_of value_of
      split
      · exact hwater
      · exact hbattery
    refine ⟨hvalid, ?_⟩
    intro device_id by_kind hentry z metric now window_start fc hkind hforecast
    have hseries := hvalid device_id by_kind hentry metric.kind hkind
    exact forecast_status_of_valid (is_valid_series_filter _ hseries) hforecast

/-- Whatever ingestion accepts the forecasting core can use: the contract keeps
    the values of a stored row in range, and so numbers, the keys of the table and
    the order of the query provide the rest. -/
theorem accepted_readings_usable (externals : Externals) (items : List Item) (cutoff : UtcDatetime) :
    UsableWindow (handle_all externals items Service.fresh).db cutoff := by
  apply usableWindow_iff.mpr
  intro row hrow _
  obtain ⟨reading, -, rfl⟩ := ((telemetry_handle_all externals items).2 row).mp hrow
  exact ⟨reading.water_level.isfinite, reading.battery_voltage.isfinite⟩

end planter_telemetry.analytics.service
