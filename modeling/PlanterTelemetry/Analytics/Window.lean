import PlanterTelemetry.Analytics.Service
import Mathlib.Data.List.Induction

open planter_telemetry.python planter_telemetry.migrations planter_telemetry.analytics.model
open planter_telemetry.analytics.db planter_telemetry.analytics.service

namespace planter_telemetry.analytics.db

/-! ### The rows of one device -/

/-- The rows of one device newer than the cutoff, in device-time order. -/
def device_rows (db : Database) (device_id : String) (cutoff : UtcDatetime) : List TelemetryRow :=
  (select_window db cutoff).filter fun row => row.device_id = device_id

theorem mem_select_window {db : Database} {cutoff : UtcDatetime} {row : TelemetryRow} :
    row ∈ select_window db cutoff ↔ row ∈ db.telemetry.rows ∧ cutoff < row.measured_at := by
  rw [select_window, List.mem_insertionSort, List.mem_filter, decide_eq_true_iff]

theorem mem_device_rows {db : Database} {device_id : String} {cutoff : UtcDatetime}
    {row : TelemetryRow} :
    row ∈ device_rows db device_id cutoff ↔
      row ∈ db.telemetry.rows ∧ row.device_id = device_id ∧ cutoff < row.measured_at := by
  rw [device_rows, List.mem_filter, mem_select_window, decide_eq_true_iff]
  tauto

/-- The rows of a device are strictly increasing in time: the query sorts them,
    and no two rows of a device share a time. -/
theorem device_rows_pairwise (db : Database) (device_id : String) (cutoff : UtcDatetime) :
    (device_rows db device_id cutoff).Pairwise fun a b => a.measured_at < b.measured_at := by
  have hsorted : (select_window db cutoff).Pairwise WindowOrder := List.pairwise_insertionSort _ _
  have hkeys : ((select_window db cutoff).map TelemetryRow.key).Nodup := by
    have hperm := (List.perm_insertionSort WindowOrder
      (db.telemetry.rows.filter fun row => cutoff < row.measured_at)).map TelemetryRow.key
    refine hperm.nodup_iff.mpr (db.telemetry.unique.sublist ?_)
    exact List.filter_sublist.map _
  have hstrict := hsorted.and (List.pairwise_map.mp hkeys)
  refine (hstrict.filter _).imp_of_mem fun {a b} ha hb hab => ?_
  obtain ⟨horder, hne⟩ := hab
  have hdevice : a.device_id = b.device_id :=
    (of_decide_eq_true (List.mem_filter.mp ha).2).trans
      (of_decide_eq_true (List.mem_filter.mp hb).2).symm
  rcases (Prod.Lex.toLex_le_toLex).mp horder with hlt | ⟨-, hle⟩
  · exact absurd hdevice (ne_of_lt hlt)
  · refine lt_of_le_of_ne hle fun htime => hne ?_
    exact Prod.ext hdevice htime

/-- The rows of a device are determined by which rows they are. -/
theorem device_rows_eq_of_mem_iff {db : Database} {device_id : String} {cutoff : UtcDatetime}
    {rows : List TelemetryRow}
    (hsorted : rows.Pairwise fun a b => a.measured_at < b.measured_at)
    (hmem : ∀ row, row ∈ rows ↔ row ∈ device_rows db device_id cutoff) :
    rows = device_rows db device_id cutoff := by
  have hirrefl : Std.Irrefl fun a b : TelemetryRow => a.measured_at < b.measured_at :=
    ⟨fun a => lt_irrefl a.measured_at⟩
  have hantisymm : Std.Antisymm fun a b : TelemetryRow => a.measured_at < b.measured_at :=
    ⟨fun a b hab hba => absurd hab (lt_asymm hba)⟩
  exact hsorted.eq_of_mem_iff (device_rows_pairwise db device_id cutoff) hmem

/-- A later cutoff keeps the newer rows. -/
theorem device_rows_filter (db : Database) (device_id : String) {cutoff later : UtcDatetime}
    (hle : cutoff ≤ later) :
    (device_rows db device_id cutoff).filter (fun row => later < row.measured_at) =
      device_rows db device_id later := by
  apply device_rows_eq_of_mem_iff ((device_rows_pairwise db device_id cutoff).filter _)
  intro row
  rw [List.mem_filter, mem_device_rows, mem_device_rows, decide_eq_true_iff]
  constructor
  · rintro ⟨⟨hrow, hdevice, -⟩, hlater⟩
    exact ⟨hrow, hdevice, hlater⟩
  · rintro ⟨hrow, hdevice, hlater⟩
    exact ⟨⟨hrow, hdevice, lt_of_le_of_lt hle hlater⟩, hlater⟩

/-! ### The window by device -/

def sample_of (value : TelemetryRow → PyFloat ℚ) (row : TelemetryRow) : Sample UtcDatetime ℚ :=
  ⟨row.measured_at, value row⟩

/-- The two series of some rows of one device. -/
def ByKind.of (rows : List TelemetryRow) : ByKind where
  water := rows.map (sample_of TelemetryRow.water_level)
  battery := rows.map (sample_of TelemetryRow.battery_voltage)

theorem ByKind.of_append (rows : List TelemetryRow) (row : TelemetryRow) :
    (ByKind.of rows).append row = ByKind.of (rows ++ [row]) := by
  simp [ByKind.of, ByKind.append, sample_of]

/-- What the grouping loop keeps: each device once, with its rows so far. -/
structure Grouped (rows : List TelemetryRow) (series : List (String × ByKind)) : Prop where
  nodup : (series.map Prod.fst).Nodup
  mem_iff : ∀ device_id by_kind, (device_id, by_kind) ∈ series ↔
    device_id ∈ rows.map TelemetryRow.device_id ∧
      by_kind = ByKind.of (rows.filter fun row => row.device_id = device_id)

theorem filter_append_device (rows : List TelemetryRow) (row : TelemetryRow) (device_id : String) :
    ByKind.of ((rows ++ [row]).filter fun row => row.device_id = device_id) =
      if device_id = row.device_id then
        (ByKind.of (rows.filter fun row => row.device_id = device_id)).append row
      else ByKind.of (rows.filter fun row => row.device_id = device_id) := by
  by_cases h : row.device_id = device_id
  · simp [List.filter_append, h, ByKind.of_append]
  · simp [List.filter_append, h, Ne.symm h]

theorem Grouped.devices {rows : List TelemetryRow} {series : List (String × ByKind)}
    (h : Grouped rows series) (device_id : String) :
    device_id ∈ series.map Prod.fst ↔ device_id ∈ rows.map TelemetryRow.device_id := by
  constructor
  · intro hmem
    obtain ⟨⟨name, by_kind⟩, hentry, rfl⟩ := List.mem_map.mp hmem
    exact ((h.mem_iff name by_kind).mp hentry).1
  · intro hmem
    exact List.mem_map.mpr ⟨(device_id, _), (h.mem_iff _ _).mpr ⟨hmem, rfl⟩, rfl⟩

theorem Grouped.append_row {rows : List TelemetryRow} {series : List (String × ByKind)}
    (h : Grouped rows series) (row : TelemetryRow) :
    Grouped (rows ++ [row]) (append_row series row) := by
  unfold db.append_row
  split
  · next hknown =>
    have hkept := (h.devices row.device_id).mp hknown
    refine ⟨?_, fun device_id by_kind => ?_⟩
    · have hsame : (series.map fun entry =>
          (entry.1, if entry.1 = row.device_id then entry.2.append row else entry.2)).map
          Prod.fst = series.map Prod.fst := by simp [Function.comp_def]
      have hnodup := h.nodup
      rw [← hsame] at hnodup
      exact hnodup
    · rw [filter_append_device, List.map_append, List.mem_append]
      constructor
      · intro hmem
        obtain ⟨⟨name, old⟩, hentry, heq⟩ := List.mem_map.mp hmem
        obtain ⟨hrows, rfl⟩ := (h.mem_iff name old).mp hentry
        obtain ⟨rfl, rfl⟩ := Prod.mk.inj heq
        exact ⟨.inl hrows, rfl⟩
      · rintro ⟨hdevice, rfl⟩
        have hrows : device_id ∈ rows.map TelemetryRow.device_id := by
          cases hdevice with
          | inl hrows => exact hrows
          | inr hlast =>
            rw [List.map_singleton, List.mem_singleton] at hlast
            exact hlast ▸ hkept
        exact List.mem_map.mpr ⟨(device_id, _), (h.mem_iff _ _).mpr ⟨hrows, rfl⟩, rfl⟩
  · next hnew =>
    have habsent : row.device_id ∉ rows.map TelemetryRow.device_id :=
      fun hmem => hnew ((h.devices row.device_id).mpr hmem)
    have hempty : rows.filter (fun other => other.device_id = row.device_id) = [] := by
      refine List.filter_eq_nil_iff.mpr fun other hother heq => habsent ?_
      exact of_decide_eq_true heq ▸ List.mem_map_of_mem hother
    refine ⟨?_, fun device_id by_kind => ?_⟩
    · rw [List.map_append]
      apply h.nodup.append (List.nodup_singleton _)
      simpa using hnew
    · rw [filter_append_device, List.map_append, List.mem_append, List.mem_append, h.mem_iff,
        List.mem_singleton, List.map_singleton, List.mem_singleton]
      by_cases hdevice : device_id = row.device_id
      · subst hdevice
        simp [habsent, hempty, ByKind.of]
      · simp [hdevice]

/-- The window lists each device with a row newer than the cutoff once, with
    its rows in device-time order. -/
theorem grouped_load_window (db : Database) (cutoff : UtcDatetime) :
    Grouped (select_window db cutoff) (load_window db cutoff) := by
  unfold load_window
  induction select_window db cutoff using List.reverseRecOn with
  | nil => exact ⟨List.nodup_nil, by simp⟩
  | append_singleton rows row ih =>
    rw [List.foldl_append]
    exact ih.append_row row

theorem mem_load_window {db : Database} {cutoff : UtcDatetime} {device_id : String}
    {by_kind : ByKind} :
    (device_id, by_kind) ∈ load_window db cutoff ↔
      device_rows db device_id cutoff ≠ [] ∧ by_kind = ByKind.of (device_rows db device_id cutoff) := by
  rw [(grouped_load_window db cutoff).mem_iff]
  apply and_congr_left
  intro _
  rw [device_rows, Ne, List.filter_eq_nil_iff, List.mem_map]
  push Not
  simp only [decide_eq_true_iff]

/-- The column that carries a metric kind. -/
def value_of (kind : String) (row : TelemetryRow) : PyFloat ℚ :=
  if kind = "water" then row.water_level else row.battery_voltage

/-- The samples of one device and kind newer than a cutoff. -/
def device_samples (db : Database) (device_id kind : String) (cutoff : UtcDatetime) :
    List (Sample UtcDatetime ℚ) :=
  (device_rows db device_id cutoff).map (sample_of (value_of kind))

theorem ByKind.get_of (rows : List TelemetryRow) {kind : String} (hkind : kind ∈ WINDOW_KINDS) :
    (ByKind.of rows).get kind = rows.map (sample_of (value_of kind)) := by
  rcases List.mem_cons.mp hkind with rfl | hkind
  · rfl
  · obtain rfl := List.mem_singleton.mp hkind
    rfl

/-- Each metric sees exactly its own window, whatever longer one was read. -/
theorem metric_samples_load_window {db : Database} {cutoff window_start : UtcDatetime}
    {device_id : String} {by_kind : ByKind} {metric : Metric ℚ}
    (hentry : (device_id, by_kind) ∈ load_window db cutoff) (hkind : metric.kind ∈ WINDOW_KINDS)
    (hle : cutoff ≤ window_start) :
    metric_samples by_kind metric window_start =
      device_samples db device_id metric.kind window_start := by
  obtain ⟨-, rfl⟩ := mem_load_window.mp hentry
  rw [metric_samples, ByKind.get_of _ hkind, device_samples, ← device_rows_filter db device_id hle,
    List.filter_map]
  rfl

/-! ### The newest reading of a device -/

def newest_reading (db : Database) (device_id : String) : Option UtcDatetime :=
  ((db.telemetry.rows.filter fun row => row.device_id = device_id).map
    TelemetryRow.measured_at).max?

theorem newest_reading_eq_some {db : Database} {device_id : String} {newest : UtcDatetime} :
    newest_reading db device_id = some newest ↔
      (∃ row ∈ db.telemetry.rows, row.device_id = device_id ∧ row.measured_at = newest) ∧
      ∀ row ∈ db.telemetry.rows, row.device_id = device_id → row.measured_at ≤ newest := by
  simp only [newest_reading, List.max?_eq_some_iff, List.mem_map, List.mem_filter,
    decide_eq_true_iff, forall_exists_index, and_imp, and_assoc]
  refine and_congr_right fun _ => ⟨fun h row hrow hdevice => h _ row hrow hdevice rfl, ?_⟩
  rintro h time row hrow hdevice rfl
  exact h row hrow hdevice

/-- The window of a device ends at its newest reading, or is empty. -/
theorem device_samples_last {db : Database} {device_id kind : String} {cutoff time : UtcDatetime} :
    (device_samples db device_id kind cutoff).getLast?.map Sample.at_time = some time ↔
      newest_reading db device_id = some time ∧ cutoff < time := by
  have hsamples : (device_samples db device_id kind cutoff).getLast?.map Sample.at_time =
      (device_rows db device_id cutoff).getLast?.map TelemetryRow.measured_at := by
    rw [device_samples, List.getLast?_map, Option.map_map]
    rfl
  rw [hsamples, newest_reading_eq_some]
  constructor
  · intro htime
    obtain ⟨last, hlast, rfl⟩ := Option.map_eq_some_iff.mp htime
    obtain ⟨earlier, hrows⟩ := List.getLast?_eq_some_iff.mp hlast
    have hmem : last ∈ device_rows db device_id cutoff := by simp [hrows]
    obtain ⟨hrow, hdevice, hnew⟩ := mem_device_rows.mp hmem
    refine ⟨⟨⟨last, hrow, hdevice, rfl⟩, fun row hrow hdevice => ?_⟩, hnew⟩
    by_cases hcutoff : cutoff < row.measured_at
    · have hother : row ∈ earlier ++ [last] := hrows ▸ mem_device_rows.mpr ⟨hrow, hdevice, hcutoff⟩
      have hsorted := device_rows_pairwise db device_id cutoff
      rw [hrows, List.pairwise_append] at hsorted
      cases List.mem_append.mp hother with
      | inl hearlier => exact le_of_lt (hsorted.2.2 row hearlier last (List.mem_singleton_self last))
      | inr hlast => exact le_of_eq (congrArg TelemetryRow.measured_at (List.mem_singleton.mp hlast))
    · exact (not_lt.mp hcutoff).trans hnew.le
  · rintro ⟨⟨⟨row, hrow, hdevice, rfl⟩, hnewest⟩, hcutoff⟩
    have hmem := mem_device_rows.mpr ⟨hrow, hdevice, hcutoff⟩
    cases hlast : (device_rows db device_id cutoff).getLast? with
    | none =>
      rw [List.getLast?_eq_none_iff] at hlast
      rw [hlast] at hmem
      cases hmem
    | some last =>
      -- both the last row of the window and the newest one bound each other
      obtain ⟨earlier, hrows⟩ := List.getLast?_eq_some_iff.mp hlast
      have hlastmem : last ∈ device_rows db device_id cutoff := by simp [hrows]
      obtain ⟨hstored, hsame, -⟩ := mem_device_rows.mp hlastmem
      have hle := hnewest last hstored hsame
      have hsorted := device_rows_pairwise db device_id cutoff
      rw [hrows, List.pairwise_append] at hsorted
      rw [hrows] at hmem
      cases List.mem_append.mp hmem with
      | inl hearlier =>
        exact absurd (hsorted.2.2 row hearlier last (List.mem_singleton_self last)) (not_lt.mpr hle)
      | inr hrow => rw [Option.map_some, List.mem_singleton.mp hrow]

end planter_telemetry.analytics.db
