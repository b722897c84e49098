import PlanterTelemetry.Analytics.PassOrder
import PlanterTelemetry.Library.Interference
import Mathlib.Logic.Relation

open planter_telemetry.python planter_telemetry.migrations
open planter_telemetry.analytics.model planter_telemetry.analytics.config
open planter_telemetry.analytics.db

namespace planter_telemetry.analytics.service

/-! ### What a pass writes is about readings it has read -/

/-- A set of keys of readings: device and device time. -/
abbrev ReadingKeys := String × UtcDatetime → Prop

/-- The window holds no samples but of these readings. -/
def WindowOf (keys : ReadingKeys) : (effect : Effect) → effect.Response → Prop
  | .load_window _, window => ∀ entry ∈ window, ∀ kind, ∀ sample ∈ entry.2.get kind,
      keys (entry.1, sample.at_time)
  | _, _ => True

/-- A forecast and a decision are about one of these readings. -/
def About (keys : ReadingKeys) : Effect → Prop
  | .insert_forecast row => keys (row.device_id, row.as_of)
  | .insert_alert_event decision => keys (decision.device_id, decision.as_of)
  | _ => True

variable {settings : AnalyticsSettings} {keys : ReadingKeys} {device_id : String} {metric : Metric ℚ}
  {fc : Forecast UtcDatetime ℚ}

theorem record_forecast_about (hkeys : ∀ as_of, fc.as_of = some as_of → keys (device_id, as_of)) :
    (record_forecast device_id fc).Guarantees (WindowOf keys) (About keys) := by
  unfold record_forecast Store.insert_forecast
  cases has : fc.as_of with
  | none => trivial
  | some as_of =>
    refine ⟨hkeys as_of has, fun written _ => ?_⟩
    cases written with
    | true => exact ⟨trivial, fun _ _ => trivial⟩
    | false => trivial

theorem handle_alert_about (previous : Option (AlertState UtcDatetime))
    (hkeys : ∀ as_of, fc.as_of = some as_of → keys (device_id, as_of)) :
    (handle_alert settings device_id metric fc previous).Guarantees (WindowOf keys) (About keys) := by
  rw [handle_alert_eq]
  cases hcalled : called_for settings device_id metric fc previous with
  | none => trivial
  | some decision =>
    obtain ⟨transition, as_of, -, has, hkey⟩ := called_for_key hcalled
    have hdecision : (decision.device_id, decision.as_of) = (device_id, as_of) :=
      congrArg (fun key => (key.1, key.2.2.1)) hkey
    refine ⟨?_, fun event_id _ => ?_⟩
    · change keys (decision.device_id, decision.as_of)
      exact hdecision ▸ hkeys as_of has
    · cases event_id with
      | none => trivial
      | some event_id =>
        refine Program.Guarantees.of_only ((announce_only_quiet event_id decision).mono ?_)
        intro effect hquiet
        cases effect with
        | insert_forecast | insert_alert_event => exact hquiet.elim
        | _ => trivial

/-- A pass writes about readings of the window it has read, and about no others. -/
theorem run_pass_about (settings : AnalyticsSettings) (since : Option UtcDatetime)
    (keys : ReadingKeys) :
    (run_pass settings since).Guarantees (WindowOf keys) (About keys) := by
  rw [run_pass_eq]
  refine ⟨trivial, fun now_data _ => ?_⟩
  unfold after_data_now
  cases now_data with
  | none => exact ⟨trivial, fun _ _ => trivial⟩
  | some now_data =>
    simp only
    split
    · trivial
    · refine Program.Guarantees.lift_bind fun windows _ => ⟨trivial, fun window hwindow => ?_⟩
      refine ⟨trivial, fun alert_states _ => ?_⟩
      simp only [Program.ret_bind]
      refine Program.Guarantees.bind ?_ fun _ => ⟨trivial, fun _ _ => trivial⟩
      refine Program.Guarantees.forEach fun entry hentry => Program.Guarantees.forEach fun pair _ => ?_
      unfold forecast_metric
      apply Program.Guarantees.lift_bind
      intro fc hforecast
      have hkeys (as_of : UtcDatetime) (has : fc.as_of = some as_of) : keys (entry.1, as_of) := by
        rw [(forecast_facts hforecast).as_of] at has
        obtain ⟨sample, hlast, rfl⟩ := Option.map_eq_some_iff.mp has
        have hsample := List.mem_of_getLast? hlast
        exact hwindow entry hentry pair.1.kind sample (List.mem_filter.mp hsample).1
      exact (record_forecast_about hkeys).bind fun _ => handle_alert_about _ hkeys

/-! ### What the tables hold -/

structure TablesAbout (keys : ReadingKeys) (db : Database) : Prop where
  forecasts : ∀ row ∈ db.forecasts.rows, keys (row.device_id, row.as_of)
  alert_events : ∀ row ∈ db.alert_events.rows, keys (row.device_id, row.as_of)

/-- The readings in the database. -/
def stored (db : Database) : ReadingKeys := fun key => key ∈ db.telemetry.keys

theorem TablesAbout.mono {keys' : ReadingKeys} {db : Database} (h : TablesAbout keys db)
    (hmono : ∀ key, keys key → keys' key) : TablesAbout keys' db :=
  ⟨fun row hrow => hmono _ (h.forecasts row hrow), fun row hrow => hmono _ (h.alert_events row hrow)⟩

theorem overwrite_about (excluded old : ForecastRow) :
    ((overwrite excluded old).device_id, (overwrite excluded old).as_of) = (old.device_id, old.as_of) :=
  congrArg (fun key => (key.1, key.2.2)) (overwrite_key excluded old)

theorem tables_about_perform {around : Surroundings} {effect : Effect} {world : World}
    (h : TablesAbout keys world.db) (habout : About keys effect) :
    TablesAbout keys (perform around effect world).1.db := by
  obtain ⟨hforecasts, halert_events⟩ := h
  cases effect with
  | insert_forecast row =>
    refine ⟨fun other hother => ?_, halert_events⟩
    rcases KeyedTable.mem_upsert.mp hother with ⟨hold, -⟩ | ⟨old, hold, -, rfl⟩ | ⟨-, rfl⟩
    · exact hforecasts other hold
    · rw [overwrite_about]
      exact hforecasts old hold
    · exact habout
  | insert_alert_event decision =>
    refine ⟨hforecasts, fun other hother => ?_⟩
    rcases KeyedTable.mem_insertIgnore.mp hother with hold | ⟨-, rfl⟩
    · exact halert_events other hold
    · exact habout
  | mark_notified event_id error =>
    refine ⟨hforecasts, fun other hother => ?_⟩
    have hupdated : other ∈ (world.db.alert_events.updateWhere (fun row => row.id = event_id)
        (with_delivery error) fun _ => rfl).rows := hother
    rcases KeyedTable.mem_updateWhere.mp hupdated with ⟨hold, -⟩ | ⟨old, hold, -, rfl⟩
    · exact halert_events other hold
    · exact halert_events old hold
  | data_now | load_window | latest_alert_states | post_ntfy | count | set_devices_forecast =>
    exact ⟨hforecasts, halert_events⟩

theorem window_of_perform (around : Surroundings) (effect : Effect) (world : World) :
    WindowOf (stored world.db) effect (perform around effect world).2 := by
  cases effect with
  | load_window cutoff =>
    rintro ⟨device_id, by_kind⟩ hentry kind sample hsample
    obtain ⟨-, rfl⟩ := mem_load_window.mp hentry
    have hrow : ∃ row ∈ device_rows world.db device_id cutoff, row.measured_at = sample.at_time := by
      unfold ByKind.get at hsample
      split at hsample
      · obtain ⟨row, hrow, rfl⟩ := List.mem_map.mp hsample
        exact ⟨row, hrow, rfl⟩
      · split at hsample
        · obtain ⟨row, hrow, rfl⟩ := List.mem_map.mp hsample
          exact ⟨row, hrow, rfl⟩
        · exact absurd hsample List.not_mem_nil
    obtain ⟨row, hrow, htime⟩ := hrow
    obtain ⟨hmem, hdevice, -⟩ := mem_device_rows.mp hrow
    exact KeyedTable.mem_keys.mpr ⟨row, hmem, Prod.ext hdevice htime⟩
  | data_now | latest_alert_states | insert_forecast | insert_alert_event | post_ntfy | mark_notified
  | count | set_devices_forecast => trivial

theorem WindowOf.mono {keys' : ReadingKeys} {effect : Effect} {response : effect.Response}
    (h : WindowOf keys effect response) (hmono : ∀ key, keys key → keys' key) :
    WindowOf keys' effect response := by
  cases effect with
  | load_window cutoff =>
    exact fun entry hentry kind sample hsample => hmono _ (h entry hentry kind sample hsample)
  | data_now | latest_alert_states | insert_forecast | insert_alert_event | post_ntfy | mark_notified
  | count | set_devices_forecast => trivial

/-! ### Over a run -/

/-- What is left of the pass, if there is one, writes about these readings. -/
def Pc.WritesAbout (keys : ReadingKeys) : Pc → Prop
  | .connecting rest | .passing rest => rest.Guarantees (WindowOf keys) (About keys)
  | _ => True

/-- All that analytics wrote and will write is about stored readings. -/
structure Grounded (state : State) : Prop where
  tables : TablesAbout (stored state.world.db) state.world.db
  pc : ∀ keys, (∀ key, stored state.world.db key → keys key) → state.pc.WritesAbout keys

variable {around : Surroundings} {before after : State}

theorem writes_about_settle (keys : ReadingKeys) (state : State) (ending : PassEnd) :
    (state.settle ending).pc.WritesAbout keys := by
  cases ending with
  | returned | failed | raised => trivial

theorem stored_write {db : Database} (effect : ingestion.service.Effect) {key : String × UtcDatetime}
    (hkey : stored db key) : stored (effect.write db) key := by
  cases effect with
  | insert_reading reading => exact KeyedTable.mem_keys_insertIgnore.mpr (.inl hkey)
  | _ => exact hkey

theorem tables_about_write {db : Database} (effect : ingestion.service.Effect)
    (h : TablesAbout keys db) : TablesAbout keys (effect.write db) := by
  obtain ⟨hforecasts, halert_events⟩ := h
  cases effect with
  | get_latest | set_latest | count | upsert_device | insert_reading | record_dedupe
  | insert_dead_letter => exact ⟨hforecasts, halert_events⟩

theorem stored_perform (around : Surroundings) (effect : Effect) (world : World) :
    stored (perform around effect world).1.db = stored world.db := by
  unfold stored
  rw [(telemetry_perform around effect world).1]

theorem grounded_step (h : Grounded before) (hstep : Step around before after) : Grounded after := by
  obtain ⟨action, haction⟩ := hstep
  obtain ⟨htables, hpc⟩ := h
  have hsettle (ending : PassEnd) : Grounded (before.settle ending) := by
    refine ⟨?_, fun keys _ => writes_about_settle keys before ending⟩
    rw [settle_world]
    exact htables
  cases stepped haction with
  | stopped | woke | returned | raised => exact ⟨htables, fun _ _ => trivial⟩
  | began => exact ⟨htables, fun keys _ => run_pass_about _ _ keys⟩
  | connected hat =>
    rw [hat] at hpc
    exact ⟨htables, hpc⟩
  | executed hat =>
    rw [hat] at hpc
    refine ⟨?_, fun keys hkeys => ?_⟩
    · dsimp only
      rw [stored_perform]
      exact tables_about_perform htables (hpc _ fun _ => id).1
    · dsimp only at hkeys
      rw [stored_perform] at hkeys
      exact (hpc keys hkeys).2 _ ((window_of_perform around _ before.world).mono hkeys)
  | closed | not_connected | not_closed => exact hsettle _
  | failed took_effect hat =>
    rw [hat] at hpc
    refine ⟨?_, fun _ _ => trivial⟩
    cases took_effect with
    | false => exact htables
    | true =>
      dsimp only
      rw [if_pos rfl, stored_perform]
      exact tables_about_perform htables (hpc _ fun _ => id).1
  | tick | set_stop => exact ⟨htables, hpc⟩
  | commit effect =>
    refine ⟨?_, fun keys hkeys => hpc keys fun key hkey => hkeys key (stored_write effect hkey)⟩
    exact (tables_about_write effect htables).mono fun _ => stored_write effect
  | restart => exact ⟨htables, fun _ _ => trivial⟩

theorem grounded_run {settings : RunSettings} {sent : List Notification} {clock : ℚ} {state : State}
    (hrun : Relation.ReflTransGen (Step around) (started settings .fresh sent clock) state) :
    Grounded state := by
  induction hrun with
  | refl =>
    refine ⟨⟨fun row hrow => ?_, fun row hrow => ?_⟩, fun _ _ => trivial⟩
    · exact absurd hrow List.not_mem_nil
    · exact absurd hrow List.not_mem_nil
  | tail _ hstep ih => exact grounded_step ih hstep

end planter_telemetry.analytics.service
