import PlanterTelemetry.Analytics.History
import PlanterTelemetry.Analytics.NewestSegment

open planter_telemetry.python planter_telemetry.contract planter_telemetry.migrations
open planter_telemetry.analytics.model planter_telemetry.analytics.config
open planter_telemetry.analytics.db planter_telemetry.ingestion.db

namespace planter_telemetry.analytics.service

variable {settings : AnalyticsSettings} {now_data : UtcDatetime}
  {windows : List (Metric ℚ × UtcDatetime)} {around : Surroundings} {world final : World}

/-! ### Readings after a pass -/

theorem rows_subset_accepted (readings : List TelemetryV1) (db : Database) :
    db.telemetry.rows ⊆ (readings.foldl accept db).telemetry.rows := by
  induction readings generalizing db with
  | nil => exact List.Subset.refl _
  | cons reading readings ih =>
    refine List.Subset.trans ?_ (ih (accept db reading))
    rw [accept_telemetry]
    exact KeyedTable.rows_subset_insertIgnore

theorem view_accepted (readings : List TelemetryV1) (db : Database) (device_id kind : String) :
    view (readings.foldl accept db) device_id kind = view db device_id kind := by
  induction readings generalizing db with
  | nil => rfl
  | cons reading readings ih =>
    rw [List.foldl_cons, ih, view_accept]

/-- Adding rows does not make the newest reading older. -/
theorem data_now_mono {first second : Database}
    (hrows : first.telemetry.rows ⊆ second.telemetry.rows) {watermark : UtcDatetime}
    (hfirst : data_now first = some watermark) (hsecond : data_now second = some now_data) :
    watermark ≤ now_data := by
  have hmem := (List.max?_eq_some_iff.mp hfirst).1
  obtain ⟨row, hrow, rfl⟩ := List.mem_map.mp hmem
  exact (List.max?_eq_some_iff.mp hsecond).2 row.measured_at (List.mem_map_of_mem (hrows hrow))

/-- Readings of other devices are not in the window of a device. -/
theorem device_samples_accepted {readings : List TelemetryV1} {device_id : String}
    (hother : ∀ reading ∈ readings, reading.device_id.val ≠ device_id) (db : Database) (kind : String)
    (cutoff : UtcDatetime) :
    device_samples (readings.foldl accept db) device_id kind cutoff =
      device_samples db device_id kind cutoff := by
  induction readings generalizing db with
  | nil => rfl
  | cons reading readings ih =>
    rw [List.foldl_cons, ih fun later hlater => hother later (List.mem_cons_of_mem _ hlater)]
    refine congrArg _ (device_rows_eq_of_mem_iff (device_rows_pairwise _ _ _) fun row => ?_)
    rw [mem_device_rows, mem_device_rows, accept_telemetry, KeyedTable.mem_insertIgnore]
    refine and_congr_left fun ⟨hdevice, _⟩ => or_iff_left ?_
    rintro ⟨-, rfl⟩
    exact hother reading List.mem_cons_self hdevice

/-! ### A full pass that changes nothing -/

/-- Every view that a full pass gets to is settled. -/
def ReachedSettled (settings : AnalyticsSettings) (now_data : UtcDatetime) (tie : TieBreak)
    (db : Database) : Prop :=
  ∀ windows, metric_windows settings now_data = .ok windows →
    ∀ job ∈ reached_jobs now_data (jobs db now_data windows),
      ∀ fc, job.forecast now_data = .ok fc →
        Settled settings job.device_id job.metric fc
          (latest_alert_states tie db job.device_id job.metric.kind)
          (view db job.device_id job.metric.kind)

/-- A full pass changes no row exactly if every view it gets to is settled. -/
theorem run_pass_unchanged_iff {result : Except PyError (Option UtcDatetime)}
    (hnow : data_now world.db = some now_data)
    (hfull : (run_pass settings none).run (perform around) world = (final, result)) :
    (final.db.forecasts = world.db.forecasts ∧ final.db.alert_events = world.db.alert_events) ↔
      ReachedSettled settings now_data around.tie world.db := by
  cases hwindows : metric_windows settings now_data with
  | error error =>
    rw [run_pass_without_windows hnow hwindows hfull]
    refine ⟨fun _ windows hok => ?_, fun _ => ⟨rfl, rfl⟩⟩
    rw [hwindows] at hok
    cases hok
  | ok windows =>
    obtain ⟨after, turned, hturns, hdb, -, -⟩ := run_pass_turns hnow hwindows hfull
    rw [hdb]
    constructor
    · rintro ⟨hforecasts, hevents⟩ other hother job hjob fc hforecast
      rw [hwindows] at hother
      cases hother
      have hadvanced := run_turns_reached [] (jobs_keys_nodup world.db hwindows)
        advanced_start hturns
      obtain ⟨fc', hforecast', hview⟩ := hadvanced.own job hjob
      obtain rfl := Except.ok.inj (hforecast.symm.trans hforecast')
      apply settled_of_act_eq
      rw [view_congr hforecasts hevents] at hview
      exact hview.symm
    · intro hsettled
      obtain ⟨after', result', hrun, -, hforecasts, hevents, -⟩ := run_turns_settled
        around world (fun job hjob fc hforecast => hsettled windows hwindows job hjob fc hforecast) rfl rfl
      obtain ⟨rfl, -⟩ := Prod.mk.inj (hturns.symm.trans hrun)
      exact ⟨hforecasts, hevents⟩

/-! ### The skipped pass -/

/-- The truncation flag of a fit is not written. -/
theorem settled_of_untruncated {device_id : String} {metric : Metric ℚ} {fc fc' : Forecast UtcDatetime ℚ}
    {previous : Option (AlertState UtcDatetime)} {v : View} (hsame : untruncated fc' = untruncated fc)
    (h : Settled settings device_id metric fc previous v) :
    Settled settings device_id metric fc' previous v := by
  have hkept : Settled settings device_id metric (untruncated fc) previous v := ⟨h.forecast, h.decision⟩
  rw [← hsame] at hkept
  exact ⟨hkept.forecast, hkept.decision⟩

/-- A forecast without a watermark writes nothing. -/
theorem settled_of_no_watermark {device_id : String} {metric : Metric ℚ} {fc : Forecast UtcDatetime ℚ}
    {previous : Option (AlertState UtcDatetime)} {v : View} (has : fc.as_of = none) :
    Settled settings device_id metric fc previous v where
  forecast as_of hsome := by
    rw [has] at hsome
    cases hsome
  decision decision hcalled := by
    unfold called_for at hcalled
    rw [has] at hcalled
    split at hcalled
    · next hnone _ => cases hnone
    · cases hcalled

/-- No device and metric has samples in its lookback that disturb the forecast
    that there was before. -/
def AllUndisturbed (settings : AnalyticsSettings) (now_data : UtcDatetime) (before after : Database) : Prop :=
  ∀ windows, metric_windows settings now_data = .ok windows →
    ∀ metric window_start, (metric, window_start) ∈ windows → ∀ device_id,
      Undisturbed metric (device_samples before device_id metric.kind window_start)
        (device_samples after device_id metric.kind window_start)

/-- A device without rows in the longest window has none in any. -/
theorem device_samples_eq_nil {db : Database} {device_id kind : String} {cutoff window_start : UtcDatetime}
    (hle : cutoff ≤ window_start) (hrows : device_rows db device_id cutoff = []) :
    device_samples db device_id kind window_start = [] := by
  rw [device_samples, ← device_rows_filter db device_id hle, hrows]
  rfl

/-- What a pass has forecast is settled for every undisturbed job. -/
theorem settled_of_undisturbed {tie : TieBreak} {start after : Database} {job : Job}
    {fc : Forecast UtcDatetime ℚ} {db : Database} (hwindows : metric_windows settings now_data = .ok windows)
    (hadvanced : Advanced settings now_data tie start (jobs start now_data windows) after)
    (hjob : job ∈ jobs db now_data windows)
    (hundisturbed : Undisturbed job.metric
      (device_samples start job.device_id job.metric.kind job.window_start) job.samples)
    (hforecast : job.forecast now_data = .ok fc) :
    Settled settings job.device_id job.metric fc
      (latest_alert_states tie after job.device_id job.metric.kind)
      (view after job.device_id job.metric.kind) := by
  obtain ⟨hentry, -, -⟩ := (mem_jobs hwindows).mp hjob
  by_cases hrows : device_rows start job.device_id (longest_window now_data windows) = []
  · -- the device had no samples, so that there are none now
    rw [device_samples_eq_nil (longest_window_le hentry) hrows] at hundisturbed
    have hnothing : forecast Z_95 ([] : List (Sample UtcDatetime ℚ)) job.metric now_data
        (some job.window_start) = .ok (no_crossing job.metric .no_data none none none) :=
      forecast_no_data rfl rfl
    obtain ⟨fc', hfc', hsame⟩ := hundisturbed.forecast_ok hnothing
    obtain rfl := Except.ok.inj (hforecast.symm.trans hfc')
    exact settled_of_untruncated hsame (settled_of_no_watermark rfl)
  · let before : Job := ⟨job.device_id, job.metric, job.window_start,
      device_samples start job.device_id job.metric.kind job.window_start⟩
    have hbefore : before ∈ jobs start now_data windows := (mem_jobs hwindows).mpr ⟨hentry, hrows, rfl⟩
    obtain ⟨fc', hfc', -⟩ := hadvanced.own before hbefore
    obtain ⟨again, hagain, hsame⟩ := hundisturbed.forecast_ok hfc'
    obtain rfl := Except.ok.inj (hforecast.symm.trans hagain)
    have hsettled := settled_of_advanced hadvanced hbefore hfc'
    exact settled_of_untruncated hsame hsettled

/-- A planter that was silent for sixteen hours before its newest reading. -/
def silent_between : World where
  db := ([51000, 51010, 51020, 51030, 52000].map (reading_at planter_00 · 50)).foldl accept Database.fresh

def after_silent_between : World :=
  ((run_pass {} none).run (perform first_of_ties) silent_between).1

/-- A late reading from before the silence. -/
def silent_between_and_late : World where
  db := [reading_at planter_00 51005 50].foldl accept after_silent_between.db

/-- Two planters, of which the second one's clock is behind. -/
def two_clocks : World where
  db := [reading_at planter_00 100 50, reading_at planter_01 50 50].foldl accept Database.fresh

def after_two_clocks : World := ((run_pass {} none).run (perform first_of_ties) two_clocks).1

/-- The two planters with one more reading after the pass. -/
def two_clocks_and (reading : TelemetryV1) : World where
  db := [reading].foldl accept after_two_clocks.db

end planter_telemetry.analytics.service
