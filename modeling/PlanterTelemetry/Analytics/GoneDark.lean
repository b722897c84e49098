import PlanterTelemetry.Analytics.History

open planter_telemetry.python planter_telemetry.migrations planter_telemetry.analytics.model
open planter_telemetry.analytics.config planter_telemetry.analytics.db
open planter_telemetry.ingestion.db

namespace planter_telemetry.analytics.service

variable {settings : AnalyticsSettings} {db : Database} {metric : Metric ℚ} {row : ForecastRow}
  {now_data window_start : UtcDatetime} {device_id kind : String}

/-! ### The latest forecast -/

/-- The latest forecast is the row of a view with the newest watermark. -/
theorem latest_forecast_eq_some :
    latest_forecast db device_id kind = some row ↔
      (view db device_id kind).forecasts row.as_of = some row ∧
      ∀ as_of other, (view db device_id kind).forecasts as_of = some other → as_of ≤ row.as_of := by
  have hrows (as_of : UtcDatetime) (other : ForecastRow) :
      (view db device_id kind).forecasts as_of = some other ↔
        other ∈ db.forecasts.rows.filter (fun row => row.device_id = device_id ∧ row.kind = kind) ∧
          other.as_of = as_of := by
    simp only [view, KeyedTable.lookup_eq_some, List.mem_filter, decide_eq_true_iff,
      ForecastRow.key, Prod.mk.injEq]
    tauto
  simp only [hrows, latest_forecast]
  constructor
  · intro hlatest
    have hmem := List.argmax_mem (Option.mem_def.mpr hlatest)
    refine ⟨⟨hmem, trivial⟩, ?_⟩
    rintro as_of other ⟨hother, rfl⟩
    exact List.le_of_mem_argmax hother (Option.mem_def.mpr hlatest)
  · rintro ⟨⟨hmem, -⟩, hnewest⟩
    cases hlatest : (db.forecasts.rows.filter fun row =>
        row.device_id = device_id ∧ row.kind = kind).argmax ForecastRow.as_of with
    | none =>
      rw [List.argmax_eq_none] at hlatest
      rw [hlatest] at hmem
      cases hmem
    | some latest =>
      -- two rows of one watermark are one row
      have hlatestmem := List.argmax_mem (Option.mem_def.mpr hlatest)
      have has : latest.as_of = row.as_of :=
        le_antisymm (hnewest _ latest ⟨hlatestmem, rfl⟩) (List.le_of_mem_argmax hmem (Option.mem_def.mpr hlatest))
      have hfirst := (hrows row.as_of row).mpr ⟨hmem, rfl⟩
      have hsecond := (hrows row.as_of latest).mpr ⟨hlatestmem, has⟩
      exact hsecond.symm.trans hfirst

theorem latest_forecast_congr {first second : Database}
    (h : view first device_id kind = view second device_id kind) :
    latest_forecast first device_id kind = latest_forecast second device_id kind := by
  ext row
  rw [latest_forecast_eq_some, latest_forecast_eq_some, h]

theorem mem_forecasts_latest :
    row ∈ forecasts_latest db ↔ row.device_id ∈ db.devices.keys ∧ row.kind ∈ WINDOW_KINDS ∧
      latest_forecast db row.device_id row.kind = some row := by
  have hpair {device_id kind : String} (h : latest_forecast db device_id kind = some row) :
      row.device_id = device_id ∧ row.kind = kind := by
    have hmem := List.argmax_mem (Option.mem_def.mpr h)
    exact of_decide_eq_true (List.mem_filter.mp hmem).2
  simp only [forecasts_latest, List.mem_flatMap, List.mem_filterMap, KeyedTable.mem_keys]
  constructor
  · rintro ⟨device, hdevice, kind, hkind, hlatest⟩
    obtain ⟨hsame, rfl⟩ := hpair hlatest
    exact ⟨⟨device, hdevice, hsame.symm⟩, hkind, hsame ▸ hlatest⟩
  · rintro ⟨⟨device, hdevice, hsame⟩, hkind, hlatest⟩
    exact ⟨device, hdevice, row.kind, hkind, hsame ▸ hlatest⟩

/-! ### Going dark -/

/-- The median gap of a device's readings newer than `window_start`. -/
def median_gap (db : Database) (device_id : String) (window_start : UtcDatetime) : Option ℚ :=
  cadence_seconds ((device_rows db device_id window_start).map fun row =>
    (⟨row.measured_at, 0⟩ : Point UtcDatetime ℚ))

/-- The rows that `forecasts_latest` shows with a crossing. -/
def ShowsCrossing (settings : AnalyticsSettings) (db : Database) (metric : Metric ℚ)
    (row : ForecastRow) : Prop :=
  metric ∈ settings.metrics ∧ row ∈ forecasts_latest db ∧ row.kind = metric.kind ∧
    row.crosses_at.isSome = true

/-- No shown crossing is of a device past its staleness limit. -/
def NoDarkForecast (settings : AnalyticsSettings) (db : Database) : Prop :=
  ∀ now_data, data_now db = some now_data → ∀ metric row, ShowsCrossing settings db metric row →
    ∃ window_start newest, window_start_of now_data metric = .ok window_start ∧
      newest_reading db row.device_id = some newest ∧
      total_seconds (DataTime.since now_data newest) ≤
        stale_limit metric (median_gap db row.device_id window_start)

/-- Every shown crossing is of a device with a reading in the metric's
    lookback window. -/
def WithinLookback (settings : AnalyticsSettings) (db : Database) : Prop :=
  ∀ now_data, data_now db = some now_data → ∀ metric row, ShowsCrossing settings db metric row →
    ∃ window_start newest, window_start_of now_data metric = .ok window_start ∧
      newest_reading db row.device_id = some newest ∧ window_start < newest

/-- In a valid series the gaps of the points are the gaps of the readings. -/
theorem median_gap_eq
    (hvalid : is_valid_series (device_samples db device_id kind window_start) = true) :
    median_gap db device_id window_start =
      cadence_seconds (points (device_samples db device_id kind window_start)) := by
  apply cadence_seconds_congr
  rw [points_times (finite_of_is_valid_series hvalid), device_samples, List.map_map, List.map_map]
  rfl

/-- A reading outside the lookback window is past the staleness limit, since no
    gap in the window can raise the limit. -/
theorem stale_of_outside (hmetric : metric ∈ settings.metrics)
    (hstart : window_start_of now_data metric = .ok window_start) {newest : UtcDatetime}
    (hnewest : newest_reading db device_id = some newest) (houtside : newest ≤ window_start) :
    stale_limit metric (median_gap db device_id window_start) <
      total_seconds (DataTime.since now_data newest) := by
  have hempty : device_rows db device_id window_start = [] := by
    apply List.eq_nil_iff_forall_not_mem.mpr
    intro reading hreading
    obtain ⟨hrow, hdevice, hinside⟩ := mem_device_rows.mp hreading
    have hle := (newest_reading_eq_some.mp hnewest).2 reading hrow hdevice
    exact absurd hinside (not_lt.mpr (hle.trans houtside))
  obtain ⟨micros, -, -, hshort⟩ := metric_lookback hmetric
  have hback : (total_seconds (DataTime.since now_data window_start) : ℚ) ≤
      total_seconds (DataTime.since now_data newest) :=
    total_seconds_le_iff.mpr (Int.sub_le_sub_left houtside _)
  calc stale_limit metric (median_gap db device_id window_start)
      = metric.stale_after_seconds := by rw [median_gap, hempty]; rfl
    _ < metric.lookback_seconds := hshort
    _ = total_seconds (DataTime.since now_data window_start) :=
        (window_start_lookback hmetric hstart).symm
    _ ≤ total_seconds (DataTime.since now_data newest) := hback

section CompletedPass

variable {pass : PassRecord} {windows : List (Metric ℚ × UtcDatetime)}

/-- After a completed pass, a crossing shown for a device with a reading in the
    window is fresh: it was forecast from that window. -/
theorem fresh_of_within (hnow : data_now pass.before = some now_data)
    (hwindows : metric_windows settings now_data = .ok windows)
    (hadvanced : Advanced settings now_data pass.tie pass.before
      (jobs pass.before now_data windows) pass.after)
    (hsound : (view pass.after row.device_id row.kind).Sound
      (newest_reading pass.before row.device_id))
    (hshows : ShowsCrossing settings pass.after metric row)
    (hmem : (metric, window_start) ∈ windows) {newest : UtcDatetime}
    (hnewest : newest_reading pass.before row.device_id = some newest)
    (hwithin : window_start < newest) :
    total_seconds (DataTime.since now_data newest) ≤
      stale_limit metric (median_gap pass.before row.device_id window_start) := by
  obtain ⟨-, hlatest, hkind, hcrosses⟩ := hshows
  let job : Job := ⟨row.device_id, metric, window_start,
    device_samples pass.before row.device_id metric.kind window_start⟩
  have hjob : job ∈ jobs pass.before now_data windows := by
    refine (mem_jobs hwindows).mpr ⟨hmem, fun hempty => ?_, rfl⟩
    obtain ⟨⟨reading, hreading, hdevice, rfl⟩, -⟩ := newest_reading_eq_some.mp hnewest
    have hinside : longest_window now_data windows < reading.measured_at :=
      lt_of_le_of_lt (longest_window_le hmem) hwithin
    have hrow := mem_device_rows.mpr ⟨hreading, hdevice, hinside⟩
    rw [show device_rows pass.before row.device_id (longest_window now_data windows) = []
      from hempty] at hrow
    cases hrow
  obtain ⟨fc, hforecast, hview⟩ := hadvanced.own job hjob
  have hfacts := forecast_facts hforecast
  have hforecasted : Forecasted settings pass.before now_data windows job fc :=
    ⟨hnow, hwindows, hjob, hforecast⟩
  have has : fc.as_of = some newest := hforecasted.as_of.mpr ⟨hnewest, hwithin⟩
  -- the latest row is the one at the newest reading, and it has the forecast's status
  obtain ⟨written, hwritten, hstatus⟩ := View.with_forecast_status row.device_id
    (view pass.before row.device_id metric.kind) has
  have hat : (view pass.after row.device_id row.kind).forecasts newest = some written := by
    rw [hkind]
    exact (congrFun (congrArg View.forecasts hview) newest).trans hwritten
  obtain ⟨hrow, hmaximal⟩ := latest_forecast_eq_some.mp (mem_forecasts_latest.mp hlatest).2.2
  obtain ⟨time, htime, hle⟩ := hsound.forecasts_upto row.as_of row hrow
  have hsame : row.as_of = newest := by
    rw [hnewest] at htime
    exact le_antisymm (Option.some.inj htime ▸ hle) (hmaximal newest written hat)
  rw [hsame, hat] at hrow
  obtain rfl := Option.some.inj hrow
  have hfc : fc.crosses_at.isSome = true := by
    rw [hfacts.crossing, ← hstatus, ← hsound.crossing newest written hat, hcrosses]
  have hfresh := hfacts.fresh hfc newest has
  rwa [← median_gap_eq (hfacts.valid hfc)] at hfresh

/-- A completed pass leaves the view of a device alone that has no reading in
    the metric's window. -/
theorem view_outside (hnow : data_now pass.before = some now_data)
    (hwindows : metric_windows settings now_data = .ok windows)
    (hadvanced : Advanced settings now_data pass.tie pass.before
      (jobs pass.before now_data windows) pass.after)
    (hmem : (metric, window_start) ∈ windows)
    (houtside : ∀ newest, newest_reading pass.before device_id = some newest →
      newest ≤ window_start) :
    view pass.after device_id metric.kind = view pass.before device_id metric.kind := by
  by_cases hdevice : device_rows pass.before device_id (longest_window now_data windows) = []
  · apply hadvanced.other device_id metric.kind
    intro hkey
    obtain ⟨job, hjob, hkey⟩ := List.mem_map.mp hkey
    have hrows := ((mem_jobs hwindows).mp hjob).2.1
    rw [show job.device_id = device_id from congrArg Prod.fst hkey] at hrows
    exact hrows hdevice
  · let job : Job := ⟨device_id, metric, window_start,
      device_samples pass.before device_id metric.kind window_start⟩
    have hjob : job ∈ jobs pass.before now_data windows :=
      (mem_jobs hwindows).mpr ⟨hmem, hdevice, rfl⟩
    obtain ⟨fc, hforecast, hview⟩ := hadvanced.own job hjob
    have has : fc.as_of = none := by
      cases has : fc.as_of with
      | none => rfl
      | some as_of =>
        have hforecasted : Forecasted settings pass.before now_data windows job fc :=
          ⟨hnow, hwindows, hjob, hforecast⟩
        obtain ⟨hnewest, hwithin⟩ := hforecasted.as_of.mp has
        exact absurd hwithin (not_lt.mpr (houtside as_of hnewest))
    rw [View.advance_of_no_watermark _ _ has] at hview
    exact hview

/-- After a completed pass no dark device shows a crossing, exactly if before it
    no device outside the lookback window did. -/
theorem no_dark_forecast_after (hpassed : Passed settings pass) (hcompleted : pass.completed = true)
    (hsound : SoundViews pass.after) :
    NoDarkForecast settings pass.after ↔ WithinLookback settings pass.before := by
  have hdata := data_now_congr hpassed.telemetry
  have hnewest := newest_reading_congr hpassed.telemetry
  have hgap (device_id : String) (window_start : UtcDatetime) :
      median_gap pass.after device_id window_start = median_gap pass.before device_id window_start := by
    unfold median_gap device_rows select_window
    rw [hpassed.telemetry]
  have hshown {metric : Metric ℚ} {row : ForecastRow}
      (hview : view pass.after row.device_id row.kind = view pass.before row.device_id row.kind) :
      ShowsCrossing settings pass.after metric row ↔ ShowsCrossing settings pass.before metric row := by
    unfold ShowsCrossing
    rw [mem_forecasts_latest, mem_forecasts_latest, hpassed.devices, latest_forecast_congr hview]
  constructor
  · intro hdark now_data hnow metric row hshows
    obtain ⟨windows, hwindows, hadvanced⟩ := hpassed.advanced hcompleted now_data hnow
    obtain ⟨window_start, hmem, hstart⟩ := exists_window hwindows hshows.1
    by_contra habsent
    have houtside : ∀ newest, newest_reading pass.before row.device_id = some newest →
        newest ≤ window_start := by
      intro newest hnewest
      by_contra hwithin
      exact habsent ⟨window_start, newest, hstart, hnewest, not_le.mp hwithin⟩
    have hview := view_outside hnow hwindows hadvanced hmem houtside
    rw [← hshows.2.2.1] at hview
    obtain ⟨_, newest, hstart', hread, hfresh⟩ :=
      hdark now_data (hdata.trans hnow) metric row ((hshown hview).mpr hshows)
    obtain rfl := Except.ok.inj (hstart.symm.trans hstart')
    rw [hnewest] at hread
    rw [hgap] at hfresh
    exact absurd hfresh (not_le.mpr (stale_of_outside hshows.1 hstart hread (houtside newest hread)))
  · intro hwithin now_data hnow metric row hshows
    rw [hdata] at hnow
    obtain ⟨windows, hwindows, hadvanced⟩ := hpassed.advanced hcompleted now_data hnow
    obtain ⟨window_start, hmem, hstart⟩ := exists_window hwindows hshows.1
    by_cases hinside : ∃ newest, newest_reading pass.before row.device_id = some newest ∧
        window_start < newest
    · obtain ⟨newest, hread, hlt⟩ := hinside
      refine ⟨window_start, newest, hstart, (hnewest row.device_id).trans hread, ?_⟩
      rw [hgap]
      refine fresh_of_within hnow hwindows hadvanced ?_ hshows hmem hread hlt
      rw [← hnewest]
      exact hsound row.device_id row.kind
    · -- an untouched view showed the crossing before the pass too
      have houtside : ∀ newest, newest_reading pass.before row.device_id = some newest →
          newest ≤ window_start := by
        intro newest hread
        by_contra hlt
        exact hinside ⟨newest, hread, not_le.mp hlt⟩
      have hview := view_outside hnow hwindows hadvanced hmem houtside
      rw [← hshows.2.2.1] at hview
      obtain ⟨_, newest, hstart', hread, hlt⟩ :=
        hwithin now_data hnow metric row ((hshown hview).mp hshows)
      obtain rfl := Except.ok.inj (hstart.symm.trans hstart')
      exact absurd hlt (not_lt.mpr (houtside newest hread))

/-- Through any history, no dark device shows a crossing right after a completed
    pass, exactly if before every completed pass each shown crossing is of a
    device with a reading in the metric's lookback window. -/
theorem no_dark_forecast_iff {passes : List PassRecord} (h : History settings passes db) :
    (∀ pass ∈ passes, pass.completed = true → NoDarkForecast settings pass.after) ↔
      ∀ pass ∈ passes, pass.completed = true → WithinLookback settings pass.before := by
  refine forall₂_congr fun pass hpass => forall_congr' fun hcompleted => ?_
  exact no_dark_forecast_after (h.passed pass hpass) hcompleted (h.sound_views.2 pass hpass).2

end CompletedPass

/-- A dry planter that falls silent, while another one reports 20 days later. -/
def silent_planter : List Event :=
  [.accepted (reading_at planter_00 0 5), .pass first_of_ties,
    .accepted (reading_at planter_01 28800 50), .pass first_of_ties]

theorem no_dark_forecast_iff_silent_planter :
    (∀ pass ∈ (replay {} silent_planter).1, pass.completed = true → NoDarkForecast {} pass.after) ↔
      ∀ pass ∈ (replay {} silent_planter).1, pass.completed = true → WithinLookback {} pass.before :=
  no_dark_forecast_iff (replay_history {} silent_planter)

/-- The silent planter is outside the window of the second pass, which leaves
    its 20 days old crossing in place. -/
theorem dark_forecast_kept :
    ¬ ∀ settings passes db, History settings passes db →
      (∀ pass ∈ passes, pass.completed = true) →
      ∀ pass ∈ passes, NoDarkForecast settings pass.after := by
  intro h
  have hcompleted : ∀ pass ∈ (replay {} silent_planter).1, pass.completed = true := by
    decide +kernel
  have hshown : ∃ pass ∈ (replay {} silent_planter).1,
      data_now pass.after = some (at_minute 28800) ∧
      newest_reading pass.after "planter-00" = some (at_minute 0) ∧
      ∃ row ∈ forecasts_latest pass.after, row.device_id = "planter-00" ∧
        row.kind = "water" ∧ row.crosses_at.isSome = true := by
    decide +kernel
  obtain ⟨pass, hpass, hnow, hnewest, row, hrow, hdevice, hkind, hcrosses⟩ := hshown
  have hdark := h {} _ _ (replay_history {} silent_planter) hcompleted pass hpass
  have hwater : WATER ∈ AnalyticsSettings.metrics {} := by decide +kernel
  have hstart : window_start_of (at_minute 28800) WATER = .ok (at_minute 14400) := by decide +kernel
  obtain ⟨_, newest, hstart', hnewest', hfresh⟩ :=
    hdark _ hnow WATER row ⟨hwater, hrow, hkind, hcrosses⟩
  obtain rfl := Except.ok.inj (hstart.symm.trans hstart')
  rw [hdevice] at hnewest' hfresh
  obtain rfl := Option.some.inj (hnewest.symm.trans hnewest')
  have hstale := stale_of_outside hwater hstart hnewest (by decide +kernel)
  exact absurd hfresh (not_le.mpr hstale)

end planter_telemetry.analytics.service
