import PlanterTelemetry.Analytics.Turn
import PlanterTelemetry.Analytics.Window
import Mathlib.Data.List.ProdSigma
import Mathlib.Data.List.TakeWhile

open planter_telemetry.python planter_telemetry.migrations planter_telemetry.analytics.model
open planter_telemetry.analytics.config planter_telemetry.analytics.db

namespace planter_telemetry.analytics.service

variable {settings : AnalyticsSettings} {now_data : UtcDatetime}
  {windows : List (Metric ℚ × UtcDatetime)}

/-! ### The metric windows -/

theorem metrics_kinds (settings : AnalyticsSettings) :
    settings.metrics.map Metric.kind = WINDOW_KINDS := rfl

theorem kind_mem_window_kinds {metric : Metric ℚ} (h : metric ∈ settings.metrics) :
    metric.kind ∈ WINDOW_KINDS :=
  metrics_kinds settings ▸ List.mem_map_of_mem h

/-- Pairing each item with a result that may fail. -/
theorem mapM_pair_ok {α β ε : Type} {f : α → Except ε β} {items : List α} {pairs : List (α × β)}
    (h : (items.mapM fun item => do
      let result ← f item
      pure (item, result)) = .ok pairs) :
    pairs.map Prod.fst = items ∧ ∀ item result, (item, result) ∈ pairs → f item = .ok result := by
  have hpairs : List.Forall₂ (fun item pair => pair.1 = item ∧ f pair.1 = .ok pair.2) items pairs := by
    apply (mapM_eq_ok_iff.mp h).imp
    intro item pair hpair
    obtain ⟨result, hresult, hpure⟩ := bind_eq_ok_iff.mp hpair
    obtain rfl := Except.ok.inj hpure
    exact ⟨rfl, hresult⟩
  clear h
  induction hpairs with
  | nil => exact ⟨rfl, fun _ _ hmem => nomatch hmem⟩
  | cons hpair _ ih =>
    obtain ⟨hitems, hresults⟩ := ih
    refine ⟨by rw [List.map_cons, hpair.1, hitems], fun item result hmem => ?_⟩
    cases List.mem_cons.mp hmem with
    | inl heq =>
      obtain rfl := heq
      exact hpair.2
    | inr hmem => exact hresults item result hmem

theorem metric_windows_metrics (h : metric_windows settings now_data = .ok windows) :
    windows.map Prod.fst = settings.metrics :=
  (mapM_pair_ok h).1

theorem metric_windows_start (h : metric_windows settings now_data = .ok windows)
    {metric : Metric ℚ} {window_start : UtcDatetime} (hmem : (metric, window_start) ∈ windows) :
    window_start_of now_data metric = .ok window_start :=
  (mapM_pair_ok h).2 metric window_start hmem

theorem exists_window (h : metric_windows settings now_data = .ok windows) {metric : Metric ℚ}
    (hmetric : metric ∈ settings.metrics) :
    ∃ window_start, (metric, window_start) ∈ windows ∧
      window_start_of now_data metric = .ok window_start := by
  rw [← metric_windows_metrics h] at hmetric
  obtain ⟨⟨metric, window_start⟩, hmem, rfl⟩ := List.mem_map.mp hmetric
  exact ⟨window_start, hmem, metric_windows_start h hmem⟩

/-- The lookback of each metric is whole days, and longer than its staleness
    floor. -/
theorem metric_lookback {metric : Metric ℚ} (hmetric : metric ∈ settings.metrics) :
    ∃ micros, timedelta_seconds metric.lookback_seconds = .ok micros ∧
      total_seconds micros = metric.lookback_seconds ∧
      metric.stale_after_seconds < metric.lookback_seconds := by
  unfold AnalyticsSettings.metrics at hmetric
  rcases List.mem_cons.mp hmetric with rfl | hbattery
  · have hwater : timedelta_seconds WATER.lookback_seconds = .ok (10 * day) := by decide +kernel
    refine ⟨10 * day, hwater, ?_, ?_⟩
    · norm_num [total_seconds, day, second, WATER]
    · norm_num [WATER]
  · obtain rfl := List.mem_singleton.mp hbattery
    have hbattery : timedelta_seconds BATTERY.lookback_seconds = .ok (35 * day) := by decide +kernel
    refine ⟨35 * day, hbattery, ?_, ?_⟩
    · norm_num [total_seconds, day, second, BATTERY]
    · norm_num [BATTERY]

/-- A metric's window starts its lookback before the newest reading. -/
theorem window_start_lookback {metric : Metric ℚ} {window_start : UtcDatetime}
    (hmetric : metric ∈ settings.metrics)
    (hstart : window_start_of now_data metric = .ok window_start) :
    total_seconds (DataTime.since now_data window_start) = metric.lookback_seconds := by
  obtain ⟨micros, hmicros, hseconds, -⟩ := metric_lookback hmetric
  unfold window_start_of at hstart
  rw [hmicros] at hstart
  have hadded := UtcDatetime.add_ok_iff.mp hstart
  have hsince : DataTime.since now_data window_start = micros := by
    change now_data.micros - window_start.micros = micros
    omega
  rw [hsince, hseconds]

/-- The window that is read reaches back as far as any metric's. -/
theorem longest_window_le {metric : Metric ℚ} {window_start : UtcDatetime}
    (hmem : (metric, window_start) ∈ windows) : longest_window now_data windows ≤ window_start := by
  have hstart : window_start ∈ windows.map Prod.snd := List.mem_map_of_mem hmem
  unfold longest_window
  cases hmin : (windows.map Prod.snd).min? with
  | none =>
    rw [List.min?_eq_none_iff] at hmin
    rw [hmin] at hstart
    cases hstart
  | some least => exact (List.min?_eq_some_iff.mp hmin).2 window_start hstart

/-! ### The jobs of a pass -/

/-- The turns of the two loops, in order. -/
def jobs (db : Database) (now_data : UtcDatetime) (windows : List (Metric ℚ × UtcDatetime)) :
    List Job :=
  (load_window db (longest_window now_data windows)).flatMap fun (device_id, by_kind) =>
    windows.map fun (metric, window_start) =>
      ⟨device_id, metric, window_start, metric_samples by_kind metric window_start⟩

/-- What a turn writes under. -/
def Job.key (job : Job) : String × String := (job.device_id, job.metric.kind)

theorem mem_jobs {db : Database} {job : Job} (hwindows : metric_windows settings now_data = .ok windows) :
    job ∈ jobs db now_data windows ↔
      (job.metric, job.window_start) ∈ windows ∧
      device_rows db job.device_id (longest_window now_data windows) ≠ [] ∧
      job.samples = device_samples db job.device_id job.metric.kind job.window_start := by
  have hkind : ∀ metric window_start, (metric, window_start) ∈ windows →
      metric.kind ∈ WINDOW_KINDS := by
    intro metric window_start hmem
    have hmetric : metric ∈ settings.metrics :=
      metric_windows_metrics hwindows ▸ List.mem_map_of_mem hmem
    exact kind_mem_window_kinds hmetric
  constructor
  · intro hjob
    obtain ⟨⟨device_id, by_kind⟩, hentry, hjob⟩ := List.mem_flatMap.mp hjob
    obtain ⟨⟨metric, window_start⟩, hmem, rfl⟩ := List.mem_map.mp hjob
    refine ⟨hmem, (mem_load_window.mp hentry).1, ?_⟩
    exact metric_samples_load_window hentry (hkind metric window_start hmem)
      (longest_window_le hmem)
  · rintro ⟨hmem, hdevice, hsamples⟩
    have hentry := mem_load_window.mpr ⟨hdevice, rfl⟩
    refine List.mem_flatMap.mpr ⟨_, hentry, List.mem_map.mpr ⟨_, hmem, ?_⟩⟩
    obtain ⟨device_id, metric, window_start, samples⟩ := job
    obtain rfl : samples = device_samples db device_id metric.kind window_start := hsamples
    exact congrArg (Job.mk device_id metric window_start)
      (metric_samples_load_window hentry (hkind metric window_start hmem) (longest_window_le hmem))

/-- No two turns of a pass write under the same (device, kind). -/
theorem jobs_keys_nodup (db : Database) (hwindows : metric_windows settings now_data = .ok windows) :
    ((jobs db now_data windows).map Job.key).Nodup := by
  have hproduct : (jobs db now_data windows).map Job.key =
      ((load_window db (longest_window now_data windows)).map Prod.fst).product WINDOW_KINDS := by
    simp only [jobs, List.map_flatMap, List.product, List.flatMap_map, List.map_map,
      ← metrics_kinds settings, ← metric_windows_metrics hwindows]
    rfl
  rw [hproduct]
  exact (grouped_load_window db _).nodup.product (by decide)

theorem data_now_congr {first second : Database} (h : first.telemetry = second.telemetry) :
    data_now first = data_now second := by
  rw [data_now, data_now, h]

theorem jobs_congr {first second : Database} (h : first.telemetry = second.telemetry) :
    jobs first now_data windows = jobs second now_data windows := by
  unfold jobs load_window select_window
  rw [h]

/-! ### The pass as one loop over its jobs -/

/-- The two loops of `run_pass`. -/
def turns (settings : AnalyticsSettings) (now_data : UtcDatetime)
    (windows : List (Metric ℚ × UtcDatetime)) (tie : TieBreak) (db : Database) : Pass Unit :=
  Program.forEach (jobs db now_data windows)
    (turn settings now_data (latest_alert_states tie db))

theorem turns_eq (settings : AnalyticsSettings) (now_data : UtcDatetime)
    (windows : List (Metric ℚ × UtcDatetime)) (tie : TieBreak) (db : Database) :
    turns settings now_data windows tie db =
      Program.forEach (load_window db (longest_window now_data windows)) fun (device_id, by_kind) =>
        Program.forEach windows fun (metric, window_start) =>
          forecast_metric settings now_data (latest_alert_states tie db) device_id by_kind metric
            window_start := by
  unfold turns jobs
  rw [Program.forEach_flatMap]
  apply Program.forEach_congr
  intro entry _
  rw [Program.forEach_map]
  rfl

variable {around : Surroundings} {world final : World}

/-- What is left of a pass once it has read the database: return, raise, or do
    the turns. -/
def after_reads (settings : AnalyticsSettings) (since : Option UtcDatetime) (tie : TieBreak)
    (db : Database) : Pass (Option UtcDatetime) :=
  match data_now db with
  | none => (set_devices_forecast 0).bind fun _ => .ret none
  | some now_data =>
    if since.any (fun since => decide (now_data ≤ since)) then .ret (some now_data)
    else
      match metric_windows settings now_data with
      | .error error => .raise error
      | .ok windows =>
        (turns settings now_data windows tie db).bind fun _ =>
          (set_devices_forecast (load_window db (longest_window now_data windows)).length).bind
            fun _ => .ret (some now_data)

section Reads

variable {α : Type} {program : Pass α}

theorem reads_data_now {next : Option UtcDatetime → Pass α}
    (tail : Program.ReadsTo (perform around) world (next (data_now world.db)) program) :
    Program.ReadsTo (perform around) world (Store.data_now.bind next) program :=
  .read rfl tail

theorem reads_load_window {cutoff : UtcDatetime} {next : List (String × ByKind) → Pass α}
    (tail : Program.ReadsTo (perform around) world (next (load_window world.db cutoff)) program) :
    Program.ReadsTo (perform around) world ((Store.load_window cutoff).bind next) program :=
  .read rfl tail

theorem reads_latest_alert_states
    {next : (String → String → Option (AlertState UtcDatetime)) → Pass α}
    (tail : Program.ReadsTo (perform around) world
      (next (latest_alert_states around.tie world.db)) program) :
    Program.ReadsTo (perform around) world (Store.latest_alert_states.bind next) program :=
  .read rfl tail

end Reads

theorem run_pass_reads (settings : AnalyticsSettings) (since : Option UtcDatetime)
    (around : Surroundings) (world : World) :
    Program.ReadsTo (perform around) world (run_pass settings since)
      (after_reads settings since around.tie world.db) := by
  have hkinds : (settings.metrics.map Metric.kind).filter (fun kind => kind ∉ WINDOW_KINDS) = [] := by
    rw [metrics_kinds]
    decide
  unfold run_pass after_reads
  simp only [hkinds, ne_eq, not_true_eq_false, if_false, Program.bind_eq]
  apply reads_data_now
  cases data_now world.db with
  | none => exact .here _
  | some now_data =>
    by_cases hskip : since.any (fun since => decide (now_data ≤ since)) = true
    · simp only [hskip, if_true]
      exact .here _
    · simp only [hskip, Bool.false_eq_true, if_false]
      cases metric_windows settings now_data with
      | error error => exact .here _
      | ok windows =>
        simp only [Program.lift_ok, Program.ret_bind]
        refine reads_load_window (reads_latest_alert_states ?_)
        rw [turns_eq]
        exact .here _

/-- What a pass that returned has done: nothing on an empty database or an
    unmoved watermark, else all its turns. -/
theorem run_pass_returned {since result : Option UtcDatetime}
    (h : (run_pass settings since).run (perform around) world = (final, .ok result)) :
    result = data_now world.db ∧
    ((final.db = world.db ∧ final.sent = world.sent ∧ ∀ now_data, data_now world.db = some now_data →
        since.any (fun since => decide (now_data ≤ since)) = true) ∨
      ∃ now_data windows after, data_now world.db = some now_data ∧
        since.any (fun since => decide (now_data ≤ since)) = false ∧
        metric_windows settings now_data = .ok windows ∧
        (turns settings now_data windows around.tie world.db).run (perform around) world =
          (after, .ok ()) ∧ final.db = after.db ∧ final.sent = after.sent) := by
  rw [(run_pass_reads settings since around world).run] at h
  unfold after_reads at h
  cases hnow : data_now world.db with
  | none =>
    simp only [hnow] at h
    cases h
    exact ⟨rfl, .inl ⟨rfl, rfl, fun _ hsome => by cases hsome⟩⟩
  | some now_data =>
    simp only [hnow] at h
    cases hskip : since.any (fun since => decide (now_data ≤ since)) with
    | true =>
      simp only [hskip, if_true] at h
      cases h
      refine ⟨rfl, .inl ⟨rfl, rfl, fun other hother => ?_⟩⟩
      cases hother
      exact hskip
    | false =>
      simp only [hskip, Bool.false_eq_true, if_false] at h
      cases hwindows : metric_windows settings now_data with
      | error error =>
        simp only [hwindows] at h
        cases h
      | ok windows =>
        simp only [hwindows] at h
        obtain ⟨after, value, hturns, hrest⟩ := Program.run_bind_ok_iff.mp h
        cases hrest
        exact ⟨rfl, .inr ⟨now_data, windows, after, rfl, hskip, hwindows, hturns, rfl, rfl⟩⟩

/-- A completed full pass: nothing on an empty database, else all its turns. -/
theorem run_pass_completed {result : Option UtcDatetime}
    (h : (run_pass settings none).run (perform around) world = (final, .ok result)) :
    (data_now world.db = none ∧ result = none ∧ final.db = world.db ∧ final.sent = world.sent) ∨
    ∃ now_data windows after, data_now world.db = some now_data ∧ result = some now_data ∧
      metric_windows settings now_data = .ok windows ∧
      (turns settings now_data windows around.tie world.db).run (perform around) world =
        (after, .ok ()) ∧ final.db = after.db ∧ final.sent = after.sent := by
  obtain ⟨rfl, ⟨hdb, hsent, hskip⟩ | ⟨now_data, windows, after, hnow, -, hrest⟩⟩ :=
    run_pass_returned h
  · cases hnow : data_now world.db with
    | none => exact .inl ⟨rfl, rfl, hdb, hsent⟩
    | some now_data => cases hskip now_data hnow
  · exact .inr ⟨now_data, windows, after, hnow, hnow, hrest⟩

/-- A full pass with its windows does its turns, and then no more than a gauge. -/
theorem run_pass_turns {result : Except PyError (Option UtcDatetime)}
    (hnow : data_now world.db = some now_data)
    (hwindows : metric_windows settings now_data = .ok windows)
    (h : (run_pass settings none).run (perform around) world = (final, result)) :
    ∃ after turned, (turns settings now_data windows around.tie world.db).run (perform around) world =
        (after, turned) ∧ final.db = after.db ∧ final.sent = after.sent ∧
      (turned = .ok () → result = .ok (some now_data)) := by
  rw [(run_pass_reads settings none around world).run] at h
  unfold after_reads at h
  simp only [hnow, Option.any_none, Bool.false_eq_true, if_false, hwindows] at h
  rw [Program.run_bind] at h
  cases hturns : (turns settings now_data windows around.tie world.db).run (perform around) world with
  | mk after turned =>
    rw [hturns] at h
    refine ⟨after, turned, rfl, ?_⟩
    cases turned with
    | ok value =>
      cases h
      exact ⟨rfl, rfl, fun _ => rfl⟩
    | error error =>
      cases h
      exact ⟨rfl, rfl, fun hok => by cases hok⟩

/-- A full pass that cannot place its windows raises before any statement. -/
theorem run_pass_without_windows {result : Except PyError (Option UtcDatetime)} {error : PyError}
    (hnow : data_now world.db = some now_data)
    (hwindows : metric_windows settings now_data = .error error)
    (h : (run_pass settings none).run (perform around) world = (final, result)) :
    final.db = world.db := by
  rw [(run_pass_reads settings none around world).run] at h
  unfold after_reads at h
  simp only [hnow, Option.any_none, Bool.false_eq_true, if_false, hwindows] at h
  cases h
  rfl

/-- Wherever a full pass is cut, it is before its first write, or in its turns. -/
theorem reaches_run_pass
    (h : Program.Reaches (perform around) (run_pass settings none) world final) :
    final.db = world.db ∨ ∃ now_data windows after, data_now world.db = some now_data ∧
      metric_windows settings now_data = .ok windows ∧
      Program.Reaches (perform around) (turns settings now_data windows around.tie world.db)
        world after ∧ final.db = after.db := by
  rcases (run_pass_reads settings none around world).reaches h with h | rfl
  · unfold after_reads at h
    cases hnow : data_now world.db with
    | none =>
      simp only [hnow] at h
      rcases Program.reaches_exec_iff.mp h with rfl | h
      · exact .inl rfl
      · rw [Program.reaches_ret_iff.mp h]
        exact .inl rfl
    | some now_data =>
      simp only [hnow, Option.any_none, Bool.false_eq_true, if_false] at h
      cases hwindows : metric_windows settings now_data with
      | error error =>
        simp only [hwindows] at h
        rw [Program.reaches_raise_iff.mp h]
        exact .inl rfl
      | ok windows =>
        simp only [hwindows] at h
        rcases Program.reaches_bind h with hturns | ⟨after, value, hturns, hrest⟩
        · exact .inr ⟨now_data, windows, final, rfl, hwindows, hturns, rfl⟩
        · refine .inr ⟨now_data, windows, after, rfl, hwindows, ?_, ?_⟩
          · have hreached := Program.Reaches.run (perform around)
              (turns settings now_data windows around.tie world.db) world
            rwa [hturns] at hreached
          · rcases Program.reaches_exec_iff.mp hrest with rfl | hrest
            · rfl
            · rw [Program.reaches_ret_iff.mp hrest]
              rfl
  · exact .inl rfl

/-! ### What the turns do to the views -/

/-- A pass never writes telemetry or the device registry. -/
theorem telemetry_perform (around : Surroundings) (effect : Effect) (world : World) :
    (perform around effect world).1.db.telemetry = world.db.telemetry ∧
      (perform around effect world).1.db.devices = world.db.devices := by
  cases effect <;> exact ⟨rfl, rfl⟩

theorem telemetry_reaches {α : Type} {program : Pass α}
    (h : Program.Reaches (perform around) program world final) :
    final.db.telemetry = world.db.telemetry ∧ final.db.devices = world.db.devices := by
  refine h.invariant (fun w => w.db.telemetry = world.db.telemetry ∧
    w.db.devices = world.db.devices) (fun effect w hw => ?_) ⟨rfl, rfl⟩
  obtain ⟨htelemetry, hdevices⟩ := telemetry_perform around effect w
  exact ⟨htelemetry.trans hw.1, hdevices.trans hw.2⟩

theorem telemetry_run {α : Type} {program : Pass α} {result : Except PyError α}
    (h : program.run (perform around) world = (final, result)) :
    final.db.telemetry = world.db.telemetry ∧ final.db.devices = world.db.devices := by
  have hreached := Program.Reaches.run (perform around) program world
  rw [h] at hreached
  exact telemetry_reaches hreached

/-- What the turns done so far have made of the views: each of their own is
    advanced, every other one is as the pass found it. -/
structure Advanced (settings : AnalyticsSettings) (now_data : UtcDatetime) (tie : TieBreak)
    (start : Database) (done : List Job) (db : Database) : Prop where
  own : ∀ job ∈ done, ∃ fc, job.forecast now_data = .ok fc ∧
    view db job.device_id job.metric.kind =
      (view start job.device_id job.metric.kind).advance settings job.device_id job.metric tie fc
  other : ∀ device_id kind, (device_id, kind) ∉ done.map Job.key →
    view db device_id kind = view start device_id kind

theorem advanced_start {tie : TieBreak} {start : Database} :
    Advanced settings now_data tie start [] start where
  own _ hjob := absurd hjob List.not_mem_nil
  other _ _ _ := rfl

theorem Advanced.turn {tie : TieBreak} {start : Database} {done : List Job} {job : Job}
    {before after : Database} {fc : Forecast UtcDatetime ℚ}
    (h : Advanced settings now_data tie start done before) (hnew : job.key ∉ done.map Job.key)
    (hforecast : job.forecast now_data = .ok fc)
    (hacted : Acted settings job fc (latest_alert_states tie start job.device_id job.metric.kind)
      before after) : Advanced settings now_data tie start (done ++ [job]) after where
  own other hother := by
    cases List.mem_append.mp hother with
    | inl hdone =>
      obtain ⟨other_fc, hother_fc, hview⟩ := h.own other hdone
      refine ⟨other_fc, hother_fc, ?_⟩
      have hne : ¬ (other.device_id = job.device_id ∧ other.metric.kind = job.metric.kind) := by
        rintro ⟨hdevice, hkind⟩
        have hkey : other.key = job.key := Prod.ext hdevice hkind
        exact hnew (hkey ▸ List.mem_map_of_mem hdone)
      rw [hacted, if_neg hne, hview]
    | inr hlast =>
      obtain rfl := List.mem_singleton.mp hlast
      refine ⟨fc, hforecast, ?_⟩
      rw [hacted, if_pos ⟨rfl, rfl⟩, h.other _ _ hnew]
      rfl
  other device_id kind habsent := by
    rw [List.map_append, List.mem_append, not_or, List.map_singleton, List.mem_singleton] at habsent
    obtain ⟨hdone, hlast⟩ := habsent
    have hne : ¬ (device_id = job.device_id ∧ kind = job.metric.kind) := by
      rintro ⟨rfl, rfl⟩
      exact hlast rfl
    rw [hacted, if_neg hne, h.other device_id kind hdone]

/-- A (device, kind) comes up once in a pass. -/
theorem key_not_mem_done {items done rest : List Job} {job : Job}
    (hnodup : (items.map Job.key).Nodup) (hitems : items = done ++ job :: rest) :
    job.key ∉ done.map Job.key := by
  rw [hitems, List.map_append, List.map_cons] at hnodup
  intro hmem
  exact (List.disjoint_of_nodup_append hnodup) hmem List.mem_cons_self

/-- The turns of a completed pass. -/
theorem run_turns {tie : TieBreak}
    (hwindows : metric_windows settings now_data = .ok windows)
    (h : (turns settings now_data windows tie world.db).run (perform around) world =
      (final, .ok ())) :
    Advanced settings now_data tie world.db (jobs world.db now_data windows) final.db := by
  refine Program.run_forEach
    (fun done w => Advanced settings now_data tie world.db done w.db) ?_ ?_ h
  · intro done job rest before after hitems hadvanced hturn
    obtain ⟨fc, hforecast, hacted⟩ := run_turn hturn
    have hnew := key_not_mem_done (jobs_keys_nodup world.db hwindows) hitems
    exact hadvanced.turn hnew hforecast hacted
  · exact advanced_start

/-- The jobs a pass gets to: those before the first forecast that raises. -/
def reached_jobs (now_data : UtcDatetime) (items : List Job) : List Job :=
  items.takeWhile fun job => (job.forecast now_data).isOk

theorem reached_jobs_of_error {job : Job} {items : List Job} {error : PyError}
    (hforecast : job.forecast now_data = .error error) :
    reached_jobs now_data (job :: items) = [] := by
  have hstop : (job.forecast now_data).isOk = false := by rw [hforecast]; rfl
  simp [reached_jobs, hstop]

theorem reached_jobs_of_ok {job : Job} {items : List Job} {fc : Forecast UtcDatetime ℚ}
    (hforecast : job.forecast now_data = .ok fc) :
    reached_jobs now_data (job :: items) = job :: reached_jobs now_data items := by
  have hgo : (job.forecast now_data).isOk = true := by rw [hforecast]; rfl
  simp [reached_jobs, hgo]

/-- The turns of a pass that may have raised: those it got to. -/
theorem run_turns_reached {tie : TieBreak} {start : Database} (done : List Job) {items : List Job}
    {result : Except PyError Unit} (hnodup : ((done ++ items).map Job.key).Nodup)
    (hdone : Advanced settings now_data tie start done world.db)
    (h : (Program.forEach items (turn settings now_data (latest_alert_states tie start))).run
      (perform around) world = (final, result)) :
    Advanced settings now_data tie start (done ++ reached_jobs now_data items) final.db := by
  induction items generalizing done world with
  | nil =>
    cases h
    rwa [reached_jobs, List.takeWhile_nil, List.append_nil]
  | cons job items ih =>
    rw [Program.forEach, Program.run_bind] at h
    cases hforecast : job.forecast now_data with
    | error error =>
      rw [turn_raises hforecast] at h
      cases h
      rwa [reached_jobs_of_error hforecast, List.append_nil]
    | ok fc =>
      obtain ⟨after, hturn⟩ := turn_completes settings around world (latest_alert_states tie start)
        hforecast
      rw [hturn] at h
      obtain ⟨fc', hforecast', hacted⟩ := run_turn hturn
      have hnew := key_not_mem_done hnodup rfl
      rw [reached_jobs_of_ok hforecast, ← List.singleton_append, ← List.append_assoc]
      refine ih _ ?_ (hdone.turn hnew hforecast' hacted) h
      rwa [List.append_assoc, List.singleton_append]

variable (around) (world) in
/-- Turns that find every view they get to settled write no row and post
    nothing, and raise nothing of their own. -/
theorem run_turns_settled {alert_states : String → String → Option (AlertState UtcDatetime)}
    {items : List Job} {start : Database}
    (hsettled : ∀ job ∈ reached_jobs now_data items, ∀ fc, job.forecast now_data = .ok fc →
      Settled settings job.device_id job.metric fc (alert_states job.device_id job.metric.kind)
        (view start job.device_id job.metric.kind))
    (hforecasts : world.db.forecasts = start.forecasts)
    (hevents : world.db.alert_events = start.alert_events) :
    ∃ after result, (Program.forEach items (turn settings now_data alert_states)).run
        (perform around) world = (after, result) ∧
      (reached_jobs now_data items = items → result = .ok ()) ∧
      after.db.forecasts = start.forecasts ∧ after.db.alert_events = start.alert_events ∧
      after.sent = world.sent := by
  induction items generalizing world with
  | nil => exact ⟨world, .ok (), rfl, fun _ => rfl, hforecasts, hevents, rfl⟩
  | cons job items ih =>
    rw [Program.forEach, Program.run_bind]
    cases hforecast : job.forecast now_data with
    | error error =>
      rw [turn_raises hforecast, reached_jobs_of_error hforecast]
      exact ⟨world, .error error, rfl, (fun hall => by cases hall), hforecasts, hevents, rfl⟩
    | ok fc =>
      rw [reached_jobs_of_ok hforecast] at hsettled ⊢
      have hview := hsettled job List.mem_cons_self fc hforecast
      rw [← view_congr hforecasts hevents] at hview
      obtain ⟨turned, hturn, hforecasts', hevents', hsent'⟩ :=
        run_turn_settled around hforecast hview
      obtain ⟨after, result, hrest, hok, hforecasts'', hevents'', hsent''⟩ := ih turned
        (fun other hother => hsettled other (List.mem_cons_of_mem _ hother))
        (hforecasts'.trans hforecasts) (hevents'.trans hevents)
      refine ⟨after, result, ?_, fun hall => hok (List.cons.inj hall).2, hforecasts'', hevents'',
        hsent''.trans hsent'⟩
      rw [hturn]
      exact hrest

/-- After its turns, a pass finds every view settled. -/
theorem settled_of_advanced {tie : TieBreak} {start db : Database} {items : List Job} {job : Job}
    {fc : Forecast UtcDatetime ℚ} (h : Advanced settings now_data tie start items db)
    (hjob : job ∈ items) (hforecast : job.forecast now_data = .ok fc) :
    Settled settings job.device_id job.metric fc
      (latest_alert_states tie db job.device_id job.metric.kind)
      (view db job.device_id job.metric.kind) := by
  obtain ⟨fc', hforecast', hview⟩ := h.own job hjob
  obtain rfl := Except.ok.inj (hforecast.symm.trans hforecast')
  have hsettled := settled_advance settings job.device_id job.metric fc tie (view start job.device_id job.metric.kind)
  rw [← hview] at hsettled
  exact hsettled

theorem reached_of_advanced {tie : TieBreak} {start db : Database} {items : List Job}
    (h : Advanced settings now_data tie start items db) : reached_jobs now_data items = items := by
  apply List.takeWhile_eq_self_iff.mpr
  intro job hjob
  obtain ⟨fc, hforecast, -⟩ := h.own job hjob
  rw [hforecast]
  rfl

/-- A view during a pass: as the pass found it, or somewhere between there and
    the end of its own turn. -/
def Underway (settings : AnalyticsSettings) (now_data : UtcDatetime) (tie : TieBreak)
    (items : List Job) (start db : Database) : Prop :=
  ∀ device_id kind, view db device_id kind = view start device_id kind ∨
    ∃ job ∈ items, job.key = (device_id, kind) ∧ ∃ fc, job.forecast now_data = .ok fc ∧
      View.Between settings job.device_id job.metric tie fc (view start device_id kind)
        (view db device_id kind)

theorem Advanced.underway {tie : TieBreak} {start db : Database} {done items : List Job}
    (h : Advanced settings now_data tie start done db) (hdone : done ⊆ items) :
    Underway settings now_data tie items start db := by
  intro device_id kind
  by_cases hmem : (device_id, kind) ∈ done.map Job.key
  · obtain ⟨job, hjob, hkey⟩ := List.mem_map.mp hmem
    obtain ⟨rfl, rfl⟩ := Prod.mk.inj hkey
    obtain ⟨fc, hforecast, hview⟩ := h.own job hjob
    exact .inr ⟨job, hdone hjob, rfl, fc, hforecast, .inr (.inr hview)⟩
  · exact .inl (h.other device_id kind hmem)

/-- Wherever the turns of a pass are cut. -/
theorem reaches_turns {tie : TieBreak} (hwindows : metric_windows settings now_data = .ok windows)
    (h : Program.Reaches (perform around) (turns settings now_data windows tie world.db)
      world final) :
    Underway settings now_data tie (jobs world.db now_data windows) world.db final.db := by
  refine Program.reaches_forEach
    (fun done w => done ⊆ jobs world.db now_data windows ∧
      Advanced settings now_data tie world.db done w.db)
    (fun w => Underway settings now_data tie (jobs world.db now_data windows) world.db w.db)
    ?_ ?_ ?_ ?_ h
  · rintro done job rest before after hitems ⟨hsubset, hadvanced⟩ hturn
    obtain ⟨fc, hforecast, hacted⟩ := run_turn hturn
    have hnew := key_not_mem_done (jobs_keys_nodup world.db hwindows) hitems
    refine ⟨?_, hadvanced.turn hnew hforecast hacted⟩
    rw [hitems]
    simp
  · rintro done job rest before after hitems ⟨hsubset, hadvanced⟩ hturn
    have hnew := key_not_mem_done (jobs_keys_nodup world.db hwindows) hitems
    rcases reaches_turn hturn with hsame | ⟨fc, hforecast, hinserted | hacted⟩
    · exact hsame ▸ hadvanced.underway hsubset
    · intro device_id kind
      rw [hinserted, view_inserted_forecast, (forecast_facts hforecast).kind]
      split
      · next hpair =>
        obtain ⟨rfl, rfl⟩ := hpair
        refine .inr ⟨job, hitems ▸ by simp, rfl, fc, hforecast, .inr (.inl ?_)⟩
        rw [hadvanced.other _ _ hnew]
      · exact hadvanced.underway hsubset device_id kind
    · apply (hadvanced.turn hnew hforecast hacted).underway
      rw [hitems]
      simp
  · rintro done before ⟨hsubset, hadvanced⟩
    exact hadvanced.underway hsubset
  · exact ⟨List.nil_subset _, advanced_start⟩

end planter_telemetry.analytics.service
