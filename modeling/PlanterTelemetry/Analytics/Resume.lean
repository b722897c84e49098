import PlanterTelemetry.Analytics.History
import Mathlib.Logic.Relation

open planter_telemetry.python planter_telemetry.migrations planter_telemetry.analytics.model
open planter_telemetry.analytics.config planter_telemetry.analytics.db
open planter_telemetry.ingestion.db

namespace planter_telemetry.analytics.service

variable {settings : AnalyticsSettings} {around : Surroundings} {now_data : UtcDatetime}
  {windows : List (Metric ℚ × UtcDatetime)} {world final : World}

/-- Equal views are equal forecast rows. -/
theorem agree_of_views {first second : Database}
    (h : ∀ device_id kind, view first device_id kind = view second device_id kind) :
    first.forecasts.Agree second.forecasts := by
  rw [KeyedTable.agree_iff_lookup]
  rintro ⟨device_id, kind, as_of⟩
  exact congrFun (congrArg View.forecasts (h device_id kind)) as_of

/-! ### A second pass -/

/-- A full pass right after a completed one inserts and updates nothing, and
    posts nothing. -/
theorem run_pass_again {done again : World} {watermark : Option UtcDatetime}
    {result : Except PyError (Option UtcDatetime)}
    (hdone : (run_pass settings none).run (perform around) world = (done, .ok watermark))
    (hagain : (run_pass settings none).run (perform around) done = (again, result)) :
    result = .ok watermark ∧ again.db.forecasts = done.db.forecasts ∧
      again.db.alert_events = done.db.alert_events ∧ again.sent = done.sent := by
  have htelemetry := (telemetry_run hdone).1
  rcases run_pass_completed hdone with ⟨hnow, rfl, -, -⟩ |
    ⟨now_data, windows, after, hnow, rfl, hwindows, hturns, hdb, -⟩
  · rw [← data_now_congr htelemetry] at hnow
    rw [(run_pass_reads settings none around done).run, after_reads, hnow] at hagain
    cases hagain
    exact ⟨rfl, rfl, rfl, rfl⟩
  · have hadvanced := run_turns hwindows hturns
    rw [← hdb, ← jobs_congr htelemetry] at hadvanced
    rw [← data_now_congr htelemetry] at hnow
    obtain ⟨turned, result', hturned, hdb', hsent', hresult⟩ := run_pass_turns hnow hwindows hagain
    obtain ⟨after', outcome, hrun, hok, hforecasts, hevents, hsent⟩ := run_turns_settled
      around done (fun job hjob fc hforecast =>
        settled_of_advanced hadvanced ((List.takeWhile_subset _) hjob) hforecast) rfl rfl
    have hsame : (turned, result') = (after', outcome) := hturned.symm.trans hrun
    obtain ⟨rfl, rfl⟩ := Prod.mk.inj hsame
    refine ⟨hresult (hok (reached_of_advanced hadvanced)), ?_, ?_, hsent'.trans hsent⟩
    · rw [hdb', hforecasts]
    · rw [hdb', hevents]

/-! ### Aborted passes -/

/-- Between passes over the same telemetry, every view stays where one pass can
    take it. -/
theorem underway_aborted {before after : World}
    (hnow : data_now world.db = some now_data)
    (hwindows : metric_windows settings now_data = .ok windows)
    (htelemetry : before.db.telemetry = world.db.telemetry)
    (hbefore : Underway settings now_data around.tie (jobs world.db now_data windows) world.db
      before.db)
    (h : Aborted settings around before after) :
    Underway settings now_data around.tie (jobs world.db now_data windows) world.db after.db := by
  rcases reaches_run_pass h with hsame | ⟨now', windows', turned, hnow', hwindows', hturns, hdb⟩
  · exact hsame ▸ hbefore
  · rw [data_now_congr htelemetry, hnow] at hnow'
    cases hnow'
    rw [hwindows] at hwindows'
    cases hwindows'
    have hunderway := reaches_turns hwindows hturns
    rw [jobs_congr htelemetry, ← hdb] at hunderway
    intro device_id kind
    rcases hunderway device_id kind with hview | ⟨job, hjob, hkey, fc, hforecast, hbetween⟩
    · rw [hview]
      exact hbefore device_id kind
    · rcases hbefore device_id kind with hstart | ⟨other, hother, hkey', fc', hforecast', hearlier⟩
      · exact .inr ⟨job, hjob, hkey, fc, hforecast, hstart ▸ hbetween⟩
      · obtain rfl : job = other := List.inj_on_of_nodup_map (jobs_keys_nodup world.db hwindows)
          hjob hother (hkey.trans hkey'.symm)
        obtain rfl : fc = fc' := Except.ok.inj (hforecast.symm.trans hforecast')
        exact .inr ⟨job, hjob, hkey, fc, hforecast, hearlier.trans hbetween⟩

/-- However often passes were aborted, the telemetry is the same and every view
    is where one pass can take it. -/
theorem underway_cut {cut : World} (hnow : data_now world.db = some now_data)
    (hwindows : metric_windows settings now_data = .ok windows)
    (h : Relation.ReflTransGen (Aborted settings around) world cut) :
    cut.db.telemetry = world.db.telemetry ∧
      Underway settings now_data around.tie (jobs world.db now_data windows) world.db cut.db := by
  induction h with
  | refl => exact ⟨rfl, fun _ _ => .inl rfl⟩
  | tail _ haborted ih =>
    obtain ⟨htelemetry, hunderway⟩ := ih
    refine ⟨(telemetry_reaches haborted).1.trans htelemetry, ?_⟩
    exact underway_aborted hnow hwindows htelemetry hunderway haborted

/-- Without telemetry a pass writes nothing, aborted or not. -/
theorem cut_of_empty {cut : World} (hnow : data_now world.db = none)
    (h : Relation.ReflTransGen (Aborted settings around) world cut) : cut.db = world.db := by
  induction h with
  | refl => rfl
  | tail _ haborted ih =>
    rcases reaches_run_pass haborted with hsame | ⟨now_data, -, -, hsome, -⟩
    · exact hsame.trans ih
    · rw [ih, hnow] at hsome
      cases hsome

/-- Turns that start from views another pass may have left end where that pass
    ends. -/
theorem views_of_underway {tie : TieBreak} {start cut done resumed : Database} {items : List Job}
    (hnodup : (items.map Job.key).Nodup)
    (hunderway : Underway settings now_data tie items start cut)
    (hdone : Advanced settings now_data tie start items done)
    (hresumed : Advanced settings now_data tie cut items resumed) (device_id kind : String) :
    view resumed device_id kind = view done device_id kind := by
  by_cases hmem : (device_id, kind) ∈ items.map Job.key
  · obtain ⟨job, hjob, hkey⟩ := List.mem_map.mp hmem
    obtain ⟨rfl, rfl⟩ := Prod.mk.inj hkey
    obtain ⟨fc, hforecast, hview⟩ := hdone.own job hjob
    obtain ⟨fc', hforecast', hview'⟩ := hresumed.own job hjob
    obtain rfl : fc = fc' := Except.ok.inj (hforecast.symm.trans hforecast')
    rw [hview, hview']
    rcases hunderway job.device_id job.metric.kind with hsame |
      ⟨other, hother, hkey, started, hstarted, hbetween⟩
    · rw [hsame]
    · obtain rfl : other = job := List.inj_on_of_nodup_map hnodup hother hjob hkey
      obtain rfl : fc = started := Except.ok.inj (hforecast.symm.trans hstarted)
      exact hbetween.advance
  · rw [hdone.other device_id kind hmem, hresumed.other device_id kind hmem]
    rcases hunderway device_id kind with hsame | ⟨job, hjob, hkey, -⟩
    · exact hsame
    · exact absurd (hkey ▸ List.mem_map_of_mem hjob) hmem

/-- A pass completed after any aborted ones leaves the views of one
    uninterrupted pass. -/
theorem views_resumed {start cut done resumed : World} {watermark result : Option UtcDatetime}
    (hdone : (run_pass settings none).run (perform around) start = (done, .ok watermark))
    (hcut : Relation.ReflTransGen (Aborted settings around) start cut)
    (hresumed : (run_pass settings none).run (perform around) cut = (resumed, .ok result))
    (device_id kind : String) :
    view resumed.db device_id kind = view done.db device_id kind := by
  rcases run_pass_completed hdone with ⟨hnow, -, hdb, -⟩ |
    ⟨now_data, windows, after, hnow, -, hwindows, hturns, hdb, -⟩
  · have hsame := cut_of_empty hnow hcut
    rcases run_pass_completed hresumed with ⟨-, -, hdb', -⟩ | ⟨now_data, -, -, hsome, -⟩
    · rw [hdb', hdb, hsame]
    · rw [hsame, hnow] at hsome
      cases hsome
  · obtain ⟨htelemetry, hunderway⟩ := underway_cut hnow hwindows hcut
    rcases run_pass_completed hresumed with ⟨hnone, -⟩ |
      ⟨now', windows', after', hnow', -, hwindows', hturns', hdb', -⟩
    · rw [data_now_congr htelemetry, hnow] at hnone
      cases hnone
    · rw [data_now_congr htelemetry, hnow] at hnow'
      cases hnow'
      rw [hwindows] at hwindows'
      cases hwindows'
      have hresumed := run_turns hwindows hturns'
      rw [jobs_congr htelemetry] at hresumed
      rw [hdb, hdb']
      exact views_of_underway (jobs_keys_nodup start.db hwindows) hunderway
        (run_turns hwindows hturns) hresumed device_id kind

/-- A pass is idempotent and resumable: done twice it writes and posts nothing
    more, and aborted any number of times and then completed it leaves the
    forecast rows and the alert decisions of one uninterrupted pass. -/
theorem run_pass_idempotent_resumable {start done : World} {watermark : Option UtcDatetime}
    (hdone : (run_pass settings none).run (perform around) start = (done, .ok watermark)) :
    (∀ again result, (run_pass settings none).run (perform around) done = (again, result) →
      result = .ok watermark ∧ again.db.forecasts = done.db.forecasts ∧
        again.db.alert_events = done.db.alert_events ∧ again.sent = done.sent) ∧
    ∀ cut resumed result, Relation.ReflTransGen (Aborted settings around) start cut →
      (run_pass settings none).run (perform around) cut = (resumed, .ok result) →
      resumed.db.forecasts.Agree done.db.forecasts ∧
        ∀ device_id kind,
          alert_history resumed.db device_id kind = alert_history done.db device_id kind := by
  refine ⟨fun again result hagain => run_pass_again hdone hagain, ?_⟩
  intro cut resumed result hcut hresumed
  have hviews := views_resumed hdone hcut hresumed
  exact ⟨agree_of_views hviews, fun device_id kind => congrArg View.history (hviews device_id kind)⟩

/-- One planter whose newest reading is below the target. -/
def dry_planter : World where
  db := accept Database.fresh (reading_at planter_00 0 5)

def notifying : AnalyticsSettings := { ntfy_url := "http://ntfy/planter" }

/-- The pass that finds the dry planter fires an alert and posts it, and so it
    does not once more, aborted before or not. -/
theorem run_pass_idempotent_resumable_dry :
    let done := ((run_pass notifying none).run (perform first_of_ties) dry_planter).1
    (done.sent.length = 1 ∧ done.db.alert_events.rows.length = 1) ∧
    (∀ again result, (run_pass notifying none).run (perform first_of_ties) done = (again, result) →
      result = .ok (some (at_minute 0)) ∧ again.db.forecasts = done.db.forecasts ∧
        again.db.alert_events = done.db.alert_events ∧ again.sent = done.sent) ∧
    ∀ cut resumed result, Relation.ReflTransGen (Aborted notifying first_of_ties) dry_planter cut →
      (run_pass notifying none).run (perform first_of_ties) cut = (resumed, .ok result) →
      resumed.db.forecasts.Agree done.db.forecasts ∧
        ∀ device_id kind,
          alert_history resumed.db device_id kind = alert_history done.db device_id kind :=
  ⟨by decide +kernel, run_pass_idempotent_resumable (Prod.ext rfl (by decide +kernel))⟩

end planter_telemetry.analytics.service
