import PlanterTelemetry.Analytics.Forecast
import PlanterTelemetry.Analytics.View

open planter_telemetry.python planter_telemetry.migrations planter_telemetry.analytics.model
open planter_telemetry.analytics.config planter_telemetry.analytics.db

namespace planter_telemetry.analytics.service

variable {settings : AnalyticsSettings} {around : Surroundings} {world after : World}
  {device_id : String} {metric : Metric ℚ} {fc : Forecast UtcDatetime ℚ}
  {previous : Option (AlertState UtcDatetime)}

section Perform

variable {α : Type} (around : Surroundings) (world : World)

@[simp] theorem run_insert_alert_event_bind (decision : AlertDecision)
    (next : Option Nat → Pass α) :
    ((Store.insert_alert_event decision).bind next).run (perform around) world =
      (next (insert_alert_event world.db decision).2).run (perform around)
        { world with db := (insert_alert_event world.db decision).1 } := rfl

@[simp] theorem run_count (bump : Counters → Counters) :
    (count bump).run (perform around) world =
      ({ world with counters := bump world.counters }, .ok ()) := rfl

end Perform

/-! ### Statements that leave every view alone -/

/-- The effects of an announcement: they write no forecast and no decision. -/
def Quiet : Effect → Prop
  | .count _ | .post_ntfy _ | .mark_notified _ _ | .set_devices_forecast _ => True
  | _ => False

theorem view_quiet {effect : Effect} (hquiet : Quiet effect) (device_id kind : String) :
    view (perform around effect world).1.db device_id kind = view world.db device_id kind := by
  cases effect with
  | count | post_ntfy | set_devices_forecast => rfl
  | mark_notified event_id error => exact view_mark_notified world.db event_id error device_id kind
  | _ => cases hquiet

theorem announce_only_quiet (event_id : Nat) (decision : AlertDecision) :
    (announce settings event_id decision).Only Quiet := by
  unfold announce
  cases decision.state with
  | cleared => exact ⟨trivial, fun _ => trivial⟩
  | firing =>
    refine ⟨trivial, fun _ => ?_⟩
    by_cases hurl : settings.ntfy_url ≠ ""
    · rw [if_pos hurl]
      refine ⟨trivial, fun error => ⟨trivial, fun _ => ?_⟩⟩
      cases error with
      | none => trivial
      | some text => exact ⟨trivial, fun _ => trivial⟩
    · rw [if_neg hurl]
      trivial

theorem view_announce {event_id : Nat} {decision : AlertDecision}
    (h : Program.Reaches (perform around) (announce settings event_id decision) world after)
    (device_id kind : String) : view after.db device_id kind = view world.db device_id kind :=
  (announce_only_quiet event_id decision).invariant
    (fun final => view final.db device_id kind = view world.db device_id kind)
    (fun _ _ hquiet hview => (view_quiet hquiet device_id kind).trans hview) h rfl

/-- An announcement never raises: a failed post is an answer too. -/
theorem run_announce (event_id : Nat) (decision : AlertDecision) (world : World) :
    ∃ after, (announce settings event_id decision).run (perform around) world = (after, .ok ()) := by
  unfold announce
  cases decision.state with
  | cleared => exact ⟨_, rfl⟩
  | firing =>
    by_cases hurl : settings.ntfy_url ≠ ""
    · simp only [if_pos hurl, Program.bind_eq, count, post_ntfy, Store.mark_notified,
        Program.perform_bind, Program.run_exec]
      split
      · exact ⟨_, rfl⟩
      · exact ⟨_, rfl⟩
    · simp only [if_neg hurl]
      exact ⟨_, rfl⟩

/-! ### One turn of the loops -/

/-- The database once a forecast is inserted. -/
def inserted_forecast (db : Database) (device_id : String) (fc : Forecast UtcDatetime ℚ) :
    Database :=
  match fc.as_of with
  | none => db
  | some as_of => (insert_forecast db (forecast_row device_id as_of fc)).1

theorem view_inserted_forecast (db : Database) (other kind : String) :
    view (inserted_forecast db device_id fc) other kind =
      if other = device_id ∧ kind = fc.kind then (view db other kind).with_forecast device_id fc
      else view db other kind := by
  unfold inserted_forecast
  cases has : fc.as_of with
  | none =>
    have hsame (v : View) : v.with_forecast device_id fc = v := by
      simp [View.with_forecast, has]
    rw [hsame, ite_self]
  | some as_of => exact view_insert_forecast db has other kind

variable (around) (device_id) (fc) in
/-- Inserting a forecast completes, and all it writes besides is a counter. -/
theorem run_record_forecast (world : World) :
    ∃ after, (record_forecast device_id fc).run (perform around) world = (after, .ok ()) ∧
      after.db = inserted_forecast world.db device_id fc ∧ after.sent = world.sent := by
  unfold record_forecast Store.insert_forecast inserted_forecast
  cases fc.as_of with
  | none => exact ⟨world, rfl, rfl, rfl⟩
  | some as_of =>
    simp only [Program.bind_eq, Program.perform_bind, Program.run_exec]
    cases (perform around (.insert_forecast (forecast_row device_id as_of fc)) world).2 with
    | true => exact ⟨_, rfl, rfl, rfl⟩
    | false => exact ⟨_, rfl, rfl, rfl⟩

theorem reaches_record_forecast
    (h : Program.Reaches (perform around) (record_forecast device_id fc) world after) :
    after.db = world.db ∨ after.db = inserted_forecast world.db device_id fc := by
  unfold record_forecast Store.insert_forecast at h
  unfold inserted_forecast
  cases has : fc.as_of with
  | none =>
    simp only [has] at h
    rw [Program.reaches_ret_iff.mp h]
    exact .inl rfl
  | some as_of =>
    simp only [has, Program.bind_eq, Program.perform_bind, Program.reaches_exec_iff] at h
    rcases h with rfl | h
    · exact .inl rfl
    · refine .inr ?_
      cases hwritten : (perform around (.insert_forecast (forecast_row device_id as_of fc)) world).2 with
      | true =>
        rw [hwritten] at h
        rcases Program.reaches_exec_iff.mp h with rfl | h
        · rfl
        · rw [Program.reaches_ret_iff.mp h]
          rfl
      | false =>
        rw [hwritten] at h
        rw [Program.reaches_ret_iff.mp h]
        rfl

/-- Record a decision, and announce it if it is new. -/
def settle (settings : AnalyticsSettings) (decision : AlertDecision) : Pass Unit :=
  (Store.insert_alert_event decision).bind fun event_id =>
    event_id.elim (.ret ()) fun event_id => announce settings event_id decision

theorem handle_alert_eq :
    handle_alert settings device_id metric fc previous =
      (called_for settings device_id metric fc previous).elim (.ret ()) (settle settings) := by
  unfold handle_alert called_for
  cases alert_transition fc metric previous settings.cooldown_seconds CLEAR_FACTOR with
  | none => rfl
  | some transition =>
    cases fc.as_of with
    | none => rfl
    | some as_of =>
      cases fc.crosses_at with
      | none => rfl
      | some crosses_at =>
        simp only [Option.elim_some, settle, Program.bind_eq]
        congr 1
        funext event_id
        cases event_id with
        | none => rfl
        | some event_id => rfl

/-- The views once an alert was handled: the decision called for is recorded,
    and nothing else. -/
def Decided (settings : AnalyticsSettings) (device_id : String) (metric : Metric ℚ)
    (fc : Forecast UtcDatetime ℚ) (previous : Option (AlertState UtcDatetime))
    (before after : Database) : Prop :=
  ∀ other kind, view after other kind =
    if other = device_id ∧ kind = metric.kind then
      (view before other kind).with_decision (called_for settings device_id metric fc previous)
    else view before other kind

theorem decided_of_insert {decision : AlertDecision} {db final : Database}
    (hcalled : called_for settings device_id metric fc previous = some decision)
    (hviews : ∀ other kind, view final other kind = view (insert_alert_event db decision).1 other kind) :
    Decided settings device_id metric fc previous db final := by
  obtain ⟨transition, as_of, -, -, hkey⟩ := called_for_key hcalled
  have hdevice : decision.device_id = device_id := congrArg Prod.fst hkey
  have hkind : decision.kind = metric.kind := congrArg (fun key => key.2.1) hkey
  intro other kind
  rw [hviews, view_insert_alert_event, hdevice, hkind, hcalled]

theorem decided_of_none {db : Database}
    (hcalled : called_for settings device_id metric fc previous = none) :
    Decided settings device_id metric fc previous db db := by
  intro other kind
  rw [hcalled]
  exact (ite_self _).symm

/-- Wherever handling an alert is cut, its decision is recorded or nothing has
    happened. -/
theorem reaches_handle_alert
    (h : Program.Reaches (perform around)
      (handle_alert settings device_id metric fc previous) world after) :
    after.db = world.db ∨ Decided settings device_id metric fc previous world.db after.db := by
  rw [handle_alert_eq] at h
  cases hcalled : called_for settings device_id metric fc previous with
  | none =>
    rw [hcalled] at h
    rw [Program.reaches_ret_iff.mp h]
    exact .inl rfl
  | some decision =>
    rw [hcalled] at h
    rcases Program.reaches_exec_iff.mp h with rfl | h
    · exact .inl rfl
    · refine .inr (decided_of_insert hcalled fun other kind => ?_)
      cases hid : (insert_alert_event world.db decision).2 with
      | none =>
        simp only [perform, Program.ret_bind, hid] at h
        rw [Program.reaches_ret_iff.mp h]
      | some event_id =>
        simp only [perform, Program.ret_bind, hid] at h
        exact view_announce h other kind

/-- A completed one has recorded it. -/
theorem run_handle_alert
    (h : (handle_alert settings device_id metric fc previous).run (perform around) world =
      (after, .ok ())) : Decided settings device_id metric fc previous world.db after.db := by
  rw [handle_alert_eq] at h
  cases hcalled : called_for settings device_id metric fc previous with
  | none =>
    rw [hcalled] at h
    cases h
    exact decided_of_none hcalled
  | some decision =>
    rw [hcalled] at h
    apply decided_of_insert hcalled
    intro other kind
    rw [Option.elim_some, settle, run_insert_alert_event_bind] at h
    cases hid : (insert_alert_event world.db decision).2 with
    | none =>
      rw [hid] at h
      cases h
      rfl
    | some event_id =>
      rw [hid] at h
      have hreached := Program.Reaches.run (perform around)
        (announce settings event_id decision)
        { world with db := (insert_alert_event world.db decision).1 }
      rw [show (announce settings event_id decision).run (perform around) _ = (after, .ok ()) from h]
        at hreached
      exact view_announce hreached other kind

variable (settings) (around) (device_id) (metric) (fc) (previous) in
theorem handle_alert_completes (world : World) :
    ∃ after, (handle_alert settings device_id metric fc previous).run (perform around) world =
      (after, .ok ()) := by
  rw [handle_alert_eq]
  cases called_for settings device_id metric fc previous with
  | none => exact ⟨world, rfl⟩
  | some decision =>
    rw [Option.elim_some, settle, run_insert_alert_event_bind]
    cases (insert_alert_event world.db decision).2 with
    | none => exact ⟨_, rfl⟩
    | some event_id => exact run_announce event_id decision _

/-- One (device, metric) of a pass, with the samples its forecast is made of. -/
structure Job where
  device_id : String
  metric : Metric ℚ
  window_start : UtcDatetime
  samples : List (Sample UtcDatetime ℚ)

def Job.forecast (job : Job) (now_data : UtcDatetime) : Except PyError (Forecast UtcDatetime ℚ) :=
  model.forecast Z_95 job.samples job.metric now_data (some job.window_start)

/-- One turn of the loops of `run_pass`. -/
def turn (settings : AnalyticsSettings) (now_data : UtcDatetime)
    (alert_states : String → String → Option (AlertState UtcDatetime)) (job : Job) : Pass Unit := do
  let fc ← Program.lift (job.forecast now_data)
  record_forecast job.device_id fc
  handle_alert settings job.device_id job.metric fc (alert_states job.device_id job.metric.kind)

/-- The views after a turn: its own (device, kind) has the forecast and the
    decision, every other one is untouched. -/
def Acted (settings : AnalyticsSettings) (job : Job) (fc : Forecast UtcDatetime ℚ)
    (previous : Option (AlertState UtcDatetime)) (before after : Database) : Prop :=
  ∀ other kind, view after other kind =
    if other = job.device_id ∧ kind = job.metric.kind then
      (view before other kind).act settings job.device_id job.metric fc previous
    else view before other kind

variable {job : Job} {now_data : UtcDatetime}
  {alert_states : String → String → Option (AlertState UtcDatetime)}

theorem acted_of_decided {before : Database} {final : Database} (hkind : fc.kind = job.metric.kind)
    (h : Decided settings job.device_id job.metric fc previous
      (inserted_forecast before job.device_id fc) final) :
    Acted settings job fc previous before final := by
  intro other kind
  rw [h other kind, view_inserted_forecast, hkind]
  split
  · rfl
  · rfl

/-- A completed turn. -/
theorem run_turn (h : (turn settings now_data alert_states job).run (perform around) world =
      (after, .ok ())) :
    ∃ fc, job.forecast now_data = .ok fc ∧
      Acted settings job fc (alert_states job.device_id job.metric.kind) world.db after.db := by
  unfold turn at h
  cases hforecast : job.forecast now_data with
  | error error => simp [hforecast] at h
  | ok fc =>
    refine ⟨fc, rfl, acted_of_decided (forecast_facts hforecast).kind ?_⟩
    obtain ⟨recorded, hrecord, hdb, -⟩ := run_record_forecast around job.device_id fc world
    simp only [hforecast, Program.lift_ok, Program.bind_eq, Program.ret_bind] at h
    rw [Program.run_bind_of_ok hrecord] at h
    exact hdb ▸ run_handle_alert h

/-- A turn raises exactly what its forecast raises, before any statement. -/
theorem turn_raises {error : PyError} (hforecast : job.forecast now_data = .error error) :
    (turn settings now_data alert_states job).run (perform around) world = (world, .error error) := by
  unfold turn
  simp only [hforecast, Program.lift_error, Program.bind_eq, Program.raise_bind, Program.run_raise]

variable (settings) (around) (alert_states) (world) in
theorem turn_completes (hforecast : job.forecast now_data = .ok fc) :
    ∃ after, (turn settings now_data alert_states job).run (perform around) world =
      (after, .ok ()) := by
  obtain ⟨recorded, hrecord, -, -⟩ := run_record_forecast around job.device_id fc world
  obtain ⟨after, halert⟩ := handle_alert_completes settings around job.device_id job.metric fc
    (alert_states job.device_id job.metric.kind) recorded
  refine ⟨after, ?_⟩
  unfold turn
  simp only [hforecast, Program.lift_ok, Program.bind_eq, Program.ret_bind]
  rw [Program.run_bind_of_ok hrecord, halert]

/-- Wherever a turn is cut, the views of its own (device, kind) are as before,
    have the forecast, or have the forecast and the decision. -/
theorem reaches_turn
    (h : Program.Reaches (perform around) (turn settings now_data alert_states job) world after) :
    after.db = world.db ∨ ∃ fc, job.forecast now_data = .ok fc ∧
      (after.db = inserted_forecast world.db job.device_id fc ∨
        Acted settings job fc (alert_states job.device_id job.metric.kind) world.db after.db) := by
  unfold turn at h
  cases hforecast : job.forecast now_data with
  | error error =>
    simp only [hforecast, Program.lift_error, Program.bind_eq, Program.raise_bind] at h
    rw [Program.reaches_raise_iff.mp h]
    exact .inl rfl
  | ok fc =>
    simp only [hforecast, Program.lift_ok, Program.bind_eq, Program.ret_bind] at h
    rcases Program.reaches_bind h with hrecord | ⟨recorded, value, hrecord, halert⟩
    · cases reaches_record_forecast hrecord with
      | inl hsame => exact .inl hsame
      | inr hinserted => exact .inr ⟨fc, rfl, .inl hinserted⟩
    · obtain ⟨recorded', hrecord', hdb, -⟩ := run_record_forecast around job.device_id fc world
      obtain rfl : recorded = recorded' := congrArg Prod.fst (hrecord.symm.trans hrecord')
      refine .inr ⟨fc, rfl, ?_⟩
      cases reaches_handle_alert halert with
      | inl hsame => exact .inl (hsame.trans hdb)
      | inr hdecided => exact .inr (acted_of_decided (forecast_facts hforecast).kind (hdb ▸ hdecided))

variable (around) in
/-- A turn on a settled view writes no row and posts nothing. -/
theorem run_turn_settled (hforecast : job.forecast now_data = .ok fc)
    (hsettled : Settled settings job.device_id job.metric fc
      (alert_states job.device_id job.metric.kind) (view world.db job.device_id job.metric.kind)) :
    ∃ after, (turn settings now_data alert_states job).run (perform around) world =
        (after, .ok ()) ∧ after.db.forecasts = world.db.forecasts ∧
      after.db.alert_events = world.db.alert_events ∧ after.sent = world.sent := by
  have hkind := (forecast_facts hforecast).kind
  have hforecasts : (inserted_forecast world.db job.device_id fc).forecasts = world.db.forecasts := by
    unfold inserted_forecast
    cases has : fc.as_of with
    | none => rfl
    | some as_of =>
      obtain ⟨row, hrow, hstatus⟩ := hsettled.forecast as_of has
      refine KeyedTable.upsert_eq_self ?_ (overwrite_eq_self hstatus)
      rw [← hkind] at hrow
      exact hrow
  have hevents : (inserted_forecast world.db job.device_id fc).alert_events =
      world.db.alert_events := by
    unfold inserted_forecast
    split
    · rfl
    · rfl
  obtain ⟨recorded, hrecord, hdb, hsent⟩ := run_record_forecast around job.device_id fc world
  rw [← hdb] at hforecasts hevents
  unfold turn
  simp only [hforecast, Program.lift_ok, Program.bind_eq, Program.ret_bind]
  rw [Program.run_bind_of_ok hrecord, handle_alert_eq]
  cases hcalled : called_for settings job.device_id job.metric fc
      (alert_states job.device_id job.metric.kind) with
  | none => exact ⟨recorded, rfl, hforecasts, hevents, hsent⟩
  | some decision =>
    obtain ⟨transition, as_of, -, -, hkey⟩ := called_for_key hcalled
    have hdevice : decision.device_id = job.device_id := congrArg Prod.fst hkey
    have hsame : decision.kind = job.metric.kind := congrArg (fun key => key.2.1) hkey
    have hpresent : decision.key ∈ recorded.db.alert_events.keys := by
      rw [hevents, alert_key_mem_iff, hdevice, hsame]
      exact hsettled.decision decision hcalled
    have hconflict : (insert_alert_event recorded.db decision).2 = none := if_pos hpresent
    rw [Option.elim_some, settle, run_insert_alert_event_bind, hconflict]
    refine ⟨_, rfl, hforecasts, ?_, hsent⟩
    exact (KeyedTable.insertIgnore_of_mem hpresent).trans hevents

end planter_telemetry.analytics.service
