import PlanterTelemetry.Analytics.Run
import PlanterTelemetry.Library.Protocol

open planter_telemetry.python planter_telemetry.migrations
open planter_telemetry.analytics.model planter_telemetry.analytics.config
open planter_telemetry.analytics.db

namespace planter_telemetry.analytics.service

/-! ### The order of the statements of a pass -/

/-- How far a pass is with a decision: it has none at hand; its row is new; the
    decision is counted and to be posted; the post was answered; the answer was
    an error and is recorded. -/
inductive Announcing where
  | idle
  | recorded (event_id : Nat) (decision : AlertDecision)
  | counted (event_id : Nat) (decision : AlertDecision)
  | posted (event_id : Nat) (notification : Notification) (answer : Option String)
  | failed

/-- What is posted about a decision. -/
def notification_of (decision : AlertDecision) : Notification :=
  ⟨decision.device_id, decision.kind, decision.crosses_at, decision.horizon_seconds⟩

/-- The counter that a new decision goes to. -/
def counted_as : AlertTransition → Counters → Counters
  | .firing, c => { c with alerts_fired := c.alerts_fired + 1 }
  | .cleared, c => { c with alerts_cleared := c.alerts_cleared + 1 }

/-- What a pass does with a decision, in which order: once its row is new it is
    counted, then posted where notifications are on, and the answer goes to that
    row. -/
def pass_order (settings : AnalyticsSettings) : Protocol Effect.Response Announcing where
  allowed
    | .idle, .count bump => bump = fun c => { c with forecasts_written := c.forecasts_written + 1 }
    | .idle, .post_ntfy _ | .idle, .mark_notified _ _ => False
    | .idle, _ => True
    | .recorded _ decision, .count bump => bump = counted_as decision.state
    | .counted _ decision, .post_ntfy notification => notification = notification_of decision
    | .posted event_id _ answer, .mark_notified marked error => marked = event_id ∧ error = answer
    | .failed, .count bump => bump = fun c => { c with notify_failures := c.notify_failures + 1 }
    | _, _ => False
  after
    | .idle, .insert_alert_event decision, some event_id => .recorded event_id decision
    | .recorded event_id decision, .count _, _ =>
      if decision.state = .firing ∧ settings.ntfy_url ≠ "" then .counted event_id decision else .idle
    | .counted event_id _, .post_ntfy notification, answer => .posted event_id notification answer
    | .posted _ _ answer, .mark_notified _ _, _ => if answer.isSome then .failed else .idle
    | _, _, _ => .idle

variable {settings : AnalyticsSettings}

theorem announce_follows (settings : AnalyticsSettings) (event_id : Nat) (decision : AlertDecision) :
    (announce settings event_id decision).Follows (pass_order settings) .idle
      (.recorded event_id decision) := by
  unfold announce
  cases hstate : decision.state with
  | cleared =>
    refine ⟨(congrArg counted_as hstate).symm, fun _ => ?_⟩
    simp [Program.Follows, pass_order, hstate]
  | firing =>
    refine ⟨(congrArg counted_as hstate).symm, fun _ => ?_⟩
    by_cases hurl : settings.ntfy_url ≠ ""
    · simp only [if_pos hurl, pass_order, hstate, true_and]
      refine ⟨rfl, fun answer => ⟨⟨rfl, rfl⟩, fun _ => ?_⟩⟩
      cases answer with
      | none => exact rfl
      | some error => exact ⟨rfl, fun _ => rfl⟩
    · simp only [if_neg hurl, pass_order, hstate, true_and]
      exact rfl

theorem handle_alert_follows (settings : AnalyticsSettings) (device_id : String) (metric : Metric ℚ)
    (fc : Forecast UtcDatetime ℚ) (previous : Option (AlertState UtcDatetime)) :
    (handle_alert settings device_id metric fc previous).Follows (pass_order settings) .idle .idle := by
  unfold handle_alert
  split
  · refine ⟨trivial, fun event_id => ?_⟩
    cases event_id with
    | none => exact rfl
    | some event_id => exact announce_follows settings event_id _
  · exact rfl

theorem record_forecast_follows (settings : AnalyticsSettings) (device_id : String)
    (fc : Forecast UtcDatetime ℚ) :
    (record_forecast device_id fc).Follows (pass_order settings) .idle .idle := by
  unfold record_forecast Store.insert_forecast
  cases fc.as_of with
  | none => exact rfl
  | some as_of =>
    refine ⟨trivial, fun written => ?_⟩
    cases written with
    | true => exact ⟨rfl, fun _ => rfl⟩
    | false => exact rfl

theorem forecast_metric_follows (settings : AnalyticsSettings) (now_data : UtcDatetime)
    (alert_states : String → String → Option (AlertState UtcDatetime)) (device_id : String)
    (by_kind : ByKind) (metric : Metric ℚ) (window_start : UtcDatetime) :
    (forecast_metric settings now_data alert_states device_id by_kind metric window_start).Follows
      (pass_order settings) .idle .idle := by
  apply (Program.Follows.lift _ _ _).bind
  intro fc
  exact (record_forecast_follows settings device_id fc).bind fun _ =>
    handle_alert_follows settings device_id metric fc _

theorem run_pass_follows (settings : AnalyticsSettings) (since : Option UtcDatetime) :
    (run_pass settings since).Follows (pass_order settings) .idle .idle := by
  unfold run_pass
  simp only
  split
  · exact rfl
  · refine ⟨trivial, fun now_data => ?_⟩
    cases now_data with
    | none => exact ⟨trivial, fun _ => rfl⟩
    | some now_data =>
      simp only [Program.ret_bind]
      split
      · exact rfl
      · apply (Program.Follows.lift _ _ _).bind
        intro windows
        refine ⟨trivial, fun window => ⟨trivial, fun alert_states => ?_⟩⟩
        simp only [Program.ret_bind, Program.bind_eq]
        refine Program.Follows.bind (Program.Follows.forEach fun device _ => ?_) fun _ =>
          ⟨trivial, fun _ => rfl⟩
        apply Program.Follows.forEach
        intro metric _
        exact forecast_metric_follows settings now_data alert_states _ _ _ _

/-! ### What a step does -/

variable {around : Surroundings} {before after : State} {action : Action}

/-- The steps, by where `run` stands and what happens there. -/
inductive Stepped (around : Surroundings) (before : State) : Action → State → Prop
  | stopped (hpc : before.pc = .top) (hstop : before.stop = true) :
    Stepped around before .proceed (before.goto .returned)
  | began (hpc : before.pc = .top) (hstop : before.stop = false) :
    Stepped around before .proceed { before with
      began := before.clock
      pc := .connecting (run_pass before.settings.toAnalyticsSettings before.last_data_now) }
  | connected {pass : Pass (Option UtcDatetime)} (hpc : before.pc = .connecting pass) :
    Stepped around before .proceed (before.goto (.passing pass))
  | executed {effect : Effect} {next : effect.Response → Pass (Option UtcDatetime)}
      (hpc : before.pc = .passing (.exec effect next)) :
    Stepped around before .proceed { before with
      world := (perform around effect before.world).1
      pc := .passing (next (perform around effect before.world).2) }
  | returned {now_data : Option UtcDatetime} (hpc : before.pc = .passing (.ret now_data)) :
    Stepped around before .proceed (before.goto (.closing (.returned now_data)))
  | raised {error : PyError} (hpc : before.pc = .passing (.raise error)) :
    Stepped around before .proceed (before.goto (.closing (.raised error)))
  | closed {ending : PassEnd} (hpc : before.pc = .closing ending) :
    Stepped around before .proceed (before.settle ending)
  | woke {deadline : ℚ} (hpc : before.pc = .waiting deadline)
      (hdue : before.stop = true ∨ deadline ≤ before.clock) :
    Stepped around before .proceed (before.goto .top)
  | not_connected {pass : Pass (Option UtcDatetime)} (took_effect : Bool)
      (hpc : before.pc = .connecting pass) :
    Stepped around before (.database_error took_effect) (before.settle .failed)
  | failed {effect : Effect} {next : effect.Response → Pass (Option UtcDatetime)} (took_effect : Bool)
      (hpc : before.pc = .passing (.exec effect next)) (hawaited : effect.awaited = true) :
    Stepped around before (.database_error took_effect) { before with
      world := if took_effect then (perform around effect before.world).1 else before.world
      pc := .closing .failed }
  | not_closed {ending : PassEnd} (took_effect : Bool) (hpc : before.pc = .closing ending) :
    Stepped around before (.database_error took_effect) (before.settle .failed)
  | tick {seconds : ℚ} (hseconds : 0 ≤ seconds) :
    Stepped around before (.tick seconds) { before with clock := before.clock + seconds }
  | set_stop : Stepped around before .set_stop { before with stop := true }
  | commit (effect : ingestion.service.Effect) :
    Stepped around before (.commit effect)
      { before with world := { before.world with db := effect.write before.world.db } }
  | restart (settings : RunSettings) :
    Stepped around before (.restart settings)
      (started settings before.world.db before.world.sent before.clock)

/-- What a pass does with the window it has read. -/
def work_on (settings : AnalyticsSettings) (now_data : UtcDatetime)
    (windows : List (Metric ℚ × UtcDatetime)) (window : List (String × ByKind)) :
    Pass (Option UtcDatetime) :=
  Store.latest_alert_states.bind fun alert_states =>
    (Program.forEach window fun (device_id, by_kind) =>
      Program.forEach windows fun (metric, window_start) =>
        forecast_metric settings now_data alert_states device_id by_kind metric window_start).bind
          fun _ => (set_devices_forecast window.length).bind fun _ => .ret (some now_data)

/-- What a pass does that is not skipped, once it has its watermark. -/
def work (settings : AnalyticsSettings) (now_data : UtcDatetime)
    (windows : List (Metric ℚ × UtcDatetime)) : Pass (Option UtcDatetime) :=
  .exec (.load_window (longest_window now_data windows)) (work_on settings now_data windows)

/-- What a pass does once it has read the newest reading. -/
def after_data_now (settings : AnalyticsSettings) (since : Option UtcDatetime) :
    Option UtcDatetime → Pass (Option UtcDatetime)
  | none => (set_devices_forecast 0).bind fun _ => .ret none
  | some now_data =>
    if since.any (fun since => decide (now_data ≤ since)) then .ret (some now_data)
    else (Program.lift (metric_windows settings now_data)).bind (work settings now_data)

/-- A pass of the configured metrics starts with its first read. -/
theorem run_pass_eq (settings : AnalyticsSettings) (since : Option UtcDatetime) :
    run_pass settings since = .exec .data_now (after_data_now settings since) := by
  have hkinds : (settings.metrics.map Metric.kind).filter (fun kind => kind ∉ WINDOW_KINDS) = [] := by
    rw [metrics_kinds]
    decide
  unfold run_pass
  simp only [hkinds, ne_eq, not_true_eq_false, if_false, Program.bind_eq]
  rfl

theorem stepped_proceed (h : proceed around before = some after) :
    Stepped around before .proceed after := by
  unfold proceed at h
  cases hpc : before.pc with
  | top =>
    simp only [hpc] at h
    cases hstop : before.stop with
    | true =>
      rw [hstop, if_pos rfl] at h
      cases h
      exact .stopped hpc hstop
    | false =>
      have hgo : ¬ before.stop = true := by rw [hstop]; decide
      have hpass := run_pass_eq before.settings.toAnalyticsSettings before.last_data_now
      rw [if_neg hgo, hpass] at h
      cases h
      have hbegan : Stepped around before .proceed _ := .began hpc hstop
      rwa [hpass] at hbegan
  | connecting pass =>
    simp only [hpc, Option.some.injEq] at h
    exact h ▸ .connected hpc
  | passing rest =>
    cases rest with
    | exec effect next =>
      simp only [hpc, Option.some.injEq] at h
      exact h ▸ .executed hpc
    | ret now_data =>
      simp only [hpc, Option.some.injEq] at h
      exact h ▸ .returned hpc
    | raise error =>
      simp only [hpc, Option.some.injEq] at h
      exact h ▸ .raised hpc
  | closing ending =>
    simp only [hpc, Option.some.injEq] at h
    exact h ▸ .closed hpc
  | waiting deadline =>
    simp only [hpc] at h
    split at h
    · next hdue =>
      cases h
      exact .woke hpc hdue
    · cases h
  | returned | crashed =>
    simp only [hpc] at h
    cases h

/-- Every step is one of them. -/
theorem stepped (h : step around before action = some after) : Stepped around before action after := by
  cases action with
  | proceed => exact stepped_proceed h
  | database_error took_effect =>
    simp only [step, database_error] at h
    split at h
    · next pass hpc =>
      cases h
      exact .not_connected took_effect hpc
    · next effect next hpc =>
      split at h
      · next hawaited =>
        cases h
        exact .failed took_effect hpc hawaited
      · cases h
    · next ending hpc =>
      cases h
      exact .not_closed took_effect hpc
    · cases h
  | tick seconds =>
    simp only [step] at h
    split at h
    · next hseconds =>
      cases h
      exact .tick hseconds
    · cases h
  | set_stop =>
    cases h
    exact .set_stop
  | commit effect =>
    cases h
    exact .commit effect
  | restart settings =>
    cases h
    exact .restart settings

@[simp] theorem settle_world (state : State) (ending : PassEnd) :
    (state.settle ending).world = state.world := by
  cases ending with
  | returned | failed | raised => rfl

/-- How far the pass in progress is with a decision, if there is one. -/
def Pc.InPass (settings : AnalyticsSettings) (phase : Announcing) : Pc → Prop
  | .connecting pass => phase = .idle ∧ pass.Follows (pass_order settings) .idle .idle
  | .passing rest => rest.Follows (pass_order settings) .idle phase
  | _ => phase = .idle

theorem in_pass_settle (settings : AnalyticsSettings) (before : State) (ending : PassEnd) :
    (before.settle ending).pc.InPass settings .idle := by
  cases ending with
  | returned | failed | raised => exact rfl

end planter_telemetry.analytics.service
