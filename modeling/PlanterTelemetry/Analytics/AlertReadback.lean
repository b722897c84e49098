import PlanterTelemetry.Analytics.Alerts

open planter_telemetry.python planter_telemetry.migrations planter_telemetry.analytics.model
open planter_telemetry.analytics.config planter_telemetry.analytics.db
open planter_telemetry.ingestion.db

namespace planter_telemetry.analytics.service

variable {settings : AnalyticsSettings} {history : List AlertDecision} {decision : AlertDecision}
  {tie : TieBreak} {pass : PassRecord} {db : Database} {now_data : UtcDatetime}
  {windows : List (Metric ℚ × UtcDatetime)} {job : Job} {fc : Forecast UtcDatetime ℚ}

/-! ### Reading back the latest decision -/

/-- No decision of the history is newer. -/
def Newest (history : List AlertDecision) (decision : AlertDecision) : Prop :=
  decision ∈ history ∧ ∀ other ∈ history, other.as_of ≤ decision.as_of

theorem mem_newest_decisions : decision ∈ newest_decisions history ↔ Newest history decision := by
  simp only [newest_decisions, List.mem_filter, List.all_eq_true, decide_eq_true_iff, Newest]

/-- What is read back is one of the newest decisions. -/
theorem newest_of_latest {latest : AlertState UtcDatetime}
    (h : latest_of_history tie history = some latest) :
    ∃ decision, Newest history decision ∧ latest = ⟨decision.state, decision.as_of⟩ := by
  unfold latest_of_history at h
  split at h
  · cases h
  · next first rest hnewest =>
    cases h
    refine ⟨tie.pick first rest, mem_newest_decisions.mp ?_, rfl⟩
    rw [hnewest]
    exact tie.pick_mem first rest

/-- Each of the newest decisions is read back at some tie-break. -/
theorem exists_tie_of_newest (h : Newest history decision) :
    ∃ tie, latest_of_history tie history = some ⟨decision.state, decision.as_of⟩ := by
  have hmem := mem_newest_decisions.mpr h
  let tie : TieBreak := {
    pick := fun first rest => if decision ∈ first :: rest then decision else first
    pick_mem := by
      intro first rest
      split
      · next hfound => exact hfound
      · exact List.mem_cons_self }
  refine ⟨tie, ?_⟩
  unfold latest_of_history
  cases hnewest : newest_decisions history with
  | nil =>
    rw [hnewest] at hmem
    cases hmem
  | cons first rest =>
    rw [hnewest] at hmem
    have hpick : tie.pick first rest = decision := if_pos hmem
    simp only [hpick]

/-- No watermark carries both a firing and a cleared decision. -/
def Untied (history : List AlertDecision) : Prop :=
  ∀ first ∈ history, ∀ second ∈ history, first.as_of = second.as_of → first.state = second.state

/-- Without ties, every tie-break reads back the newest decision. -/
theorem Untied.latest (h : Untied history) (hnewest : Newest history decision) (tie : TieBreak) :
    latest_of_history tie history = some ⟨decision.state, decision.as_of⟩ := by
  cases hlatest : latest_of_history tie history with
  | none =>
    unfold latest_of_history at hlatest
    split at hlatest
    · next hempty =>
      have hmem := mem_newest_decisions.mpr hnewest
      rw [hempty] at hmem
      cases hmem
    · cases hlatest
  | some latest =>
    obtain ⟨other, hother, rfl⟩ := newest_of_latest hlatest
    have hsame : other.as_of = decision.as_of :=
      le_antisymm (hnewest.2 other hother.1) (hother.2 decision hnewest.1)
    rw [hsame, h other hother.1 decision hnewest.1 hsame]

/-! ### The decisions a pass calls for -/

/-- A forecast with a crossing and its horizon. -/
structure Crossing (fc : Forecast UtcDatetime ℚ) (as_of : UtcDatetime) (horizon : ℚ) : Prop where
  as_of_eq : fc.as_of = some as_of
  horizon_eq : ∃ crosses_at, fc.crosses_at = some crosses_at ∧
    horizon_seconds crosses_at as_of = horizon

/-- Right after a pass, every tie-break reads back `firing` for a forecast with
    a short horizon, none does for one past the hysteresis, and a forecast
    without a crossing has changed nothing. -/
def DecisionsKept (settings : AnalyticsSettings) (pass : PassRecord) : Prop :=
  ∀ now_data windows job fc, Forecasted settings pass.before now_data windows job fc →
    (∀ as_of horizon, Crossing fc as_of horizon →
      (horizon ≤ job.metric.alert_horizon_seconds → ∀ tie, ∃ latest,
        latest_alert_states tie pass.after job.device_id job.metric.kind = some latest ∧
          latest.state = .firing) ∧
      (job.metric.alert_horizon_seconds * CLEAR_FACTOR < horizon → ∀ tie latest,
        latest_alert_states tie pass.after job.device_id job.metric.kind = some latest →
          latest.state ≠ .firing)) ∧
    (fc.crosses_at = none → ∀ tie,
      latest_alert_states tie pass.after job.device_id job.metric.kind =
        latest_alert_states tie pass.before job.device_id job.metric.kind)

/-- Before a pass, no forecast meets the opposite decision at its own watermark. -/
def NoOppositeDecision (settings : AnalyticsSettings) (pass : PassRecord) : Prop :=
  ∀ now_data windows job fc, Forecasted settings pass.before now_data windows job fc →
    ∀ as_of horizon, Crossing fc as_of horizon →
      ∀ decision ∈ alert_history pass.before job.device_id job.metric.kind,
        decision.as_of = as_of →
        (horizon ≤ job.metric.alert_horizon_seconds → decision.state = .firing) ∧
        (job.metric.alert_horizon_seconds * CLEAR_FACTOR < horizon → decision.state = .cleared)

/-- A decision called for has the state that its horizon asks for. -/
theorem called_for_horizon {job : Job} (h : pass.called_for settings job fc = some decision) :
    ∃ horizon, Crossing fc decision.as_of horizon ∧
      (decision.state = .firing → horizon ≤ job.metric.alert_horizon_seconds) ∧
      (decision.state = .cleared → job.metric.alert_horizon_seconds < horizon ∧
        job.metric.alert_horizon_seconds * CLEAR_FACTOR < horizon) := by
  obtain ⟨htransition, has⟩ := called_for_state h
  cases hstate : decision.state with
  | firing =>
    rw [hstate] at htransition
    obtain ⟨crosses_at, as_of, hcrosses, has', hshort, -⟩ :=
      alert_transition_eq_firing_iff.mp htransition
    obtain rfl := Option.some.inj (has.symm.trans has')
    exact ⟨_, ⟨has, crosses_at, hcrosses, rfl⟩, fun _ => hshort, fun h => by cases h⟩
  | cleared =>
    rw [hstate] at htransition
    obtain ⟨crosses_at, as_of, hcrosses, has', hlong, hpast, -⟩ :=
      alert_transition_eq_cleared_iff.mp htransition
    obtain rfl := Option.some.inj (has.symm.trans has')
    exact ⟨_, ⟨has, crosses_at, hcrosses, rfl⟩, (fun h => by cases h), fun _ => ⟨hlong, hpast⟩⟩

theorem Crossing.horizon_unique {as_of : UtcDatetime} {first second : ℚ}
    (hfirst : Crossing fc as_of first) (hsecond : Crossing fc as_of second) : first = second := by
  obtain ⟨-, crosses_at, hcrosses, rfl⟩ := hfirst
  obtain ⟨-, other, hother, rfl⟩ := hsecond
  rw [Option.some.inj (hcrosses.symm.trans hother)]

/-- A forecast with a crossing calls for nothing only if its transition rule
    says so. -/
theorem transition_of_called_for_none {as_of : UtcDatetime} {horizon : ℚ}
    (hcrossing : Crossing fc as_of horizon) (h : pass.called_for settings job fc = none) :
    alert_transition fc job.metric
      (latest_alert_states pass.tie pass.before job.device_id job.metric.kind)
      settings.cooldown_seconds CLEAR_FACTOR = none := by
  obtain ⟨has, crosses_at, hcrosses, -⟩ := hcrossing
  unfold PassRecord.called_for called_for at h
  rw [has, hcrosses] at h
  cases htransition : alert_transition fc job.metric
      (latest_alert_states pass.tie pass.before job.device_id job.metric.kind)
      settings.cooldown_seconds CLEAR_FACTOR with
  | none => rfl
  | some transition =>
    rw [htransition] at h
    cases h

section CompletedPass

/-- A completed pass has recorded exactly the decision a forecast calls for. -/
theorem history_completed (hpassed : Passed settings pass) (hcompleted : pass.completed = true)
    (hforecasted : Forecasted settings pass.before now_data windows job fc) :
    (pass.called_for settings job fc = none →
      alert_history pass.after job.device_id job.metric.kind =
        alert_history pass.before job.device_id job.metric.kind) ∧
    ∀ decision, pass.called_for settings job fc = some decision →
      ∃ recorded ∈ alert_history pass.after job.device_id job.metric.kind,
        recorded.state = decision.state ∧ recorded.as_of = decision.as_of := by
  obtain ⟨windows', hwindows', hadvanced⟩ :=
    hpassed.advanced hcompleted now_data hforecasted.now_eq
  obtain rfl := Except.ok.inj (hforecasted.windows_eq.symm.trans hwindows')
  obtain ⟨fc', hforecast', hview⟩ := hadvanced.own job hforecasted.job_mem
  obtain rfl := Except.ok.inj (hforecasted.forecast_eq.symm.trans hforecast')
  have hdecided : view pass.after job.device_id job.metric.kind =
      ((view pass.before job.device_id job.metric.kind).with_forecast job.device_id
        fc).with_decision (pass.called_for settings job fc) := hview
  constructor
  · intro hcalled
    rw [hcalled] at hdecided
    exact congrArg View.history hdecided
  · intro decision hcalled
    rw [hcalled] at hdecided
    by_cases hmem : decision.key ∈
        (alert_history pass.before job.device_id job.metric.kind).map AlertDecision.key
    · rw [View.with_decision_of_mem hmem] at hdecided
      obtain ⟨recorded, hrecorded, hkey⟩ := List.mem_map.mp hmem
      have hsame : alert_history pass.after job.device_id job.metric.kind =
          alert_history pass.before job.device_id job.metric.kind := congrArg View.history hdecided
      refine ⟨recorded, hsame ▸ hrecorded, ?_, ?_⟩
      · exact congrArg (fun key => key.2.2.2) hkey
      · exact congrArg (fun key => key.2.2.1) hkey
    · have happended : alert_history pass.after job.device_id job.metric.kind =
          alert_history pass.before job.device_id job.metric.kind ++ [decision] :=
        (congrArg View.history hdecided).trans (View.with_decision_of_not_mem hmem)
      exact ⟨decision, by rw [happended]; simp, rfl, rfl⟩

/-- No decision is newer than the watermark of the pass. -/
theorem decisions_upto_watermark (hpassed : Passed settings pass) (hsound : SoundViews pass.after)
    (hforecasted : Forecasted settings pass.before now_data windows job fc) {as_of : UtcDatetime}
    (has : fc.as_of = some as_of) :
    ∀ decision ∈ alert_history pass.after job.device_id job.metric.kind, decision.as_of ≤ as_of := by
  intro decision hdecision
  obtain ⟨time, htime, hle⟩ :=
    (hsound job.device_id job.metric.kind).history_upto decision hdecision
  rw [newest_reading_congr hpassed.telemetry, (hforecasted.as_of.mp has).1] at htime
  rwa [Option.some.inj htime]

/-- A pass whose forecasts meet no opposite decision ties no watermark. -/
theorem untied_after (hpassed : Passed settings pass) (hopposite : NoOppositeDecision settings pass)
    {device_id kind : String} (huntied : Untied (alert_history pass.before device_id kind)) :
    Untied (alert_history pass.after device_id kind) := by
  rcases hpassed.history device_id kind with hsame |
    ⟨now_data, windows, job, fc, decision, hforecasted, hkey, hcalled, hhistory⟩
  · rwa [hsame]
  · obtain ⟨rfl, rfl⟩ := Prod.mk.inj hkey
    obtain ⟨horizon, hcrossing, hfiring, hcleared⟩ := called_for_horizon hcalled
    have hagree : ∀ other ∈ alert_history pass.before job.device_id job.metric.kind,
        other.as_of = decision.as_of → other.state = decision.state := by
      intro other hother has
      obtain ⟨hshort, hlong⟩ := hopposite now_data windows job fc hforecasted decision.as_of horizon
        hcrossing other hother has
      cases hstate : decision.state with
      | firing => exact hshort (hfiring hstate)
      | cleared => exact hlong (hcleared hstate).2
    rw [hhistory]
    intro first hfirst second hsecond has
    cases List.mem_append.mp hfirst with
    | inl hfirst =>
      cases List.mem_append.mp hsecond with
      | inl hsecond => exact huntied first hfirst second hsecond has
      | inr hsecond =>
        rw [List.mem_singleton.mp hsecond] at has ⊢
        exact hagree first hfirst has
    | inr hfirst =>
      rw [List.mem_singleton.mp hfirst] at has ⊢
      cases List.mem_append.mp hsecond with
      | inl hsecond => exact (hagree second hsecond has.symm).symm
      | inr hsecond => rw [List.mem_singleton.mp hsecond]

/-- A short horizon is read back as firing: either the pass recorded that, or a
    firing decision is standing. -/
theorem firing_kept (hpassed : Passed settings pass) (hcompleted : pass.completed = true)
    (hsound : SoundViews pass.after)
    (huntied : Untied (alert_history pass.after job.device_id job.metric.kind))
    (hforecasted : Forecasted settings pass.before now_data windows job fc)
    {as_of : UtcDatetime} {horizon : ℚ} (hcrossing : Crossing fc as_of horizon)
    (hshort : horizon ≤ job.metric.alert_horizon_seconds) (tie : TieBreak) :
    ∃ latest, latest_alert_states tie pass.after job.device_id job.metric.kind = some latest ∧
      latest.state = .firing := by
  obtain ⟨hsame, hrecorded⟩ := history_completed hpassed hcompleted hforecasted
  have hupto := decisions_upto_watermark hpassed hsound hforecasted hcrossing.as_of_eq
  cases hcalled : pass.called_for settings job fc with
  | some decision =>
    obtain ⟨horizon', hcrossing', -, hcleared⟩ := called_for_horizon hcalled
    obtain rfl := hcrossing.horizon_unique
      ⟨hcrossing.as_of_eq, (Option.some.inj (hcrossing'.as_of_eq.symm.trans hcrossing.as_of_eq)) ▸
        hcrossing'.horizon_eq⟩
    obtain ⟨recorded, hmem, hstate, has⟩ := hrecorded decision hcalled
    have hnewest : Newest (alert_history pass.after job.device_id job.metric.kind) recorded := by
      refine ⟨hmem, fun other hother => (hupto other hother).trans_eq ?_⟩
      rw [has]
      exact (Option.some.inj (hcrossing'.as_of_eq.symm.trans hcrossing.as_of_eq)).symm
    refine ⟨_, huntied.latest hnewest tie, hstate.trans ?_⟩
    cases hdecision : decision.state with
    | firing => rfl
    | cleared => exact absurd hshort (not_le.mpr (hcleared hdecision).1)
  | none =>
    have htransition := transition_of_called_for_none hcrossing hcalled
    obtain ⟨has, crosses_at, hcrosses, rfl⟩ := hcrossing
    have hstanding : ¬ ∀ latest,
        latest_alert_states pass.tie pass.before job.device_id job.metric.kind = some latest →
        latest.state = .firing →
        settings.cooldown_seconds ≤ total_seconds (DataTime.since as_of latest.as_of) := by
      intro hcooldown
      rw [alert_transition_eq_firing_iff.mpr
        ⟨crosses_at, as_of, hcrosses, has, hshort, hcooldown⟩] at htransition
      cases htransition
    push Not at hstanding
    obtain ⟨latest, hlatest, hfiring, -⟩ := hstanding
    obtain ⟨decision, hnewest, rfl⟩ := newest_of_latest hlatest
    rw [← hsame hcalled] at hnewest
    exact ⟨_, huntied.latest hnewest tie, hfiring⟩

/-- A horizon past the hysteresis is not read back as firing: a firing decision
    would have been cleared. -/
theorem cleared_kept (hpassed : Passed settings pass) (hcompleted : pass.completed = true)
    (hsound : SoundViews pass.after)
    (huntied : Untied (alert_history pass.after job.device_id job.metric.kind))
    (hforecasted : Forecasted settings pass.before now_data windows job fc)
    {as_of : UtcDatetime} {horizon : ℚ} (hcrossing : Crossing fc as_of horizon)
    (hlong : job.metric.alert_horizon_seconds * CLEAR_FACTOR < horizon) (tie : TieBreak)
    {latest : AlertState UtcDatetime}
    (hlatest : latest_alert_states tie pass.after job.device_id job.metric.kind = some latest) :
    latest.state ≠ .firing := by
  intro hfiring
  obtain ⟨hsame, hrecorded⟩ := history_completed hpassed hcompleted hforecasted
  have hupto := decisions_upto_watermark hpassed hsound hforecasted hcrossing.as_of_eq
  have hpast : job.metric.alert_horizon_seconds < horizon := by
    have hmetric : job.metric ∈ settings.metrics := by
      rw [← metric_windows_metrics hforecasted.windows_eq]
      exact List.mem_map_of_mem ((mem_jobs hforecasted.windows_eq).mp hforecasted.job_mem).1
    have hpositive := AnalyticsSettings.alert_horizon_positive hmetric
    unfold CLEAR_FACTOR at hlong
    linarith
  cases hcalled : pass.called_for settings job fc with
  | some decision =>
    obtain ⟨horizon', hcrossing', hshort, -⟩ := called_for_horizon hcalled
    have has' : decision.as_of = as_of :=
      Option.some.inj (hcrossing'.as_of_eq.symm.trans hcrossing.as_of_eq)
    rw [has'] at hcrossing'
    obtain rfl := hcrossing.horizon_unique hcrossing'
    obtain ⟨recorded, hmem, hstate, has⟩ := hrecorded decision hcalled
    have hnewest : Newest (alert_history pass.after job.device_id job.metric.kind) recorded :=
      ⟨hmem, fun other hother => (hupto other hother).trans_eq (has.trans has').symm⟩
    obtain rfl := Option.some.inj (hlatest.symm.trans (huntied.latest hnewest tie))
    exact absurd (hshort (hstate.symm.trans hfiring)) (not_le.mpr hpast)
  | none =>
    obtain ⟨decision, hnewest, rfl⟩ := newest_of_latest hlatest
    have hread := huntied.latest hnewest pass.tie
    rw [hsame hcalled] at hread
    have htransition := transition_of_called_for_none hcrossing hcalled
    obtain ⟨has, crosses_at, hcrosses, rfl⟩ := hcrossing
    have hclears : alert_transition fc job.metric _ settings.cooldown_seconds CLEAR_FACTOR =
        some .cleared := alert_transition_eq_cleared_iff.mpr
      ⟨crosses_at, as_of, hcrosses, has, hpast, hlong, _, hread, hfiring⟩
    exact absurd (htransition.symm.trans hclears) (by simp)

/-- Without ties, a pass that meets no opposite decision keeps every decision. -/
theorem decisions_kept (hpassed : Passed settings pass) (hcompleted : pass.completed = true)
    (hsound : SoundViews pass.after) (hopposite : NoOppositeDecision settings pass)
    (huntied : ∀ device_id kind, Untied (alert_history pass.before device_id kind)) :
    DecisionsKept settings pass := by
  intro now_data windows job fc hforecasted
  have hafter := untied_after hpassed hopposite (huntied job.device_id job.metric.kind)
  refine ⟨fun as_of horizon hcrossing => ⟨fun hshort tie => ?_, fun hlong tie latest hlatest => ?_⟩,
    fun hnone tie => ?_⟩
  · exact firing_kept hpassed hcompleted hsound hafter hforecasted hcrossing hshort tie
  · exact cleared_kept hpassed hcompleted hsound hafter hforecasted hcrossing hlong tie hlatest
  · have hcalled : pass.called_for settings job fc = none := by
      unfold PassRecord.called_for called_for
      rw [hnone]
      split
      · next hsome => cases hsome
      · rfl
    exact congrArg (latest_of_history tie)
      ((history_completed hpassed hcompleted hforecasted).1 hcalled)

/-- A pass that met an opposite decision has left a tie, which some tie-break
    reads back as that decision. -/
theorem no_opposite_of_kept (hpassed : Passed settings pass) (hsound : SoundViews pass.after)
    (hkept : DecisionsKept settings pass) : NoOppositeDecision settings pass := by
  intro now_data windows job fc hforecasted as_of horizon hcrossing decision hdecision has
  obtain ⟨hshort, hlong⟩ := (hkept now_data windows job fc hforecasted).1 as_of horizon hcrossing
  have hupto := decisions_upto_watermark hpassed hsound hforecasted hcrossing.as_of_eq
  have hstill : decision ∈ alert_history pass.after job.device_id job.metric.kind := by
    rcases hpassed.history job.device_id job.metric.kind with hsame |
      ⟨_, _, _, _, added, -, -, -, hhistory⟩
    · exact hsame ▸ hdecision
    · rw [hhistory]
      exact List.mem_append_left _ hdecision
  obtain ⟨tie, htie⟩ := exists_tie_of_newest ⟨hstill, fun other hother => has ▸ hupto other hother⟩
  constructor
  · intro hle
    obtain ⟨latest, hlatest, hfiring⟩ := hshort hle tie
    obtain rfl := Option.some.inj (htie.symm.trans hlatest)
    exact hfiring
  · intro hlt
    have hnot := hlong hlt tie _ htie
    cases hstate : decision.state with
    | firing => exact absurd hstate hnot
    | cleared => rfl

end CompletedPass

/-- Through any history, if no pass meets the opposite of the decision it calls
    for at the same watermark, every completed pass keeps its decisions; and a
    completed pass that keeps them has met no opposite one. -/
theorem no_decision_lost {passes : List PassRecord} (h : History settings passes db) :
    ((∀ pass ∈ passes, NoOppositeDecision settings pass) →
      ∀ pass ∈ passes, pass.completed = true → DecisionsKept settings pass) ∧
    ∀ pass ∈ passes, pass.completed = true → DecisionsKept settings pass →
      NoOppositeDecision settings pass := by
  constructor
  · intro hopposite pass hpass hcompleted
    have huntied := (h.invariant
      (fun db => ∀ device_id kind, Untied (alert_history db device_id kind))
      (NoOppositeDecision settings) ?_ ?_ ?_ hopposite).2 pass hpass
    · exact decisions_kept (h.passed pass hpass) hcompleted (h.sound_views.2 pass hpass).2
        (hopposite pass hpass) huntied.1
    · exact fun _ _ _ hfirst => absurd hfirst List.not_mem_nil
    · intro db reading huntied device_id kind
      rw [show alert_history (accept db reading) device_id kind = alert_history db device_id kind
        from congrArg View.history (view_accept db reading device_id kind)]
      exact huntied device_id kind
    · intro pass hpassed hallowed huntied device_id kind
      exact untied_after hpassed hallowed (huntied device_id kind)
  · intro pass hpass _ hkept
    exact no_opposite_of_kept (h.passed pass hpass) (h.sound_views.2 pass hpass).2 hkept

/-- The first pass over a dry planter completes and keeps its firing decision. -/
theorem no_decision_lost_dry :
    ∃ pass, (replay {} (dry_days.take 2)).1 = [pass] ∧ pass.completed = true ∧ DecisionsKept {} pass := by
  have hcompleted : (replay {} (dry_days.take 2)).1.map PassRecord.completed = [true] := by decide +kernel
  obtain ⟨pass, hpasses, hpass⟩ := List.map_eq_singleton_iff.mp hcompleted
  have hmem : pass ∈ (replay {} (dry_days.take 2)).1 := by rw [hpasses]; exact List.mem_singleton_self pass
  refine ⟨pass, hpasses, hpass, (no_decision_lost (replay_history {} (dry_days.take 2))).1 ?_ pass hmem hpass⟩
  intro first hfirst now_data windows job fc _ as_of horizon _ decision hdecision
  rw [List.mem_singleton.mp hfirst] at hdecision
  exact absurd hdecision List.not_mem_nil

/-- A pass that turns a cleared decision into a firing one at the same watermark
    does not keep it: some tie-break still reads it back as cleared. -/
theorem decision_lost :
    ¬ ∀ settings passes db, History settings passes db →
      ∀ pass ∈ passes, pass.completed = true → DecisionsKept settings pass := by
  intro h
  have hturning := replay_history {} turning
  obtain ⟨first, _, hpasses, -, hmore⟩ := List.map_eq_cons_iff.mp turning_decisions.1
  obtain ⟨second, _, rfl, -, hmore⟩ := List.map_eq_cons_iff.mp hmore
  obtain ⟨pass, _, rfl, hpass, -⟩ := List.map_eq_cons_iff.mp hmore
  obtain ⟨hbefore, hpass⟩ := Prod.mk.inj hpass
  obtain ⟨hafter, hcompleted⟩ := Prod.mk.inj hpass
  have hmem : pass ∈ (replay {} turning).1 := by simp [hpasses]
  have hopposite := no_opposite_of_kept (hturning.passed pass hmem)
    (hturning.sound_views.2 pass hmem).2 (h {} _ _ hturning pass hmem hcompleted)
  -- the cleared decision is there before the pass
  obtain ⟨dry, _, hhistory, -, hrest⟩ := List.map_eq_cons_iff.mp hbefore
  obtain ⟨refilled, rfl, hrefilled⟩ := List.map_eq_singleton_iff.mp hrest
  rcases (hturning.passed pass hmem).history "planter-00" "water" with hsame |
    ⟨now_data, windows, job, fc, turned, hforecasted, hkey, hcalled, happended⟩
  · have hshort := congrArg List.length hafter
    simp [water_decisions, hsame, hhistory] at hshort
  · obtain ⟨horizon, hcrossing, hfiring, -⟩ := called_for_horizon hcalled
    have hturned : (turned.state, turned.as_of) = (.firing, at_minute 810) := by
      simpa [water_decisions, happended, hhistory] using congrArg List.getLast? hafter
    obtain ⟨hdevice, hkind⟩ := Prod.mk.inj hkey
    have hstate := (hopposite now_data windows job fc hforecasted turned.as_of horizon hcrossing
      refilled (by rw [hdevice, hkind, hhistory]; simp)
      ((congrArg Prod.snd hrefilled).trans (congrArg Prod.snd hturned).symm)).1
      (hfiring (congrArg Prod.fst hturned))
    exact absurd (hstate.symm.trans (congrArg Prod.fst hrefilled)) (by decide)

end planter_telemetry.analytics.service
