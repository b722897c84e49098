import PlanterTelemetry.Analytics.History
import PlanterTelemetry.Library.Trace

open planter_telemetry.python planter_telemetry.contract planter_telemetry.migrations
open planter_telemetry.analytics.model planter_telemetry.analytics.config
open planter_telemetry.analytics.db planter_telemetry.ingestion.db

namespace planter_telemetry.analytics.service

variable {settings : AnalyticsSettings} {device_id kind : String} {metric : Metric ℚ}
  {fc : Forecast UtcDatetime ℚ} {previous : Option (AlertState UtcDatetime)}
  {decision : AlertDecision} {pass : PassRecord} {db : Database}

/-! ### What one pass adds to the decisions -/

theorem called_for_state (h : called_for settings device_id metric fc previous = some decision) :
    alert_transition fc metric previous settings.cooldown_seconds CLEAR_FACTOR =
        some decision.state ∧ fc.as_of = some decision.as_of := by
  obtain ⟨transition, as_of, htransition, has, hkey⟩ := called_for_key h
  obtain rfl : decision.state = transition := congrArg (fun key => key.2.2.2) hkey
  obtain rfl : decision.as_of = as_of := congrArg (fun key => key.2.2.1) hkey
  exact ⟨htransition, has⟩

/-- The decision a pass would record for one forecast, from the alert state it
    reads. -/
def PassRecord.called_for (settings : AnalyticsSettings) (pass : PassRecord) (job : Job)
    (fc : Forecast UtcDatetime ℚ) : Option AlertDecision :=
  service.called_for settings job.device_id job.metric fc
    (latest_alert_states pass.tie pass.before job.device_id job.metric.kind)

/-- A pass, completed or aborted, adds at most one decision for a (device,
    kind): the one its forecast calls for. -/
theorem Passed.history (h : Passed settings pass) (device_id kind : String) :
    alert_history pass.after device_id kind = alert_history pass.before device_id kind ∨
    ∃ now_data windows job fc decision, Forecasted settings pass.before now_data windows job fc ∧
      job.key = (device_id, kind) ∧ pass.called_for settings job fc = some decision ∧
      alert_history pass.after device_id kind =
        alert_history pass.before device_id kind ++ [decision] := by
  rcases h.underway device_id kind with hsame | ⟨now_data, windows, job, fc, hforecasted, hkey, hbetween⟩
  · exact .inl (congrArg View.history hsame)
  · obtain ⟨rfl, rfl⟩ := Prod.mk.inj hkey
    rcases hbetween with hsame | hinserted | hadvanced
    · exact .inl (congrArg View.history hsame)
    · exact .inl (congrArg View.history hinserted)
    · have hdecided : view pass.after job.device_id job.metric.kind =
          ((view pass.before job.device_id job.metric.kind).with_forecast job.device_id
            fc).with_decision (pass.called_for settings job fc) := hadvanced
      cases hcalled : pass.called_for settings job fc with
      | none =>
        rw [hcalled] at hdecided
        exact .inl (congrArg View.history hdecided)
      | some decision =>
        rw [hcalled] at hdecided
        by_cases hmem : decision.key ∈
            (alert_history pass.before job.device_id job.metric.kind).map AlertDecision.key
        · rw [View.with_decision_of_mem hmem] at hdecided
          exact .inl (congrArg View.history hdecided)
        · refine .inr ⟨now_data, windows, job, fc, decision, hforecasted, rfl, hcalled, ?_⟩
          exact (congrArg View.history hdecided).trans (View.with_decision_of_not_mem hmem)

/-! ### A standing alert -/

/-- What may follow the decisions made so far: a firing decision a cooldown
    after every firing one that was not cleared since, or a cleared decision
    right after a firing one. -/
structure Permitted (cooldown : ℚ) (before : List AlertDecision) (decision : AlertDecision) : Prop where
  firing : decision.state = .firing → ∀ earlier previous since,
    before = earlier ++ previous :: since → previous.state = .firing →
    (∀ other ∈ since, other.state ≠ .cleared) →
    cooldown ≤ total_seconds (DataTime.since decision.as_of previous.as_of)
  cleared : decision.state = .cleared →
    ∃ last, before.getLast? = some last ∧ last.state = .firing

/-- The alert state a pass reads for a (device, kind) is that of the decision
    recorded last. -/
def ReadsLastDecision (device_id kind : String) (pass : PassRecord) : Prop :=
  latest_alert_states pass.tie pass.before device_id kind =
    (alert_history pass.before device_id kind).getLast?.map fun decision =>
      ⟨decision.state, decision.as_of⟩

/-- A decision called for on top of the last one is permitted. -/
theorem permitted_of_called_for {history : List AlertDecision}
    (hsorted : history.Pairwise fun earlier later => earlier.as_of ≤ later.as_of)
    (hprevious : previous = history.getLast?.map fun decision => ⟨decision.state, decision.as_of⟩)
    (hcalled : called_for settings device_id metric fc previous = some decision) :
    Permitted settings.cooldown_seconds history decision := by
  obtain ⟨htransition, has⟩ := called_for_state hcalled
  refine ⟨fun hfiring earlier first since hhistory hfirst hstanding => ?_, fun hcleared => ?_⟩
  · rw [hfiring] at htransition
    obtain ⟨_, as_of, -, has', -, hcooldown⟩ := alert_transition_eq_firing_iff.mp htransition
    obtain rfl := Option.some.inj (has.symm.trans has')
    rcases List.eq_nil_or_concat since with rfl | ⟨rest, last, rfl⟩
    · -- the standing firing decision is the last one
      refine hcooldown ⟨first.state, first.as_of⟩ ?_ hfirst
      simp [hprevious, hhistory]
    · have hlast : last.state = .firing := by
        cases hstate : last.state with
        | firing => rfl
        | cleared => exact absurd hstate (hstanding last (by simp))
      have hlater : total_seconds (DataTime.since decision.as_of last.as_of) ≤
          (total_seconds (DataTime.since decision.as_of first.as_of) : ℚ) := by
        rw [hhistory] at hsorted
        have hle : first.as_of ≤ last.as_of :=
          (List.pairwise_cons.mp (List.pairwise_append.mp hsorted).2.1).1 last (by simp)
        exact total_seconds_le_iff.mpr (Int.sub_le_sub_left hle _)
      have hnewest : history.getLast? = some last := by
        rw [hhistory, List.concat_eq_append, ← List.cons_append, ← List.append_assoc,
          List.getLast?_concat]
      refine le_trans (hcooldown ⟨last.state, last.as_of⟩ ?_ hlast) hlater
      rw [hprevious, hnewest, Option.map_some]
  · rw [hcleared] at htransition
    obtain ⟨_, _, -, -, -, -, latest, hlatest, hstate⟩ :=
      alert_transition_eq_cleared_iff.mp htransition
    rw [hprevious] at hlatest
    obtain ⟨last, hlast, rfl⟩ := Option.map_eq_some_iff.mp hlatest
    exact ⟨last, hlast, hstate⟩

/-- Through any history of passes that all read the decision recorded last, a
    standing alert fires once a cooldown, and only a firing alert is cleared. -/
theorem alerts_never_spam {passes : List PassRecord} (h : History settings passes db)
    (device_id kind : String) (hlast : ∀ pass ∈ passes, ReadsLastDecision device_id kind pass) :
    Log.Lawful (Permitted settings.cooldown_seconds) (alert_history db device_id kind) := by
  have hsound := h.sound_views.2
  refine (h.invariant
    (fun db => Log.Lawful (Permitted settings.cooldown_seconds)
      (alert_history db device_id kind))
    (fun pass => ReadsLastDecision device_id kind pass ∧ SoundViews pass.before)
    Log.lawful_nil ?_ ?_ fun pass hpass => ⟨hlast pass hpass, (hsound pass hpass).1⟩).1
  · intro db reading hlawful
    rwa [show alert_history (accept db reading) device_id kind = alert_history db device_id kind
      from congrArg View.history (view_accept db reading device_id kind)]
  · rintro pass hpassed ⟨hreads, hsound⟩ hlawful
    rcases hpassed.history device_id kind with hsame |
      ⟨_, _, job, fc, decision, -, hkey, hcalled, hhistory⟩
    · rwa [hsame]
    · obtain ⟨rfl, rfl⟩ := Prod.mk.inj hkey
      rw [hhistory, Log.lawful_append_singleton]
      exact ⟨hlawful, permitted_of_called_for (hsound _ _).history_sorted hreads hcalled⟩

/-- A dry planter, and the same one a day later. -/
def dry_days : List Event :=
  [.accepted (reading_at planter_00 0 0), .pass first_of_ties,
    .accepted (reading_at planter_00 1440 0), .pass first_of_ties]

instance (device_id kind : String) (pass : PassRecord) :
    Decidable (ReadsLastDecision device_id kind pass) := inferInstanceAs (Decidable (_ = _))

/-- The dry planter's two firing decisions are a cooldown apart. -/
theorem alerts_never_spam_dry_days :
    Log.Lawful (Permitted (24 * 3600)) (alert_history (replay {} dry_days).2 "planter-00" "water") :=
  alerts_never_spam (replay_history {} dry_days) "planter-00" "water" (by decide +kernel)

/-! ### A watermark with both decisions -/

/-- Every six minutes, down to 10.01 % so slowly that 10 % is 100 hours away. -/
def slow_readings : List TelemetryV1 :=
  (List.range 36).map fun k =>
    reading_at planter_00 (Fin.ofNat _ (600 + 6 * k)) (1001 / 100 + (35 - k) / 100000)

/-- Older readings that arrive later, down from 90 %, so that 10 % is six hours
    away. -/
def late_readings : List TelemetryV1 :=
  (List.range 15).map fun k =>
    reading_at planter_00 (Fin.ofNat _ (60 + 36 * k)) (1002 / 100 + 80 / 2 ^ k)

/-- The planter is dry, is refilled, and its late readings turn the forecast at
    the same watermark. Then it is nearly dry again. -/
def turning : List Event :=
  .accepted (reading_at planter_00 0 0) :: .pass first_of_ties ::
    slow_readings.map .accepted ++ .pass first_of_ties ::
      late_readings.map .accepted ++ [.pass first_of_ties,
        .accepted (reading_at planter_00 816 5), .pass first_of_ties]

/-- State and watermark of the water decisions for the first planter. -/
def water_decisions (db : Database) : List (AlertTransition × UtcDatetime) :=
  (alert_history db "planter-00" "water").map fun decision => (decision.state, decision.as_of)

/-- The decisions before and after each pass, and in the end. -/
theorem turning_decisions :
    ((replay {} turning).1.map fun pass =>
      (water_decisions pass.before, water_decisions pass.after, pass.completed)) =
        [([], [(.firing, at_minute 0)], true),
          ([(.firing, at_minute 0)], [(.firing, at_minute 0), (.cleared, at_minute 810)], true),
          ([(.firing, at_minute 0), (.cleared, at_minute 810)],
            [(.firing, at_minute 0), (.cleared, at_minute 810), (.firing, at_minute 810)], true),
          ([(.firing, at_minute 0), (.cleared, at_minute 810), (.firing, at_minute 810)],
            [(.firing, at_minute 0), (.cleared, at_minute 810), (.firing, at_minute 810),
              (.firing, at_minute 816)], true)] ∧
      water_decisions (replay {} turning).2 =
        [(.firing, at_minute 0), (.cleared, at_minute 810), (.firing, at_minute 810),
          (.firing, at_minute 816)] := by
  decide +kernel

/-- With a cleared and a firing decision at one watermark, a pass that reads the
    cleared one fires again six minutes after the firing one. -/
theorem alert_spams :
    ¬ ∀ settings passes db, History settings passes db → ∀ device_id kind,
      Log.Lawful (Permitted settings.cooldown_seconds) (alert_history db device_id kind) := by
  intro h
  have hlawful := h {} _ _ (replay_history {} turning) "planter-00" "water"
  obtain ⟨dry, _, hhistory, -, hmore⟩ := List.map_eq_cons_iff.mp turning_decisions.2
  obtain ⟨refilled, _, rfl, -, hmore⟩ := List.map_eq_cons_iff.mp hmore
  obtain ⟨turned, _, rfl, hturned, hmore⟩ := List.map_eq_cons_iff.mp hmore
  obtain ⟨dry_again, rfl, hdry_again⟩ := List.map_eq_singleton_iff.mp hmore
  have hcooldown := (hlawful [dry, refilled, turned] dry_again [] hhistory).firing
    (congrArg Prod.fst hdry_again) [dry, refilled] turned [] rfl (congrArg Prod.fst hturned)
    fun _ hother => absurd hother List.not_mem_nil
  rw [show dry_again.as_of = at_minute 816 from congrArg Prod.snd hdry_again,
    show turned.as_of = at_minute 810 from congrArg Prod.snd hturned] at hcooldown
  exact absurd hcooldown (by decide +kernel)

end planter_telemetry.analytics.service
