import PlanterTelemetry.Analytics.History
import PlanterTelemetry.Analytics.PassOrder
import Mathlib.Logic.Relation

open planter_telemetry.python planter_telemetry.migrations
open planter_telemetry.analytics.config planter_telemetry.analytics.ops

namespace planter_telemetry.analytics.service

/-- One step of one process of the service, or of its surroundings. -/
def ProcessStep (around : Surroundings) (before after : State) : Prop :=
  ∃ action, (∀ settings, action ≠ .restart settings) ∧ step around before action = some after

variable {around : Surroundings} {start before after state : State}

/-! ### When a pass ends -/

/-- How many passes have ended. -/
def State.ended (state : State) : Nat := state.passes + state.pass_failures

/-- A step ends no pass: it leaves what `/healthz` looks at alone. -/
structure Quiescent (before after : State) : Prop where
  passes : after.passes = before.passes
  pass_failures : after.pass_failures = before.pass_failures
  health : after.health = before.health

/-- A step ends a pass: it counts it and notes when. -/
inductive Ends (around : Surroundings) (before after : State) : Prop
  | returned {now_data : Option UtcDatetime} (hpc : before.pc = .closing (.returned now_data))
      (hstep : step around before .proceed = some after)
      (hpasses : after.passes = before.passes + 1)
      (hfailures : after.pass_failures = before.pass_failures)
      (hhealth : after.health = ⟨true, some after.clock⟩)
  | failed (hpasses : after.passes = before.passes)
      (hfailures : after.pass_failures = before.pass_failures + 1)
      (hhealth : after.health.last_pass_ok = false)

theorem process_step_cases (h : ProcessStep around before after) :
    after.settings = before.settings ∧ (Quiescent before after ∨ Ends around before after) := by
  obtain ⟨action, hprocess, hstep⟩ := h
  cases stepped hstep with
  | restart settings => exact absurd rfl (hprocess settings)
  | closed hpc =>
    next ending =>
    cases ending with
    | returned now_data => exact ⟨rfl, .inr (.returned hpc hstep rfl rfl rfl)⟩
    | failed => exact ⟨rfl, .inr (.failed rfl rfl rfl)⟩
    | raised => exact ⟨rfl, .inl ⟨rfl, rfl, rfl⟩⟩
  | not_connected | not_closed => exact ⟨rfl, .inr (.failed rfl rfl rfl)⟩
  | _ => exact ⟨rfl, .inl ⟨rfl, rfl, rfl⟩⟩

/-- A run in which no pass ends leaves what `/healthz` looks at alone. -/
theorem quiescent_or_ended (h : Relation.ReflTransGen (ProcessStep around) before after) :
    Quiescent before after ∨ before.ended < after.ended := by
  induction h with
  | refl => exact .inl ⟨rfl, rfl, rfl⟩
  | tail _ hstep ih =>
    next between after _ =>
    obtain ⟨-, ⟨hpasses, hfailures, hhealth⟩ | hends⟩ := process_step_cases hstep
    · rcases ih with ⟨hpasses', hfailures', hhealth'⟩ | hended
      · exact .inl ⟨hpasses.trans hpasses', hfailures.trans hfailures', hhealth.trans hhealth'⟩
      · refine .inr (hended.trans_eq ?_)
        rw [State.ended, State.ended, hpasses, hfailures]
    · refine .inr ?_
      have hle : before.ended ≤ between.ended := by
        rcases ih with ⟨hpasses', hfailures', -⟩ | hended
        · rw [State.ended, State.ended, hpasses', hfailures']
        · exact hended.le
      have hlt : between.ended < after.ended := by
        unfold State.ended
        cases hends with
        | returned _ _ hpasses hfailures => omega
        | failed hpasses hfailures => omega
      exact hle.trans_lt hlt

/-- A pass returned, and no other one has ended since. -/
structure LastReturned (around : Surroundings) (start closing ended state : State) : Prop where
  reached : Relation.ReflTransGen (ProcessStep around) start closing
  closing_pc : ∃ now_data, closing.pc = .closing (.returned now_data)
  returned : step around closing .proceed = some ended
  since : Relation.ReflTransGen (ProcessStep around) ended state
  passes : ended.passes = state.passes
  pass_failures : ended.pass_failures = state.pass_failures

/-- `/healthz` sees a pass that returned, and when it ended. -/
theorem LastReturned.health {closing ended : State} (h : LastReturned around start closing ended state) :
    state.health = ⟨true, some ended.clock⟩ := by
  obtain ⟨now_data, hpc⟩ := h.closing_pc
  have hended : ended.health = ⟨true, some ended.clock⟩ := by
    have hreturned := h.returned
    simp only [step, proceed, hpc, Option.some.injEq] at hreturned
    subst hreturned
    rfl
  rcases quiescent_or_ended h.since with ⟨-, -, hhealth⟩ | hlt
  · rw [hhealth, hended]
  · rw [State.ended, State.ended, h.passes, h.pass_failures] at hlt
    exact absurd hlt (lt_irrefl _)

theorem last_returned_of_ok {settings : RunSettings} {db : Database} {sent : List Notification}
    {clock : ℚ} (hrun : Relation.ReflTransGen (ProcessStep around) (started settings db sent clock) state) :
    state.settings = settings ∧ (state.health.last_pass_ok = true → ∃ closing ended,
      LastReturned around (started settings db sent clock) closing ended state) := by
  induction hrun with
  | refl => exact ⟨rfl, fun hok => by cases hok⟩
  | tail hbefore hstep ih =>
    next before after =>
    obtain ⟨hsettings, hcases⟩ := process_step_cases hstep
    refine ⟨hsettings.trans ih.1, fun hok => ?_⟩
    rcases hcases with ⟨hpasses, hfailures, hhealth⟩ | hends
    · obtain ⟨closing, ended, hlast⟩ := ih.2 (hhealth ▸ hok)
      exact ⟨closing, ended, hlast.reached, hlast.closing_pc, hlast.returned, hlast.since.tail hstep,
        hlast.passes.trans hpasses.symm, hlast.pass_failures.trans hfailures.symm⟩
    · cases hends with
      | returned hpc hreturned =>
        exact ⟨before, after, hbefore, ⟨_, hpc⟩, hreturned, .refl, rfl, rfl⟩
      | failed _ _ hhealth =>
        rw [hhealth] at hok
        cases hok

theorem healthz_payload_ok_iff {health : HealthState} {interval_seconds now_monotonic : ℚ} :
    (healthz_payload health interval_seconds now_monotonic).1 = 200 ↔
      health.last_pass_ok = true ∧ ∃ last, health.last_pass_monotonic = some last ∧
        now_monotonic - last ≤ interval_seconds * OVERDUE_FACTOR + OVERDUE_GRACE_SECONDS := by
  unfold healthz_payload
  cases health.last_pass_ok with
  | false => simp
  | true =>
    cases health.last_pass_monotonic with
    | none => simp
    | some last => simp

/-- `/healthz` answers 200 exactly while the pass that ended last has returned and
    that is recent enough. -/
theorem healthz_tells_last_pass (around : Surroundings) (settings : RunSettings) (db : Database)
    (sent : List Notification) (clock : ℚ)
    (hrun : Relation.ReflTransGen (ProcessStep around) (started settings db sent clock) state) :
    (healthz_payload state.health settings.interval_seconds state.clock).1 = 200 ↔
      ∃ closing ended, LastReturned around (started settings db sent clock) closing ended state ∧
        state.clock - ended.clock ≤ settings.interval_seconds * OVERDUE_FACTOR + OVERDUE_GRACE_SECONDS := by
  rw [healthz_payload_ok_iff]
  constructor
  · rintro ⟨hok, last, hlast, hrecent⟩
    obtain ⟨closing, ended, hreturned⟩ := (last_returned_of_ok hrun).2 hok
    have hended : some ended.clock = some last := by
      rw [← hlast, hreturned.health]
    rw [← Option.some.inj hended] at hrecent
    exact ⟨closing, ended, hreturned, hrecent⟩
  · rintro ⟨closing, ended, hreturned, hrecent⟩
    rw [hreturned.health]
    exact ⟨rfl, ended.clock, rfl, hrecent⟩

theorem processed_of_steps {actions : List Action}
    (hprocess : ∀ action ∈ actions, ∀ settings, action ≠ .restart settings)
    (h : steps around actions before = some after) :
    Relation.ReflTransGen (ProcessStep around) before after := by
  induction actions generalizing before with
  | nil =>
    cases h
    exact .refl
  | cons action actions ih =>
    obtain ⟨between, hstep, hrest⟩ := steps_cons.mp h
    obtain ⟨hnow, hlater⟩ := List.forall_mem_cons.mp hprocess
    exact .head ⟨action, hnow, hstep⟩ (ih hlater hrest)

/-- Two passes over an empty database, half a minute apart, and a long wait. -/
def two_passes : List Action :=
  List.replicate 6 .proceed ++ .tick 30 :: List.replicate 7 .proceed ++ [.tick 90]

theorem two_passes_one_process :
    ∀ action ∈ two_passes, ∀ settings, action ≠ .restart settings := by
  intro action haction settings heq
  subst heq
  simp [two_passes] at haction

/-- The wait is just short of overdue. -/
theorem healthz_tells_last_pass_waiting :
    ∃ state : State, state.clock = 120 ∧ (healthz_payload state.health 30 state.clock).1 = 200 ∧
      ∃ closing ended, LastReturned first_of_ties (started {} .fresh [] 0) closing ended state ∧
        state.clock - ended.clock ≤ 30 * OVERDUE_FACTOR + OVERDUE_GRACE_SECONDS := by
  have hrun : (steps first_of_ties two_passes (started {} .fresh [] 0)).any (fun state =>
      state.clock = 120 && (healthz_payload state.health 30 state.clock).1 = 200) = true := by
    decide +kernel
  obtain ⟨state, hsteps, hstate⟩ := (Option.any_eq_true _ _).mp hrun
  obtain ⟨hclock, hstatus⟩ := Bool.and_eq_true_iff.mp hstate
  exact ⟨state, of_decide_eq_true hclock, of_decide_eq_true hstatus,
    (healthz_tells_last_pass first_of_ties {} .fresh [] 0
      (processed_of_steps two_passes_one_process hsteps)).mp (of_decide_eq_true hstatus)⟩

/-! ### The interval -/

/-- An interval lies between the end of the last pass and the time. -/
def State.Rested (state : State) (interval_seconds time : ℚ) : Prop :=
  ∀ last, state.health.last_pass_monotonic = some last → last + interval_seconds ≤ time

/-- What is known of the times. -/
structure Paced (settings : RunSettings) (clock : ℚ) (state : State) : Prop where
  settings_eq : state.settings = settings
  elapsed : clock ≤ state.clock
  counted : (state.ended = 0 ∧ state.health.last_pass_monotonic = none) ∨
    ∃ last, state.health.last_pass_monotonic = some last ∧ last ≤ state.clock ∧
      state.ended * settings.interval_seconds ≤ last - clock + settings.interval_seconds
  pc : match state.pc with
    | .top => state.stop = true ∨ state.Rested settings.interval_seconds state.clock
    | .waiting deadline => state.health.last_pass_monotonic = some (deadline - settings.interval_seconds)
    | .connecting _ | .passing _ | .closing _ =>
      state.began ≤ state.clock ∧ state.Rested settings.interval_seconds state.began
    | .returned | .crashed _ => True

/-- A pass that ends is counted an interval after the one before it. -/
theorem counted_turned {settings : RunSettings} {clock : ℚ} (h : Paced settings clock before)
    (hlater : before.Rested settings.interval_seconds before.clock) {ended : Nat} (hended : ended = before.ended + 1) :
    ended * settings.interval_seconds ≤ before.clock - clock + settings.interval_seconds := by
  subst hended
  push_cast
  rcases h.counted with ⟨hzero, -⟩ | ⟨last, hlast, -, hcount⟩
  · rw [hzero, Nat.cast_zero]
    have helapsed := h.elapsed
    linarith
  · have hinterval := hlater last hlast
    linarith

theorem paced_step {settings : RunSettings} {clock : ℚ} (h : Paced settings clock before)
    (hstep : ProcessStep around before after) : Paced settings clock after := by
  obtain ⟨action, hprocess, haction⟩ := hstep
  obtain ⟨hsettings, helapsed, hcounted, hpc⟩ := h
  have h : Paced settings clock before := ⟨hsettings, helapsed, hcounted, hpc⟩
  -- the two ways in which a pass ends and is waited after
  have hturned (hlater : before.began ≤ before.clock ∧
        before.Rested settings.interval_seconds before.began) (turned : State)
      (hsame : turned.settings = before.settings ∧ turned.clock = before.clock)
      (hended : turned.ended = before.ended + 1)
      (hlast : turned.health.last_pass_monotonic = some before.clock)
      (hwaiting : turned.pc = .waiting (before.clock + before.settings.interval_seconds)) :
      Paced settings clock turned := by
    obtain ⟨hbegan, hlater⟩ := hlater
    refine ⟨hsame.1.trans hsettings, hsame.2 ▸ helapsed, .inr ⟨before.clock, hlast, hsame.2.ge, ?_⟩, ?_⟩
    · exact counted_turned h (fun last hlast => (hlater last hlast).trans hbegan) hended
    · rw [hwaiting, hlast, hsettings]
      exact congrArg some (add_sub_cancel_right _ _).symm
  have hsettle (ending : PassEnd) (hlater : before.began ≤ before.clock ∧
        before.Rested settings.interval_seconds before.began) :
      Paced settings clock (before.settle ending) := by
    cases ending with
    | returned now_data =>
      exact hturned hlater _ ⟨rfl, rfl⟩ (Nat.add_right_comm _ _ _) rfl rfl
    | failed => exact hturned hlater _ ⟨rfl, rfl⟩ rfl rfl rfl
    | raised error => exact ⟨hsettings, helapsed, hcounted, trivial⟩
  cases stepped haction with
  | stopped => exact ⟨hsettings, helapsed, hcounted, trivial⟩
  | began hat hstop =>
    rw [hat] at hpc
    refine ⟨hsettings, helapsed, hcounted, le_refl _, fun last hlast => ?_⟩
    cases hpc with
    | inl hstopped =>
      rw [hstop] at hstopped
      cases hstopped
    | inr hlater => exact hlater last hlast
  | connected hat | executed hat | returned hat | raised hat | failed _ hat =>
    rw [hat] at hpc
    exact ⟨hsettings, helapsed, hcounted, hpc⟩
  | closed hat =>
    rw [hat] at hpc
    exact hsettle _ hpc
  | not_connected _ hat | not_closed _ hat =>
    rw [hat] at hpc
    exact hsettle .failed hpc
  | woke hat hdue =>
    rw [hat] at hpc
    refine ⟨hsettings, helapsed, hcounted, ?_⟩
    cases hdue with
    | inl hstop => exact .inl hstop
    | inr hdue =>
      refine .inr fun last hlast => ?_
      rw [← Option.some.inj (hpc.symm.trans hlast), sub_add_cancel]
      exact hdue
  | tick hseconds =>
    have hlater : before.clock ≤ before.clock + _ := le_add_of_nonneg_right hseconds
    refine ⟨hsettings, helapsed.trans hlater, ?_, ?_⟩
    · rcases hcounted with hnone | ⟨last, hlast, hle, hcount⟩
      · exact .inl hnone
      · exact .inr ⟨last, hlast, hle.trans hlater, hcount⟩
    · cases hat : before.pc with
      | top =>
        rw [hat] at hpc
        cases hpc with
        | inl hstop => exact .inl hstop
        | inr hinterval => exact .inr fun last hlast => (hinterval last hlast).trans hlater
      | connecting | passing | closing =>
        rw [hat] at hpc
        exact ⟨hpc.1.trans hlater, hpc.2⟩
      | waiting | returned | crashed =>
        rw [hat] at hpc
        exact hpc
  | set_stop =>
    refine ⟨hsettings, helapsed, hcounted, ?_⟩
    cases hat : before.pc with
    | top => exact .inl rfl
    | connecting | passing | closing | waiting | returned | crashed =>
      rw [hat] at hpc
      exact hpc
  | commit => exact ⟨hsettings, helapsed, hcounted, hpc⟩
  | restart settings => exact absurd rfl (hprocess settings)

/-- Passes start an interval apart, however they end: so many can have ended as
    there were intervals since the start, and one. -/
theorem passes_keep_the_interval (around : Surroundings) (settings : RunSettings) (db : Database)
    (sent : List Notification) (clock : ℚ)
    (hrun : Relation.ReflTransGen (ProcessStep around) (started settings db sent clock) state) :
    (state.passes + state.pass_failures : Nat) * settings.interval_seconds ≤
        state.clock - clock + settings.interval_seconds ∧
      ∀ rest, state.pc = .passing rest → state.Rested settings.interval_seconds state.began := by
  have hpaced : Paced settings clock state := by
    induction hrun with
    | refl => exact ⟨rfl, le_refl _, .inl ⟨rfl, rfl⟩, .inr fun last hlast => by cases hlast⟩
    | tail _ hstep ih => exact paced_step ih hstep
  constructor
  · change (state.ended : ℚ) * _ ≤ _
    rcases hpaced.counted with ⟨hzero, -⟩ | ⟨last, -, hle, hcount⟩
    · rw [hzero, Nat.cast_zero, zero_mul]
      have helapsed := hpaced.elapsed
      have hinterval := settings.interval_positive
      linarith
    · linarith
  · intro rest hpc
    have hpassing := hpaced.pc
    rw [hpc] at hpassing
    exact hpassing.2

theorem passes_keep_the_interval_two_passes :
    ∃ state : State, state.passes = 2 ∧
      (state.passes + state.pass_failures : Nat) * (30 : ℚ) ≤ state.clock - 0 + 30 := by
  have hrun : (steps first_of_ties two_passes (started {} .fresh [] 0)).any (fun state =>
      state.passes = 2) = true := by
    decide +kernel
  obtain ⟨state, hsteps, hpasses⟩ := (Option.any_eq_true _ _).mp hrun
  exact ⟨state, of_decide_eq_true hpasses, (passes_keep_the_interval first_of_ties {} .fresh [] 0
    (processed_of_steps two_passes_one_process hsteps)).1⟩

end planter_telemetry.analytics.service
