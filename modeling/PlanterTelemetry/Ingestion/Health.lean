import PlanterTelemetry.Ingestion.Run
import Mathlib.Algebra.Order.Field.Rat
import Mathlib.Logic.Relation

open planter_telemetry.python planter_telemetry.contract planter_telemetry.migrations

namespace planter_telemetry.ingestion.config

theorem reconnect_initial_positive : (0 : ℚ) < 1 := by decide
theorem reconnect_max_positive : (0 : ℚ) < 30 := by decide

/-- The settings of the reconnect loop, with the constraints that pydantic puts
    on them. -/
structure IngestSettings where
  reconnect_initial_seconds : ℚ := 1
  reconnect_max_seconds : ℚ := 30
  initial_positive : 0 < reconnect_initial_seconds := by exact reconnect_initial_positive
  max_positive : 0 < reconnect_max_seconds := by exact reconnect_max_positive

end planter_telemetry.ingestion.config

namespace planter_telemetry.ingestion.ops

open planter_telemetry.ingestion.service

structure HealthState where
  broker_connected : Bool := false
  db_connected : Bool := false
  deriving DecidableEq

/-- The body of `/healthz`. -/
structure HealthzBody where
  status : String
  broker_connected : Bool
  db_connected : Bool
  counters : Counters
  deriving DecidableEq

def healthz_payload (health : HealthState) (counters : Counters) : Nat × HealthzBody :=
  let healthy := health.broker_connected && health.db_connected
  (if healthy then 200 else 503,
    { status := if healthy then "healthy" else "unhealthy"
      broker_connected := health.broker_connected
      db_connected := health.db_connected
      counters := counters })

end planter_telemetry.ingestion.ops

open planter_telemetry.ingestion.config planter_telemetry.ingestion.ops

namespace planter_telemetry.ingestion.service

/-! ### The flags and the backoff of `run` -/

/-- A state of `run` with its health flags, its backoff and how many backoffs it
    has waited through since it last subscribed. -/
structure Monitored where
  state : State
  health : HealthState
  backoff : ℚ
  failures : Nat

variable (externals : Externals) (settings : IngestSettings)

def Monitored.initial (db : Database) : Monitored where
  state := service.initial db
  health := {}
  backoff := settings.reconnect_initial_seconds
  failures := 0

/-- What `run` sets besides as it goes on: each flag once its connection stands,
    both at once in the `finally` before the writer is closed, and the backoff
    once it has subscribed or waited. -/
def Monitored.track (monitored : Monitored) (after : State) : Monitored :=
  match monitored.state.pc, after.pc with
  | .connecting, .entering =>
    { monitored with state := after, health := { monitored.health with db_connected := true } }
  | .subscribing, .replaying =>
    { state := after, health := { monitored.health with broker_connected := true }
      backoff := settings.reconnect_initial_seconds, failures := 0 }
  | .connecting, .closing _ | .entering, .closing _ | .exiting _, .closing _ =>
    { monitored with state := after, health := {} }
  | .backoff, .top =>
    { monitored with
      state := after
      backoff := min (monitored.backoff * 2) settings.reconnect_max_seconds
      failures := monitored.failures + 1 }
  | _, _ => { monitored with state := after }

/-- One step of the service or of its surroundings. -/
def Monitored.Step (before after : Monitored) : Prop :=
  ∃ action state, step externals before.state action = some state ∧ after = before.track settings state

/-- The steps that a list of actions stands for. -/
def Monitored.steps (actions : List Action) (monitored : Monitored) : Option Monitored :=
  actions.foldlM (fun before action => (step externals before.state action).map (before.track settings))
    monitored

theorem Monitored.reached_of_steps {actions : List Action} {before after : Monitored}
    (h : before.steps externals settings actions = some after) :
    Relation.ReflTransGen (Monitored.Step externals settings) before after := by
  induction actions generalizing before with
  | nil =>
    cases h
    exact .refl
  | cons action actions ih =>
    unfold Monitored.steps at h
    rw [List.foldlM_cons] at h
    obtain ⟨between, hstep, hrest⟩ := Option.bind_eq_some_iff.mp h
    obtain ⟨state, hstate, rfl⟩ := Option.map_eq_some_iff.mp hstep
    exact .head ⟨action, state, hstate, rfl⟩ (ih hrest)

/-! ### Where a step takes `run` -/

/-- Messages are handled: the client has subscribed, the writer is open, and
    neither is being left. -/
def Pc.serving : Pc → Bool
  | .replaying | .consuming | .waiting | .draining | .salvaging => true
  | .handling loop _ _ => loop ≠ .flush
  | _ => false

/-- There is neither a client nor a writer of the reconnect loop. -/
def Pc.down : Pc → Bool
  | .top | .closing _ | .final | .flush_connecting | .flushing | .flush_closing _ | .returned
  | .crashed _ => true
  | .handling loop _ _ => loop = .flush
  | _ => false

/-- The moves of `run`, by what they open and leave. -/
inductive Moves : Pc → Pc → Prop
  | stay (pc : Pc) : Moves pc pc
  | connect : Moves .top .connecting
  | connected : Moves .connecting .entering
  | entered : Moves .entering .subscribing
  | subscribed : Moves .subscribing .replaying
  | serve {before after : Pc} (hbefore : before.serving = true) (hafter : after.serving = true) :
    Moves before after
  | subscribe_failed (leaving : Leaving) : Moves .subscribing (.exiting leaving)
  | leave {before : Pc} (leaving : Leaving) (hbefore : before.serving = true) :
    Moves before (.exiting leaving)
  | connect_failed (leaving : Leaving) : Moves .connecting (.closing leaving)
  | enter_failed (leaving : Leaving) : Moves .entering (.closing leaving)
  | left (leaving leaving' : Leaving) : Moves (.exiting leaving) (.closing leaving')
  | back_off (leaving : Leaving) : Moves (.closing leaving) .backoff
  | waited : Moves .backoff .top
  | down {before after : Pc} (hbefore : before.down = true) (hafter : after.down = true) :
    Moves before after

variable {externals} {settings} {before after : State} {action : Action}

theorem Turns.moves {state : State} {pc pc' : Pc} (h : Turns state pc pc') : Moves pc pc' := by
  cases h with
  | begin => exact .connect
  | connected => exact .connected
  | subscribed => exact .subscribed
  | replayed | wait | drain => exact .serve rfl rfl
  | drained => exact .leave .normally rfl
  | salvaged => exact .leave .caught rfl
  | raised loop item error =>
    cases loop with
    | flush => exact .down rfl rfl
    | replay | consume | drain => exact .leave (.escaping error) rfl
  | back_off => exact .back_off .caught
  | waited => exact .waited
  | end_loop | closed | give_up | finish | flush | flush_connected | flushed | flush_closed =>
    exact .down rfl rfl

/-- Between its statements a call moves within its own loop. -/
theorem moves_of_loop {loop : Loop} {item : Item} {rest : Handler Unit} {pc : Pc}
    (hserving : loop ≠ .flush → pc.serving = true) (hdown : loop = .flush → pc.down = true) :
    Moves (.handling loop item rest) pc := by
  cases loop with
  | flush => exact .down rfl (hdown rfl)
  | replay | consume | drain => exact .serve rfl (hserving fun heq => by cases heq)

theorem proceeds_moves (h : Proceeds externals before after) : Moves before.pc after.pc := by
  cases h with
  | turned hat hturns => exact hat ▸ hturns.moves
  | entered hat => exact hat ▸ .entered
  | @resumed loop item hloop hpending =>
    generalize before.pc = pc at hloop ⊢
    cases hloop with
    | replay => exact .serve rfl rfl
    | flush => exact .down rfl rfl
  | @took loop item rest hloop hbuffered =>
    generalize before.pc = pc at hloop ⊢
    cases hloop with
    | consume | drain => exact .serve rfl rfl
  | salvaged hat hbuffered => exact .stay before.pc
  | @handled loop item hat =>
    rw [hat]
    refine moves_of_loop (fun hloop => ?_) fun hloop => ?_
    · cases loop with
      | flush => exact absurd rfl hloop
      | replay | consume | drain => rfl
    · rw [hloop]
      rfl
  | executed hat =>
    rw [hat]
    exact moves_of_loop (fun hloop => decide_eq_true hloop) fun hloop => decide_eq_true hloop
  | left hat => exact hat ▸ .left _ _
  | crashed hat | dropped hat => exact hat ▸ .down rfl rfl

theorem moves_step (h : step externals before action = some after) : Moves before.pc after.pc := by
  cases stepped externals h with
  | proceeded hproceeds => exact proceeds_moves hproceeds
  | halted hat | halted_late hat => exact hat ▸ .serve rfl rfl
  | connect_failed hat => exact hat ▸ .connect_failed .caught
  | @statement_failed took_effect loop item effect next hat hawaited =>
    rw [hat]
    refine moves_of_loop (fun hloop => ?_) fun hloop => ?_
    · cases loop with
      | flush => exact absurd rfl hloop
      | replay | consume | drain => rfl
    · rw [hloop]
      rfl
  | flush_failed hat =>
    rcases hat with hat | ⟨raised, hat⟩
    · exact hat ▸ .down rfl rfl
    · exact hat ▸ .down rfl rfl
  | enter_failed hat => exact hat ▸ .enter_failed .caught
  | subscribe_failed hat => exact hat ▸ .subscribe_failed .caught
  | disconnected_empty hat => exact hat ▸ .leave .caught rfl
  | exit_failed hat => exact hat ▸ .left _ .caught
  | delivered | disconnected | stop_set => exact .stay before.pc

/-! ### What `/healthz` says -/

/-- What the flags are, by where `run` stands. -/
def Pc.Flags (health : HealthState) : Pc → Prop
  | .entering | .subscribing => health.broker_connected = false ∧ health.db_connected = true
  -- left after a failed subscription too
  | .exiting _ => health.db_connected = true
  | pc => health.broker_connected = pc.serving ∧ health.db_connected = pc.serving

theorem flags_of_serving {health : HealthState} {pc : Pc} (hpc : pc.serving = true) :
    pc.Flags health ↔ health.broker_connected = true ∧ health.db_connected = true := by
  cases pc with
  | handling loop item rest =>
    rw [← hpc]
    rfl
  | replaying | consuming | waiting | draining | salvaging => rfl
  | _ => cases hpc

theorem serving_of_down {pc : Pc} (hpc : pc.down = true) : pc.serving = false := by
  cases pc with
  | handling loop item rest =>
    cases loop with
    | flush => rfl
    | _ => cases hpc
  | replaying | consuming | waiting | draining | salvaging => cases hpc
  | _ => rfl

theorem flags_of_down {health : HealthState} {pc : Pc} (hpc : pc.down = true) :
    pc.Flags health ↔ health.broker_connected = false ∧ health.db_connected = false := by
  rw [← serving_of_down hpc]
  cases pc with
  | entering | subscribing | exiting => cases hpc
  | _ => rfl

variable (settings) {monitored : Monitored} {state : State}

/-- A step from where messages are handled sets neither a flag nor the backoff. -/
theorem track_of_serving (hpc : monitored.state.pc.serving = true) :
    monitored.track settings state = { monitored with state := state } := by
  unfold Monitored.track
  cases hat : monitored.state.pc with
  | connecting | entering | subscribing | exiting | backoff =>
    rw [hat] at hpc
    cases hpc
  | _ => rfl

theorem track_of_down (hpc : monitored.state.pc.down = true) :
    monitored.track settings state = { monitored with state := state } := by
  unfold Monitored.track
  cases hat : monitored.state.pc with
  | connecting | entering | subscribing | exiting | backoff =>
    rw [hat] at hpc
    cases hpc
  | _ => rfl

theorem track_of_stay (hpc : monitored.state.pc = state.pc) :
    monitored.track settings state = { monitored with state := state } := by
  unfold Monitored.track
  rw [← hpc]
  cases monitored.state.pc <;> rfl

@[simp] theorem track_state (settings : IngestSettings) (monitored : Monitored) (state : State) :
    (monitored.track settings state).state = state := by
  unfold Monitored.track
  split <;> rfl

theorem flags_track (hflags : monitored.state.pc.Flags monitored.health)
    (hmoves : Moves monitored.state.pc state.pc) :
    state.pc.Flags (monitored.track settings state).health := by
  generalize hbefore : monitored.state.pc = before at hflags hmoves
  generalize hafter : state.pc = after at hmoves ⊢
  cases hmoves with
  | stay =>
    rw [track_of_stay settings (hbefore.trans hafter.symm)]
    exact hflags
  | serve hserving hserving' =>
    rw [track_of_serving settings (hbefore ▸ hserving)]
    exact (flags_of_serving hserving').mpr ((flags_of_serving hserving).mp hflags)
  | down hdown hdown' =>
    rw [track_of_down settings (hbefore ▸ hdown)]
    exact (flags_of_down hdown').mpr ((flags_of_down hdown).mp hflags)
  | leave leaving hserving =>
    rw [track_of_serving settings (hbefore ▸ hserving)]
    exact ((flags_of_serving hserving).mp hflags).2
  | connect | entered | back_off | waited =>
    simp only [Monitored.track, hbefore, hafter]
    exact hflags
  | connected =>
    simp only [Monitored.track, hbefore, hafter]
    exact ⟨hflags.1, rfl⟩
  | subscribed =>
    simp only [Monitored.track, hbefore, hafter]
    exact ⟨rfl, hflags.2⟩
  | subscribe_failed =>
    simp only [Monitored.track, hbefore, hafter]
    exact hflags.2
  | connect_failed | enter_failed | left =>
    simp only [Monitored.track, hbefore, hafter]
    exact ⟨rfl, rfl⟩

theorem healthz_payload_ok_iff {health : HealthState} {counters : Counters} :
    (healthz_payload health counters).1 = 200 ↔
      health.broker_connected = true ∧ health.db_connected = true := by
  rw [← Bool.and_eq_true]
  cases hhealthy : health.broker_connected && health.db_connected with
  | true => simp [healthz_payload, hhealthy]
  | false => simp [healthz_payload, hhealthy]

/-- In every state reached, `/healthz` answers 200 wherever messages are handled,
    and 503 wherever there is no client or no writer: while connecting, through
    the whole wait before a reconnect, in the final flush and after the end. -/
theorem healthz_tells_serving (externals : Externals) (settings : IngestSettings) (db : Database)
    {monitored : Monitored}
    (hrun : Relation.ReflTransGen (Monitored.Step externals settings) (.initial settings db) monitored) :
    let status := (healthz_payload monitored.health monitored.state.memory.counters).1
    (monitored.state.pc.serving = true → status = 200) ∧
      (status = 200 → monitored.state.pc.serving = true ∨ ∃ leaving, monitored.state.pc = .exiting leaving) ∧
      (monitored.health.broker_connected = true → monitored.health.db_connected = true) := by
  have hflags : monitored.state.pc.Flags monitored.health := by
    induction hrun with
    | refl => exact ⟨rfl, rfl⟩
    | tail _ hstep ih =>
      obtain ⟨action, state, hstep, rfl⟩ := hstep
      rw [track_state]
      exact flags_track settings ih (moves_step hstep)
  intro status
  refine ⟨fun hserving => ?_, fun hstatus => ?_, fun hbroker => ?_⟩
  · exact healthz_payload_ok_iff.mpr ((flags_of_serving hserving).mp hflags)
  · obtain ⟨hbroker, hdb⟩ := healthz_payload_ok_iff.mp hstatus
    unfold Pc.Flags at hflags
    split at hflags
    · rw [hflags.1] at hbroker
      cases hbroker
    · rw [hflags.1] at hbroker
      cases hbroker
    · next leaving hpc => exact .inr ⟨leaving, hpc⟩
    · exact .inl (hflags.1.symm.trans hbroker)
  · unfold Pc.Flags at hflags
    split at hflags
    · exact hflags.2
    · exact hflags.2
    · exact hflags
    · exact hflags.2.trans (hflags.1.symm.trans hbroker)

/-- A service that has started and waits for its first message is healthy. -/
theorem healthz_tells_serving_started :
    ∃ monitored : Monitored, monitored.state.pc.serving = true ∧
      (healthz_payload monitored.health monitored.state.memory.counters).1 = 200 := by
  have hrun : ((Monitored.initial {} .fresh).steps (document_reader []) {}
      (List.replicate 6 .proceed)).any (fun monitored => monitored.state.pc.serving) = true := by
    decide +kernel
  obtain ⟨monitored, hsteps, hserving⟩ := (Option.any_eq_true _ _).mp hrun
  exact ⟨monitored, hserving, (healthz_tells_serving (document_reader []) {} .fresh
    (Monitored.reached_of_steps (document_reader []) {} hsteps)).1 hserving⟩

/-! ### The backoff -/

/-- The backoff after so many waits: doubled each time, and from the first time
    on at most the longest. -/
def backoff_after (settings : IngestSettings) (failures : Nat) : ℚ :=
  if failures = 0 then settings.reconnect_initial_seconds
  else min (settings.reconnect_initial_seconds * 2 ^ failures) settings.reconnect_max_seconds

theorem backoff_after_succ (settings : IngestSettings) (failures : Nat) :
    backoff_after settings (failures + 1) =
      min (backoff_after settings failures * 2) settings.reconnect_max_seconds := by
  have hmax := settings.max_positive
  unfold backoff_after
  rw [if_neg (Nat.succ_ne_zero failures), pow_succ]
  split
  · next hzero => rw [hzero, pow_zero, one_mul]
  · -- doubling the longest backoff gives more than the longest
    rw [← mul_assoc, min_mul_of_nonneg _ _ (by norm_num : (0 : ℚ) ≤ 2), min_assoc,
      min_eq_right (by linarith : settings.reconnect_max_seconds ≤ settings.reconnect_max_seconds * 2)]

/-- Every backoff lies between the two settings, whichever of them is longer. -/
theorem backoff_after_bounds (settings : IngestSettings) (failures : Nat) :
    min settings.reconnect_initial_seconds settings.reconnect_max_seconds ≤ backoff_after settings failures ∧
      backoff_after settings failures ≤
        max settings.reconnect_initial_seconds settings.reconnect_max_seconds := by
  unfold backoff_after
  split
  · exact ⟨min_le_left _ _, le_max_left _ _⟩
  · have hgrown : settings.reconnect_initial_seconds ≤ settings.reconnect_initial_seconds * 2 ^ failures :=
      le_mul_of_one_le_right settings.initial_positive.le (one_le_pow₀ (by norm_num))
    exact ⟨min_le_min_right _ hgrown, (min_le_right _ _).trans (le_max_right _ _)⟩

/-- The backoff is the one for the failures so far, and there are none while
    messages are handled. -/
structure BackedOff (settings : IngestSettings) (backoff : ℚ) (failures : Nat) (pc : Pc) : Prop where
  backoff : backoff = backoff_after settings failures
  serving : pc.serving = true → failures = 0

theorem backed_off_track
    (h : BackedOff settings monitored.backoff monitored.failures monitored.state.pc)
    (hmoves : Moves monitored.state.pc state.pc) :
    BackedOff settings (monitored.track settings state).backoff (monitored.track settings state).failures
      state.pc := by
  obtain ⟨hbackoff, hserving⟩ := h
  generalize hbefore : monitored.state.pc = before at hserving hmoves
  generalize hafter : state.pc = after at hmoves ⊢
  cases hmoves with
  | stay =>
    rw [track_of_stay settings (hbefore.trans hafter.symm)]
    exact ⟨hbackoff, hserving⟩
  | serve hserves =>
    rw [track_of_serving settings (hbefore ▸ hserves)]
    exact ⟨hbackoff, fun _ => hserving hserves⟩
  | down hdown hdown' =>
    rw [track_of_down settings (hbefore ▸ hdown)]
    refine ⟨hbackoff, fun hserves => ?_⟩
    rw [serving_of_down hdown'] at hserves
    cases hserves
  | leave leaving hserves =>
    rw [track_of_serving settings (hbefore ▸ hserves)]
    exact ⟨hbackoff, fun hserves => by cases hserves⟩
  | connect | connected | entered | subscribe_failed | connect_failed | enter_failed | left | back_off =>
    simp only [Monitored.track, hbefore, hafter]
    exact ⟨hbackoff, fun hserves => by cases hserves⟩
  | subscribed =>
    simp only [Monitored.track, hbefore, hafter]
    exact ⟨rfl, fun _ => rfl⟩
  | waited =>
    simp only [Monitored.track, hbefore, hafter]
    refine ⟨?_, fun hserves => by cases hserves⟩
    rw [backoff_after_succ, hbackoff]

/-- In every state reached, the backoff is the one for the waits since `run` last
    subscribed, and none of them while it serves. -/
theorem backoff_doubles (externals : Externals) (settings : IngestSettings) (db : Database)
    {monitored : Monitored}
    (hrun : Relation.ReflTransGen (Monitored.Step externals settings) (.initial settings db) monitored) :
    monitored.backoff = backoff_after settings monitored.failures ∧
      (monitored.state.pc.serving = true → monitored.failures = 0) ∧
      min settings.reconnect_initial_seconds settings.reconnect_max_seconds ≤ monitored.backoff ∧
      monitored.backoff ≤ max settings.reconnect_initial_seconds settings.reconnect_max_seconds := by
  have hbacked_off : BackedOff settings monitored.backoff monitored.failures monitored.state.pc := by
    induction hrun with
    | refl => exact ⟨rfl, fun _ => rfl⟩
    | tail _ hstep ih =>
      obtain ⟨action, state, hstep, rfl⟩ := hstep
      rw [track_state]
      exact backed_off_track settings ih (moves_step hstep)
  obtain ⟨hbackoff, hserving⟩ := hbacked_off
  rw [hbackoff]
  exact ⟨rfl, hserving, backoff_after_bounds settings monitored.failures⟩

/-- A connection attempt that fails, and the wait after it. -/
def database_down : List Action := [.proceed, .operational_error false, .proceed, .proceed]

/-- After six failed attempts the wait has stopped doubling. -/
theorem backoff_doubles_database_down :
    ∃ monitored : Monitored, monitored.failures = 6 ∧ monitored.backoff = 30 ∧
      monitored.backoff = backoff_after {} monitored.failures := by
  have hrun : ((Monitored.initial {} .fresh).steps (document_reader []) {}
      (List.replicate 6 database_down).flatten).any (fun monitored =>
        monitored.failures = 6 && monitored.backoff = 30) = true := by
    decide +kernel
  obtain ⟨monitored, hsteps, hwaited⟩ := (Option.any_eq_true _ _).mp hrun
  obtain ⟨hfailures, hbackoff⟩ := Bool.and_eq_true_iff.mp hwaited
  exact ⟨monitored, of_decide_eq_true hfailures, of_decide_eq_true hbackoff,
    (backoff_doubles (document_reader []) {} .fresh
      (Monitored.reached_of_steps (document_reader []) {} hsteps)).1⟩

end planter_telemetry.ingestion.service
