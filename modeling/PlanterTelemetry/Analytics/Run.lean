import PlanterTelemetry.Analytics.Pass
import PlanterTelemetry.Ingestion.Handle
import Mathlib.Logic.Relation

open planter_telemetry.python planter_telemetry.migrations
open planter_telemetry.analytics.model planter_telemetry.analytics.config

namespace planter_telemetry.analytics.config

theorem default_interval_positive : (0 : ℚ) < 30 := by decide

/-- The settings of `run`: those of a pass, and how long to wait between two. -/
structure RunSettings extends AnalyticsSettings where
  interval_seconds : ℚ := 30
  interval_positive : 0 < interval_seconds := by exact default_interval_positive

end planter_telemetry.analytics.config

namespace planter_telemetry.analytics.ops

/-- One skipped cycle before a pass is overdue. -/
def OVERDUE_FACTOR : ℚ := 2

def OVERDUE_GRACE_SECONDS : ℚ := 30

structure HealthState where
  last_pass_ok : Bool := false
  last_pass_monotonic : Option ℚ := none
  deriving DecidableEq

/-- The body of `/healthz`, but for the counters, which are copied. -/
structure HealthzBody where
  status : String
  last_pass_ok : Bool
  seconds_since_last_pass : Option ℚ
  deriving DecidableEq

def healthz_payload (health : HealthState) (interval_seconds now_monotonic : ℚ) : Nat × HealthzBody :=
  let seconds_since := health.last_pass_monotonic.map fun last => now_monotonic - last
  let overdue_after := interval_seconds * OVERDUE_FACTOR + OVERDUE_GRACE_SECONDS
  let healthy := health.last_pass_ok && seconds_since.any fun seconds => decide (seconds ≤ overdue_after)
  (if healthy then 200 else 503,
    { status := if healthy then "healthy" else "unhealthy"
      last_pass_ok := health.last_pass_ok
      seconds_since_last_pass := seconds_since })

end planter_telemetry.analytics.ops

open planter_telemetry.analytics.ops

namespace planter_telemetry.analytics.service

/-- The statements of the store are awaited and can fail. A post never raises,
    and the counters are in memory. -/
def Effect.awaited : Effect → Bool
  | .post_ntfy _ | .count _ | .set_devices_forecast _ => false
  | _ => true

/-- How `run_pass` ends, once its store is closed: it returns, it raises one of
    the errors that `run` catches, or any other one. -/
inductive PassEnd where
  | returned (now_data : Option UtcDatetime)
  | failed
  | raised (error : PyError)

/-- Where `run` stands. `connecting` and `passing` carry what is left of the
    pass, and `waiting` the time at which `_wait_for_stop` gives up. -/
inductive Pc where
  | top
  | connecting (pass : Pass (Option UtcDatetime))
  | passing (rest : Pass (Option UtcDatetime))
  | closing (ending : PassEnd)
  | waiting (deadline : ℚ)
  | returned
  | crashed (error : PyError)

/-- A state of `run` and its surroundings: what a pass reads and writes, the
    other counters and the other gauge, and the monotonic clock. -/
structure State where
  settings : RunSettings
  world : World
  passes : Nat
  pass_failures : Nat
  last_pass_duration_seconds : ℚ
  last_data_now : Option UtcDatetime
  health : HealthState
  began : ℚ
  stop : Bool
  clock : ℚ
  pc : Pc

/-- The start of `run`. The database and what was posted outlive a process. -/
def started (settings : RunSettings) (db : Database) (sent : List Notification) (clock : ℚ) : State where
  settings := settings
  world := { db := db, sent := sent }
  passes := 0
  pass_failures := 0
  last_pass_duration_seconds := 0
  last_data_now := none
  health := {}
  began := clock
  stop := false
  clock := clock
  pc := .top

namespace State

def goto (state : State) (pc : Pc) : State := { state with pc := pc }

/-- The end of one turn of the loop, after its `try` statement. -/
def turned (state : State) (ok : Bool) : State :=
  { state with
    health := ⟨ok, some state.clock⟩
    last_pass_duration_seconds := state.clock - state.began
    pc := .waiting (state.clock + state.settings.interval_seconds) }

/-- `counters.passes += 1`, or the `except` clause of the loop. -/
def settle (state : State) : PassEnd → State
  | .returned now_data =>
    { state with last_data_now := now_data, passes := state.passes + 1 }.turned true
  | .failed => { state with pass_failures := state.pass_failures + 1 }.turned false
  | .raised error => state.goto (.crashed error)

end State

/-- What can happen next: the service goes on, the connection or a statement of
    the database fails, or something happens outside. `commit` is a statement of
    ingestion, and `restart` a process that was killed, wherever it stood, and
    started again. -/
inductive Action where
  | proceed
  | database_error (took_effect : Bool)
  | tick (seconds : ℚ)
  | set_stop
  | commit (effect : ingestion.service.Effect)
  | restart (settings : RunSettings)

variable (around : Surroundings)

def proceed (state : State) : Option State :=
  match state.pc with
  | .top =>
    if state.stop then some (state.goto .returned)
    else
      let state := { state with began := state.clock }
      -- the check of the metric kinds comes before the connection
      match run_pass state.settings.toAnalyticsSettings state.last_data_now with
      | .raise error => some (state.goto (.crashed error))
      | pass => some (state.goto (.connecting pass))
  | .connecting pass => some (state.goto (.passing pass))
  | .passing (.ret now_data) => some (state.goto (.closing (.returned now_data)))
  | .passing (.raise error) => some (state.goto (.closing (.raised error)))
  | .passing (.exec effect next) =>
    let (world, response) := perform around effect state.world
    some { state with world := world, pc := .passing (next response) }
  | .closing ending => some (state.settle ending)
  | .waiting deadline =>
    if state.stop ∨ deadline ≤ state.clock then some (state.goto .top) else none
  | .returned | .crashed _ => none

/-- `psycopg.Error` or `OSError`, at the places that await the database. -/
def database_error (took_effect : Bool) (state : State) : Option State :=
  match state.pc with
  | .connecting _ => some (state.settle .failed)
  | .passing (.exec effect _) =>
    if effect.awaited then
      let world := if took_effect then (perform around effect state.world).1 else state.world
      some { state with world := world, pc := .closing .failed }
    else none
  | .closing _ => some (state.settle .failed)
  | _ => none

def step (state : State) : Action → Option State
  | .proceed => proceed around state
  | .database_error took_effect => database_error around took_effect state
  | .tick seconds =>
    if 0 ≤ seconds then some { state with clock := state.clock + seconds } else none
  | .set_stop => some { state with stop := true }
  | .commit effect =>
    some { state with world := { state.world with db := effect.write state.world.db } }
  | .restart settings => some (started settings state.world.db state.world.sent state.clock)

/-- One step of the service or of its surroundings. -/
def Step (before after : State) : Prop := ∃ action, step around before action = some after

/-- The state after a list of actions. -/
def steps (actions : List Action) (state : State) : Option State := actions.foldlM (step around) state

variable {around} {before after : State}

theorem steps_cons {action : Action} {actions : List Action} :
    steps around (action :: actions) before = some after ↔
      ∃ between, step around before action = some between ∧ steps around actions between = some after := by
  unfold steps
  rw [List.foldlM_cons]
  exact Option.bind_eq_some_iff

theorem reached_iff_steps :
    Relation.ReflTransGen (Step around) before after ↔ ∃ actions, steps around actions before = some after := by
  constructor
  · intro h
    induction h using Relation.ReflTransGen.head_induction_on with
    | refl => exact ⟨[], rfl⟩
    | head hstep _ ih =>
      obtain ⟨action, hstep⟩ := hstep
      obtain ⟨actions, hrest⟩ := ih
      exact ⟨action :: actions, steps_cons.mpr ⟨_, hstep, hrest⟩⟩
  · rintro ⟨actions, h⟩
    induction actions generalizing before with
    | nil =>
      cases h
      exact .refl
    | cons action actions ih =>
      obtain ⟨between, hstep, hrest⟩ := steps_cons.mp h
      exact .head ⟨action, hstep⟩ (ih hrest)

end planter_telemetry.analytics.service
