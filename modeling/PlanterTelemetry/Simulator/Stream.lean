import PlanterTelemetry.Library.Decimal
import PlanterTelemetry.Library.Merge
import PlanterTelemetry.Simulator.Dynamics
import PlanterTelemetry.Simulator.Wire

open planter_telemetry.python planter_telemetry.contract
open planter_telemetry.simulator.dynamics planter_telemetry.simulator.wire

namespace planter_telemetry.simulator.stream

/-! ### Settings and draws -/

abbrev Rate : Type := { x : ℚ // 0 ≤ x ∧ x ≤ 1 }

structure SimulatorSettings where
  device_count : { count : Nat // 1 ≤ count }
  interval_seconds : { seconds : ℚ // 0 < seconds }
  duplicate_rate : Rate
  out_of_order_rate : Rate
  malformed_rate : Rate
  missed_checkin_rate : Rate

inductive EmissionKind where
  | normal
  | duplicate
  | late
  deriving DecidableEq, Repr

structure Emission where
  publish_at : UtcDatetime
  reading : TelemetryV1
  corruption : Option CorruptionMode
  kind : EmissionKind
  deriving DecidableEq

instance defer_one : OfNat { wakes : Nat // 1 ≤ wakes ∧ wakes ≤ 3 } 1 := ⟨⟨1, by omega⟩⟩
instance defer_three : OfNat { wakes : Nat // 1 ≤ wakes ∧ wakes ≤ 3 } 3 := ⟨⟨3, by omega⟩⟩

/-- The draws of one wake; `defer_wakes` is `rng.randint(1, 3)`. -/
structure ImperfectionDraws where
  missed_roll : Random
  malformed_roll : Random
  duplicate_roll : Random
  defer_roll : Random
  defer_wakes : { wakes : Nat // 1 ≤ wakes ∧ wakes ≤ 3 }

/-- All that is drawn for one device, from the generators seeded with its id. -/
structure DeviceDraws where
  params : ParamDraws
  first : StartDraws
  wakes : Nat → WakeDraws
  imperfections : Nat → ImperfectionDraws
  phase : Random

/-! ### The emissions of one device -/

/-- `itertools.cycle(CorruptionMode)`, by how many modes were taken from it. -/
def corruption_modes (taken : Nat) : CorruptionMode :=
  match taken % 3 with
  | 0 => .truncated
  | 1 => .wrong_type
  | _ => .missing_field

/-- The local variables of `device_emissions` that outlast a wake. -/
structure EmitterState where
  modes : Nat
  deferred : List (Nat × Emission)

/-- One turn of the loop: what it yields, and the state it leaves. -/
def wake_emissions (settings : SimulatorSettings) (draws : ImperfectionDraws) (wake : Nat)
    (reading : TelemetryV1) (state : EmitterState) : List Emission × EmitterState :=
  let late := (state.deferred.takeWhile fun held => held.1 ≤ wake).map fun (_, held) =>
    { publish_at := reading.measured_at, reading := held.reading
      corruption := held.corruption, kind := .late : Emission }
  let deferred := state.deferred.dropWhile fun held => held.1 ≤ wake
  if draws.missed_roll.val < settings.missed_checkin_rate.val then
    (late, { state with deferred := deferred })
  else
    let malformed := decide (draws.malformed_roll.val < settings.malformed_rate.val)
    let corruption := if malformed then some (corruption_modes state.modes) else none
    let modes := if malformed then state.modes + 1 else state.modes
    let emission : Emission := ⟨reading.measured_at, reading, corruption, .normal⟩
    if draws.defer_roll.val < settings.out_of_order_rate.val then
      (late, ⟨modes, deferred ++ [(wake + draws.defer_wakes, emission)]⟩)
    else if draws.duplicate_roll.val < settings.duplicate_rate.val then
      (late ++ [emission, { emission with kind := .duplicate }], ⟨modes, deferred⟩)
    else (late ++ [emission], ⟨modes, deferred⟩)

variable (settings : SimulatorSettings)

/-- The state before a wake, unless the readings have raised by then. -/
def emitter_at (draws : Nat → ImperfectionDraws) (readings : Nat → Except Rejection TelemetryV1) :
    Nat → Except Rejection EmitterState
  | 0 => .ok ⟨0, []⟩
  | wake + 1 => do
    let state ← emitter_at draws readings wake
    let reading ← readings wake
    .ok (wake_emissions settings (draws wake) wake reading state).2

/-- What each wake emits, unless the generator has raised by then. -/
def device_emissions (draws : Nat → ImperfectionDraws)
    (readings : Nat → Except Rejection TelemetryV1) (wake : Nat) :
    Except Rejection (List Emission) := do
  let state ← emitter_at settings draws readings wake
  let reading ← readings wake
  .ok (wake_emissions settings (draws wake) wake reading state).1

/-! ### The fleet -/

/-- `f"planter-{index:02d}"`. -/
def device_id (index : Nat) : String := "planter-" ++ String.ofList (Decimal.digits 2 index)

/-- The readings of a device, in the loop of `build_streams`. -/
def fleet_readings (start : UtcDatetime) (interval : Int) (draws : DeviceDraws) (device_id : String) :
    Except PyError (Nat → Except Rejection TelemetryV1) := do
  let phase ← timedelta_seconds (draws.phase.val * settings.interval_seconds.val)
  let first_at ← start.add phase
  .ok (device_readings device_id (draw_device_params draws.params) interval
    (DeviceState.initial draws.first first_at) draws.wakes)

def fleet_stream (start : UtcDatetime) (interval : Int) (draws : DeviceDraws) (device_id : String) :
    Except PyError (Nat → Except Rejection (List Emission)) := do
  let readings ← fleet_readings settings start interval draws device_id
  .ok (device_emissions settings draws.imperfections readings)

/-- The streams that `build_streams` merges. The draws of a device depend on its
    id and the seed alone. -/
def build_streams (start : UtcDatetime) (draws : String → DeviceDraws) :
    Except PyError (List (Nat → Except Rejection (List Emission))) := do
  let interval ← timedelta_seconds settings.interval_seconds.val
  (List.range settings.device_count.val).mapM fun index =>
    fleet_stream settings start interval (draws (device_id index)) (device_id index)

/-- The bursts of the streams, as the merge sees them. -/
def bursts (streams : List (Nat → Except Rejection (List Emission))) (index wake : Nat) :
    Option (List Emission) :=
  (streams.getD index (fun _ => .ok [])  wake).toOption

/-- `merged_emissions`: what the merge has given out after so many steps, each of
    them a wake of one device or an emission. `none` once a stream has raised. -/
def merged_emissions (streams : List (Nat → Except Rejection (List Emission))) (steps : Nat) :
    Option (List Emission) :=
  (Merging.run Emission.publish_at streams.length (bursts streams) steps).map fun state =>
    state.out.map Prod.snd

end planter_telemetry.simulator.stream
