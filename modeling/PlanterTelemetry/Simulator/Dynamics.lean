import PlanterTelemetry.Contract

open planter_telemetry.python planter_telemetry.contract

namespace planter_telemetry.simulator

/-! ### Random draws, by their ranges -/

/-- `rng.random()`. -/
abbrev Random : Type := { x : ℚ // 0 ≤ x ∧ x < 1 }

/-- The position of `rng.uniform` between its bounds, either of which rounding
    can reach. -/
abbrev Uniform : Type := { x : ℚ // 0 ≤ x ∧ x ≤ 1 }

instance Random.zero : OfNat Random 0 := ⟨⟨0, by norm_num⟩⟩
instance Uniform.zero : OfNat Uniform 0 := ⟨⟨0, by norm_num⟩⟩
instance Uniform.one : OfNat Uniform 1 := ⟨⟨1, by norm_num⟩⟩

/-- `rng.uniform(low, high)`. -/
def uniform (low high : ℚ) (draw : Uniform) : ℚ := low + (high - low) * draw

theorem uniform_range {low high : ℚ} (h : low ≤ high) (draw : Uniform) :
    low ≤ uniform low high draw ∧ uniform low high draw ≤ high := by
  obtain ⟨x, hlow, hhigh⟩ := draw
  have hwidth := sub_nonneg.mpr h
  unfold uniform
  constructor
  · nlinarith
  · nlinarith

namespace dynamics

def BATTERY_RECHARGE_BELOW_V : ℚ := 3
def BATTERY_FULL_V : ℚ := 42 / 10
def BATTERY_WORKING_RANGE_V : ℚ := BATTERY_FULL_V - BATTERY_RECHARGE_BELOW_V

structure DeviceParams where
  depletion_pct_per_hour : ℚ
  refill_threshold_pct : ℚ
  refill_prob_per_wake : ℚ
  battery_decay_v_per_hour : ℚ
  jitter_seconds : ℚ

/-- The draws of `draw_device_params`, in its order. -/
structure ParamDraws where
  tank_days : Uniform
  battery_days : Uniform
  refill_threshold_pct : Uniform
  refill_prob_per_wake : Uniform
  jitter_seconds : Uniform

def draw_device_params (draws : ParamDraws) : DeviceParams :=
  let tank_days := uniform 2 6 draws.tank_days
  let battery_days := uniform 14 28 draws.battery_days
  { depletion_pct_per_hour := 100 / (tank_days * 24)
    refill_threshold_pct := uniform 5 25 draws.refill_threshold_pct
    refill_prob_per_wake := uniform (2 / 10) (6 / 10) draws.refill_prob_per_wake
    battery_decay_v_per_hour := BATTERY_WORKING_RANGE_V / (battery_days * 24)
    jitter_seconds := uniform 0 15 draws.jitter_seconds }

/-- The draws before the first wake. -/
structure StartDraws where
  level : Uniform
  battery : Uniform

/-- The draws of one wake. -/
structure WakeDraws where
  jitter : Uniform
  refill_roll : Random
  refill_target : Uniform
  recharge_target : Uniform
  adc_noise : Uniform

/-- The local variables of `device_readings` at the top of its loop. -/
structure DeviceState where
  level : ℚ
  battery : ℚ
  at_time : UtcDatetime
  prev_at : UtcDatetime

def DeviceState.initial (draws : StartDraws) (start : UtcDatetime) : DeviceState where
  level := uniform 40 100 draws.level
  battery := uniform (37 / 10) BATTERY_FULL_V draws.battery
  at_time := start
  prev_at := start

/-- The jitter is capped at a quarter of the interval. -/
def jitter_limit (params : DeviceParams) (interval : Int) : ℚ :=
  min params.jitter_seconds (total_seconds interval / 4)

def jitter (params : DeviceParams) (interval : Int) (draws : WakeDraws) : ℚ :=
  uniform (-jitter_limit params interval) (jitter_limit params interval) draws.jitter

def elapsed_hours (state : DeviceState) : ℚ :=
  total_seconds (DataTime.since state.at_time state.prev_at) / 3600

/-- The level before a refill is decided. -/
def depleted_level (params : DeviceParams) (state : DeviceState) : ℚ :=
  max 0 (state.level - params.depletion_pct_per_hour * elapsed_hours state)

/-- Whether this wake refills the planter. -/
def refills (params : DeviceParams) (draws : WakeDraws) (state : DeviceState) : Bool :=
  decide (depleted_level params state < params.refill_threshold_pct) &&
    decide (draws.refill_roll < params.refill_prob_per_wake)

def new_level (params : DeviceParams) (draws : WakeDraws) (state : DeviceState) : ℚ :=
  if refills params draws state then uniform 92 100 draws.refill_target
  else depleted_level params state

def new_battery (params : DeviceParams) (draws : WakeDraws) (state : DeviceState) : ℚ :=
  let battery := state.battery - params.battery_decay_v_per_hour * elapsed_hours state
  if battery < BATTERY_RECHARGE_BELOW_V then uniform (415 / 100) (425 / 100) draws.recharge_target
  else battery

/-- What a wake yields. -/
def reading (device_id : String) (params : DeviceParams) (draws : WakeDraws) (state : DeviceState) :
    Except Rejection TelemetryV1 :=
  TelemetryV1.new device_id state.at_time
    (.finite (round_to 1 (new_level params draws state)))
    (.finite (min (44 / 10) (max (25 / 10) (round_to 3
      (new_battery params draws state + uniform (-5 / 1000) (5 / 1000) draws.adc_noise)))))

/-- The end of the loop: `at + interval + timedelta(seconds=jitter)`. -/
def advance (params : DeviceParams) (interval : Int) (draws : WakeDraws) (state : DeviceState) :
    Except PyError DeviceState := do
  let next_at ← state.at_time.add interval
  let delta ← timedelta_seconds (jitter params interval draws)
  let at_time ← next_at.add delta
  .ok { level := new_level params draws state
        battery := new_battery params draws state
        at_time := at_time
        prev_at := state.at_time }

/-- The state before a wake, unless an earlier wake raised. -/
def state_at (device_id : String) (params : DeviceParams) (interval : Int) (first : DeviceState)
    (draws : Nat → WakeDraws) : Nat → Except Rejection DeviceState
  | 0 => .ok first
  | wake + 1 => do
    let state ← state_at device_id params interval first draws wake
    let _ ← reading device_id params (draws wake) state
    (advance params interval (draws wake) state).mapError .raised

/-- The reading of each wake, unless the generator has raised by then. -/
def device_readings (device_id : String) (params : DeviceParams) (interval : Int)
    (first : DeviceState) (draws : Nat → WakeDraws) (wake : Nat) : Except Rejection TelemetryV1 := do
  let state ← state_at device_id params interval first draws wake
  reading device_id params (draws wake) state

/-! ### What a wake does -/

section Wake

variable {device_id : String} {params : DeviceParams} {interval : Int} {first : DeviceState}
  {draws : Nat → WakeDraws} {own : WakeDraws} {state after : DeviceState} {wake : Nat}
  {yielded : TelemetryV1}

theorem reading_eq_ok_iff : reading device_id params own state = .ok yielded ↔
    yielded.device_id.val = device_id ∧ yielded.measured_at = state.at_time ∧
      yielded.water_level.val = .finite (round_to 1 (new_level params own state)) ∧
      yielded.battery_voltage.val = .finite (min (44 / 10) (max (25 / 10) (round_to 3
        (new_battery params own state + uniform (-5 / 1000) (5 / 1000) own.adc_noise)))) :=
  TelemetryV1.new_eq_ok_iff

theorem advance_eq_ok_iff : advance params interval own state = .ok after ↔
    ∃ next_at delta, state.at_time.add interval = .ok next_at ∧
      timedelta_seconds (jitter params interval own) = .ok delta ∧
      next_at.add delta = .ok after.at_time ∧ after.prev_at = state.at_time ∧
      after.level = new_level params own state ∧ after.battery = new_battery params own state := by
  obtain ⟨level, battery, at_time, prev_at⟩ := after
  unfold advance
  simp only [bind_eq_ok_iff, Except.ok.injEq, DeviceState.mk.injEq]
  constructor
  · rintro ⟨next_at, hnext, delta, hdelta, _, hat, rfl, rfl, rfl, rfl⟩
    exact ⟨next_at, delta, hnext, hdelta, hat, rfl, rfl, rfl⟩
  · rintro ⟨next_at, delta, hnext, hdelta, hat, rfl, rfl, rfl⟩
    exact ⟨next_at, hnext, delta, hdelta, at_time, hat, rfl, rfl, rfl, rfl⟩

/-- A wake is reached when all before it yielded and moved on. -/
theorem state_at_succ_eq_ok_iff :
    state_at device_id params interval first draws (wake + 1) = .ok after ↔
      ∃ state, state_at device_id params interval first draws wake = .ok state ∧
        (∃ yielded, reading device_id params (draws wake) state = .ok yielded) ∧
        advance params interval (draws wake) state = .ok after := by
  simp only [state_at, bind_eq_ok_iff, mapError_eq_ok_iff, exists_and_right]

theorem device_readings_eq_ok_iff :
    device_readings device_id params interval first draws wake = .ok yielded ↔
      ∃ state, state_at device_id params interval first draws wake = .ok state ∧
        reading device_id params (draws wake) state = .ok yielded := by
  simp only [device_readings, bind_eq_ok_iff]

end Wake

/-! ### Device time -/

section Time

variable {device_id : String} {params : DeviceParams} {interval : Int} {first : DeviceState}
  {draws : Nat → WakeDraws} {own : WakeDraws} {state after : DeviceState}

/-- The jitter stays within a quarter of the interval. -/
theorem jitter_range (hinterval : 0 ≤ interval) (hparams : 0 ≤ params.jitter_seconds) :
    -(total_seconds interval / 4) ≤ jitter params interval own ∧
      jitter params interval own ≤ total_seconds interval / 4 := by
  have hlimit : jitter_limit params interval ≤ total_seconds interval / 4 := min_le_right _ _
  have hseconds : (0 : ℚ) ≤ total_seconds interval :=
    div_nonneg (Int.cast_nonneg hinterval) (by norm_num)
  have hpositive : 0 ≤ jitter_limit params interval := le_min hparams (by linarith)
  obtain ⟨hlow, hhigh⟩ := uniform_range (neg_le_self hpositive) own.jitter
  exact ⟨by unfold jitter; linarith, by unfold jitter; linarith⟩

/-- A wake moves time by three quarters of the interval at least, up to the
    rounding of the jitter to microseconds. -/
theorem advance_moves (hinterval : 0 ≤ interval) (hparams : 0 ≤ params.jitter_seconds)
    (h : advance params interval own state = .ok after) : ∃ moved : Int,
      after.at_time.micros = state.at_time.micros + moved ∧
        (3 / 4 * interval - 1 / 2 : ℚ) ≤ moved := by
  obtain ⟨next_at, delta, hnext, hdelta, hat, -⟩ := advance_eq_ok_iff.mp h
  rw [UtcDatetime.add_ok_iff] at hnext hat
  have hround : delta = round_half_even (jitter params interval own * 1000000) := by
    unfold timedelta_seconds timedelta at hdelta
    split at hdelta
    · exact (Except.ok.inj hdelta).symm
    · cases hdelta
  have hclose := abs_le.mp (abs_sub_round_half_even_le (jitter params interval own * 1000000))
  have hlow : -(total_seconds interval / 4) ≤ jitter params interval own :=
    (jitter_range hinterval hparams).1
  have hseconds : (total_seconds interval : ℚ) * 1000000 = interval := by
    unfold total_seconds
    field_simp
  refine ⟨interval + delta, by omega, ?_⟩
  rw [hround]
  push_cast
  linarith

/-- Time moves on at every wake: the jitter, rounded to microseconds, is less
    than the interval. -/
theorem advance_later (hinterval : 1 ≤ interval) (hparams : 0 ≤ params.jitter_seconds)
    (h : advance params interval own state = .ok after) : state.at_time < after.at_time := by
  obtain ⟨moved, hmoved, hbound⟩ := advance_moves (by omega) hparams h
  have hone : (1 : ℚ) ≤ interval := by exact_mod_cast hinterval
  have hpositive : (0 : ℚ) < moved := by linarith
  have hmoves : 0 < moved := by exact_mod_cast hpositive
  rw [UtcDatetime.lt_iff]
  omega

theorem advance_not_earlier (hinterval : 0 ≤ interval) (hparams : 0 ≤ params.jitter_seconds)
    (h : advance params interval own state = .ok after) : state.at_time ≤ after.at_time := by
  obtain ⟨moved, hmoved, hbound⟩ := advance_moves hinterval hparams h
  have hzero : (0 : ℚ) ≤ interval := by exact_mod_cast hinterval
  have habove : (-1 : ℚ) < moved := by linarith
  have hmoves : -1 < moved := by exact_mod_cast habove
  rw [UtcDatetime.le_iff]
  omega

/-- The readings of a device are strictly increasing in time. -/
theorem state_at_increasing (hinterval : 1 ≤ interval) (hparams : 0 ≤ params.jitter_seconds)
    {earlier later : Nat} (hlt : earlier < later)
    (hearlier : state_at device_id params interval first draws earlier = .ok state)
    (hlater : state_at device_id params interval first draws later = .ok after) :
    state.at_time < after.at_time := by
  induction hlt generalizing after with
  | refl =>
    obtain ⟨before, hbefore, -, hadvance⟩ := state_at_succ_eq_ok_iff.mp hlater
    obtain rfl : state = before := Except.ok.inj (hearlier.symm.trans hbefore)
    exact advance_later hinterval hparams hadvance
  | step _ ih =>
    obtain ⟨before, hbefore, -, hadvance⟩ := state_at_succ_eq_ok_iff.mp hlater
    exact (ih hbefore).trans (advance_later hinterval hparams hadvance)

end Time

/-! ### Levels -/

/-- What `draw_device_params` promises of the parameters that a level depends
    on. -/
structure DeviceParams.InRange (params : DeviceParams) : Prop where
  depletion : 0 ≤ params.depletion_pct_per_hour
  threshold : params.refill_threshold_pct ≤ 25
  jitter : 0 ≤ params.jitter_seconds

theorem draw_device_params_in_range (draws : ParamDraws) : (draw_device_params draws).InRange where
  depletion := by
    have hdays := (uniform_range (by norm_num : (2 : ℚ) ≤ 6) draws.tank_days).1
    exact div_nonneg (by norm_num) (by linarith)
  threshold := (uniform_range (by norm_num) draws.refill_threshold_pct).2
  jitter := (uniform_range (by norm_num) draws.jitter_seconds).1

/-- What a state keeps from wake to wake. -/
structure DeviceState.Sound (state : DeviceState) : Prop where
  level_nonneg : 0 ≤ state.level
  level_le : state.level ≤ 100
  elapsed : state.prev_at ≤ state.at_time

section Level

variable {device_id : String} {params : DeviceParams} {interval : Int} {start : UtcDatetime}
  {first : StartDraws} {draws : Nat → WakeDraws} {state : DeviceState} {wake : Nat}

theorem DeviceState.Sound.elapsed_hours_nonneg (h : state.Sound) : 0 ≤ elapsed_hours state := by
  have hmicros : 0 ≤ state.at_time.micros - state.prev_at.micros :=
    Int.sub_nonneg_of_le (UtcDatetime.le_iff.mp h.elapsed)
  exact div_nonneg (div_nonneg (Int.cast_nonneg hmicros) (by norm_num)) (by norm_num)

theorem depleted_level_nonneg : 0 ≤ depleted_level params state := le_max_left _ _

/-- Without a refill the level only falls. -/
theorem depleted_level_le (hparams : params.InRange) (h : state.Sound) :
    depleted_level params state ≤ state.level := by
  have hdepleted := mul_nonneg hparams.depletion h.elapsed_hours_nonneg
  exact max_le h.level_nonneg (by linarith)

theorem new_level_range (own : WakeDraws) (hparams : params.InRange) (h : state.Sound) :
    0 ≤ new_level params own state ∧ new_level params own state ≤ 100 := by
  obtain ⟨htarget, htarget'⟩ := uniform_range (by norm_num : (92 : ℚ) ≤ 100) own.refill_target
  unfold new_level
  split
  · exact ⟨by linarith, htarget'⟩
  · exact ⟨depleted_level_nonneg, (depleted_level_le hparams h).trans h.level_le⟩

/-- Every wake starts from a sound state. -/
theorem state_at_sound (hinterval : 0 ≤ interval) (hparams : params.InRange)
    (h : state_at device_id params interval (DeviceState.initial first start) draws wake = .ok state) :
    state.Sound := by
  induction wake generalizing state with
  | zero =>
    cases h
    obtain ⟨hlow, hhigh⟩ := uniform_range (by norm_num : (40 : ℚ) ≤ 100) first.level
    exact ⟨le_trans (by norm_num) hlow, hhigh, le_refl _⟩
  | succ wake ih =>
    obtain ⟨before, hbefore, -, hadvance⟩ := state_at_succ_eq_ok_iff.mp h
    obtain ⟨-, -, -, -, -, hprev, hlevel, -⟩ := advance_eq_ok_iff.mp hadvance
    obtain ⟨hlow, hhigh⟩ := new_level_range (draws wake) hparams (ih hbefore)
    refine ⟨hlevel ▸ hlow, hlevel ▸ hhigh, ?_⟩
    rw [hprev]
    exact advance_not_earlier hinterval hparams.jitter hadvance

end Level

end dynamics

end planter_telemetry.simulator
