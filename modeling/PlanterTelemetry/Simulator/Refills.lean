import PlanterTelemetry.Analytics.Rounded
import PlanterTelemetry.Simulator.Dynamics

open planter_telemetry.python planter_telemetry.contract planter_telemetry.analytics.model

namespace planter_telemetry.simulator.dynamics

/-- A device as `build_streams` starts it: parameters in range, and an interval
    that is not negative. -/
structure Device where
  device_id : String
  params : DeviceParams
  interval : Int
  start : UtcDatetime
  first : StartDraws
  draws : Nat → WakeDraws
  params_range : params.InRange
  interval_nonneg : 0 ≤ interval

namespace Device

variable (device : Device)

def state (wake : Nat) : Except Rejection DeviceState :=
  state_at device.device_id device.params device.interval
    (DeviceState.initial device.first device.start) device.draws wake

def readings (wake : Nat) : Except Rejection TelemetryV1 :=
  device_readings device.device_id device.params device.interval
    (DeviceState.initial device.first device.start) device.draws wake

/-- The level after a wake, before it is rounded. -/
def level (wake : Nat) (state : DeviceState) : ℚ := new_level device.params (device.draws wake) state

/-- A wake that refilled the planter. -/
def RefilledAt (wake : Nat) : Prop :=
  ∃ state, device.state wake = .ok state ∧ refills device.params (device.draws wake) state = true

/-- A refill after one wake and up to another. -/
def RefilledWithin (earlier later : Nat) : Prop :=
  ∃ wake, earlier < wake ∧ wake ≤ later ∧ device.RefilledAt wake

/-- The depletion from one wake to another. -/
def depletion (state after : DeviceState) : ℚ :=
  device.params.depletion_pct_per_hour *
    (total_seconds (DataTime.since after.at_time state.at_time) / 3600)

end Device

/-! ### Levels across wakes -/

section Levels

variable {device : Device} {state middle after : DeviceState} {wake earlier later : Nat}

theorem depletion_add : device.depletion state middle + device.depletion middle after =
    device.depletion state after := by
  unfold Device.depletion total_seconds DataTime.since instDataTimeUtcDatetime
  push_cast
  ring

theorem depletion_self : device.depletion state state = 0 := by
  have hadd := @depletion_add device state state state
  linarith

theorem depletion_nonneg (hstate : device.state wake = .ok state)
    (hafter : device.state (wake + 1) = .ok after) : 0 ≤ device.depletion state after := by
  obtain ⟨same, hsame, -, hadvance⟩ := state_at_succ_eq_ok_iff.mp hafter
  obtain rfl : state = same := Except.ok.inj (hstate.symm.trans hsame)
  obtain ⟨-, -, -, -, -, hprev, -, -⟩ := advance_eq_ok_iff.mp hadvance
  have helapsed := (state_at_sound device.interval_nonneg device.params_range hafter).elapsed_hours_nonneg
  unfold elapsed_hours at helapsed
  rw [hprev] at helapsed
  exact mul_nonneg device.params_range.depletion helapsed

/-- A wake either leaves the level that is depleted, or finds it below the
    threshold and refills. -/
theorem level_step (hstate : device.state wake = .ok state)
    (hafter : device.state (wake + 1) = .ok after) :
    (¬ device.RefilledAt (wake + 1) ∧
        device.level wake state - device.depletion state after ≤ device.level (wake + 1) after ∧
        device.level (wake + 1) after ≤ device.level wake state) ∨
      (device.RefilledAt (wake + 1) ∧
        device.level wake state - device.depletion state after < 25 ∧
        92 ≤ device.level (wake + 1) after) := by
  obtain ⟨same, hsame, -, hadvance⟩ := state_at_succ_eq_ok_iff.mp hafter
  obtain rfl : state = same := Except.ok.inj (hstate.symm.trans hsame)
  obtain ⟨-, -, -, -, -, hprev, hlevel, -⟩ := advance_eq_ok_iff.mp hadvance
  have hsound := state_at_sound device.interval_nonneg device.params_range hafter
  have hdepleted : depleted_level device.params after =
      max 0 (device.level wake state - device.depletion state after) := by
    unfold depleted_level elapsed_hours
    rw [hprev, hlevel]
    rfl
  by_cases hrefills : refills device.params (device.draws (wake + 1)) after = true
  · refine .inr ⟨⟨after, hafter, hrefills⟩, ?_, ?_⟩
    · have hbelow := (Bool.and_eq_true_iff.mp hrefills).1
      have hthreshold := of_decide_eq_true hbelow
      rw [hdepleted] at hthreshold
      exact ((le_max_right _ _).trans_lt hthreshold).trans_le device.params_range.threshold
    · unfold Device.level new_level
      rw [if_pos hrefills]
      exact (uniform_range (by norm_num) _).1
  · have hlevel' : device.level (wake + 1) after = depleted_level device.params after := if_neg hrefills
    refine .inl ⟨?_, ?_, ?_⟩
    · rintro ⟨same, hsame, hrefills'⟩
      obtain rfl : after = same := Except.ok.inj (hafter.symm.trans hsame)
      exact hrefills hrefills'
    · rw [hlevel', hdepleted]
      exact le_max_right _ _
    · have hfalls := depleted_level_le device.params_range hsound
      rwa [hlevel, ← hlevel'] at hfalls

/-- From one wake to another the level only falls, by the depletion at most, or
    it was refilled and is higher by the least step of a refill less the
    depletion. -/
theorem level_between (hle : earlier ≤ later) (hstate : device.state earlier = .ok state)
    (hafter : device.state later = .ok after) :
    (¬ device.RefilledWithin earlier later ∧
        device.level earlier state - device.depletion state after ≤ device.level later after ∧
        device.level later after ≤ device.level earlier state) ∨
      (device.RefilledWithin earlier later ∧
        device.level earlier state + (67 - device.depletion state after) ≤
          device.level later after) := by
  induction hle generalizing after with
  | refl =>
    obtain rfl : state = after := Except.ok.inj (hstate.symm.trans hafter)
    refine .inl ⟨?_, ?_, le_refl _⟩
    · rintro ⟨wake, hafter, hupto, -⟩
      omega
    · rw [depletion_self]
      linarith
  | @step later hle ih =>
    obtain ⟨middle, hmiddle, -, -⟩ := state_at_succ_eq_ok_iff.mp hafter
    have hadd := @depletion_add device state middle after
    rcases level_step hmiddle hafter with ⟨hnone, hlow, hhigh⟩ | ⟨hrefilled, hbelow, hfull⟩
    · rcases ih hmiddle with ⟨hnever, hlow', hhigh'⟩ | ⟨⟨wake, hlt, hupto, hrefilled⟩, hstep⟩
      · refine .inl ⟨?_, by linarith, by linarith⟩
        rintro ⟨wake, hlt, hupto, hrefilled⟩
        rcases Nat.le_succ_iff.mp hupto with hbefore | rfl
        · exact hnever ⟨wake, hlt, hbefore, hrefilled⟩
        · exact hnone hrefilled
      · exact .inr ⟨⟨wake, hlt, by omega, hrefilled⟩, by linarith⟩
    · refine .inr ⟨⟨later + 1, Nat.lt_succ_of_le hle, Nat.le_refl _, hrefilled⟩, ?_⟩
      have hdepletes := depletion_nonneg hmiddle hafter
      rcases ih hmiddle with ⟨-, hlow', -⟩ | ⟨-, hstep⟩
      · linarith
      · linarith

theorem readings_eq_ok {reading : TelemetryV1} (h : device.readings wake = .ok reading) :
    ∃ state, device.state wake = .ok state ∧ reading.measured_at = state.at_time ∧
      reading.water_level.val = .finite (round_to 1 (device.level wake state)) := by
  obtain ⟨state, hstate, hyields⟩ := device_readings_eq_ok_iff.mp h
  obtain ⟨-, hat, hlevel, -⟩ := reading_eq_ok_iff.mp hyields
  exact ⟨state, hstate, hat, hlevel⟩

/-- Rounding to tenths moves a level by half a tenth at most. -/
theorem abs_sub_round_to_tenth_le (x : ℚ) : |x - round_to 1 x| ≤ 1 / 20 := by
  have hclose := abs_le.mp (abs_sub_round_half_even_le (x * 10))
  unfold round_to
  rw [abs_le, pow_one]
  constructor
  · linarith
  · linarith

theorem round_to_tenth_mono {x y : ℚ} (h : x ≤ y) : round_to 1 x ≤ round_to 1 y := by
  have hround := round_half_even_mono (show x * 10 ≤ y * 10 by linarith)
  have hcast : (round_half_even (x * 10) : ℚ) ≤ round_half_even (y * 10) := by exact_mod_cast hround
  unfold round_to
  rw [pow_one]
  linarith

/-- When the planter depletes by 60 at most, a refill raises the reported level
    by 6 and more, and without one it does not rise. -/
theorem step_of_refill (hle : earlier ≤ later) (hstate : device.state earlier = .ok state)
    (hafter : device.state later = .ok after) (hclose : device.depletion state after ≤ 60) :
    (¬ device.RefilledWithin earlier later ∧
        round_to 1 (device.level later after) ≤ round_to 1 (device.level earlier state)) ∨
      (device.RefilledWithin earlier later ∧
        round_to 1 (device.level earlier state) + 6 ≤ round_to 1 (device.level later after)) := by
  have hfirst := abs_le.mp (abs_sub_round_to_tenth_le (device.level earlier state))
  have hsecond := abs_le.mp (abs_sub_round_to_tenth_le (device.level later after))
  rcases level_between hle hstate hafter with ⟨hnever, -, hfalls⟩ | ⟨hrefilled, hstep⟩
  · exact .inl ⟨hnever, round_to_tenth_mono hfalls⟩
  · exact .inr ⟨hrefilled, by linarith⟩

/-- Reported levels are percentages. -/
theorem reported_range (hstate : device.state wake = .ok state) :
    0 ≤ round_to 1 (device.level wake state) ∧ round_to 1 (device.level wake state) ≤ 100 := by
  have hsound := state_at_sound device.interval_nonneg device.params_range hstate
  obtain ⟨hlow, hhigh⟩ := new_level_range (device.draws wake) device.params_range hsound
  have hzero : round_to 1 (0 : ℚ) = 0 := by decide +kernel
  have hfull : round_to 1 (100 : ℚ) = 100 := by decide +kernel
  exact ⟨hzero ▸ round_to_tenth_mono hlow, hfull ▸ round_to_tenth_mono hhigh⟩

end Levels

/-! ### Steps of floats -/

/-- A rounding that keeps the order, and the integers that are small. -/
structure KeepsSteps (round : ℚ → ℚ) : Prop where
  mono : Monotone round
  integers : ∀ n : Int, n.natAbs ≤ 1000 → round n = n

theorem keepsSteps_fl : KeepsSteps fl := ⟨rounding_fl.mono, fun _ h => fl_intCast (h.trans (by decide))⟩

section Floats

variable {round : ℚ → ℚ} {x y : ℚ}

/-- A fall stays less than the jump, whatever is rounded. -/
theorem KeepsSteps.step_lt_of_le (hround : KeepsSteps round) (h : y ≤ x) :
    round (round y - round x) < WATER.refill_jump := by
  have hfalls : round y - round x ≤ ((0 : Int) : ℚ) := by
    rw [Int.cast_zero]
    exact sub_nonpos.mpr (hround.mono h)
  have hrounded := hround.mono hfalls
  rw [hround.integers 0 (by decide), Int.cast_zero] at hrounded
  exact hrounded.trans_lt (by decide +kernel)

/-- A rise by 6 reaches the jump however it is rounded: it contains a rise by 5 between two
    integers, which rounding keeps. -/
theorem KeepsSteps.le_step_of_le (hround : KeepsSteps round) (h : x + 6 ≤ y) (hx : 0 ≤ x) (hx' : x ≤ 100) :
    WATER.refill_jump ≤ round (round y - round x) := by
  have hjump : WATER.refill_jump = ((5 : Int) : ℚ) := by decide +kernel
  have hceil := Int.ceil_lt_add_one x
  have hnonneg : 0 ≤ ⌈x⌉ := Int.ceil_nonneg hx
  have hsmall : ⌈x⌉ ≤ 100 := Int.ceil_le.mpr (by exact_mod_cast hx')
  have hlow := hround.mono (Int.le_ceil x)
  have hhigh : ((⌈x⌉ + 5 : Int) : ℚ) ≤ y := by
    push_cast
    linarith
  have hhigh := hround.mono hhigh
  rw [hround.integers ⌈x⌉ (by omega)] at hlow
  rw [hround.integers (⌈x⌉ + 5) (by omega)] at hhigh
  push_cast at hhigh
  have hstep : ((5 : Int) : ℚ) ≤ round y - round x := by
    push_cast
    linarith
  have hrounded := hround.mono hstep
  rwa [hround.integers 5 (by decide), ← hjump] at hrounded

end Floats

/-! ### Segments of a thinned series -/

/-- The sample of a reading that the forecast of the water level sees. -/
def water_sample (reading : TelemetryV1) : Sample UtcDatetime ℚ :=
  ⟨reading.measured_at, reading.water_level.val⟩

/-- The series of the readings that are kept, each with its wake and its level as
    a float. -/
def water_series (round : ℚ → ℚ) (kept : List (Nat × TelemetryV1)) : List (Point UtcDatetime ℚ) :=
  (points (kept.map fun x => water_sample x.2)).map fun p => { p with value := round p.value }

/-- The readings of some of a device's wakes, close enough together for the
    planter to deplete by 60 at most and for no gap to break the series. -/
structure Kept (round : ℚ → ℚ) (device : Device) (gap_factor : ℚ) (kept : List (Nat × TelemetryV1)) : Prop where
  yielded : ∀ x ∈ kept, device.readings x.1 = .ok x.2
  ordered : kept.Pairwise fun x y => x.1 < y.1
  depletion : ∀ k (hk : k + 1 < kept.length), device.params.depletion_pct_per_hour *
    (total_seconds (DataTime.since kept[k + 1].2.measured_at kept[k].2.measured_at) / 3600) ≤ 60
  gaps : ∀ k (hk : k + 1 < kept.length), ∀ limit ∈ rounded.gap_limit round (water_series round kept) gap_factor,
    rounded_seconds round (DataTime.since kept[k + 1].2.measured_at kept[k].2.measured_at) ≤ limit

variable {round : ℚ → ℚ} {device : Device} {gap_factor : ℚ} {kept : List (Nat × TelemetryV1)}

theorem water_series_eq (h : Kept round device gap_factor kept) : water_series round kept = kept.map fun x =>
    (⟨x.2.measured_at, round (x.2.water_level.val.number?.getD 0)⟩ : Point UtcDatetime ℚ) := by
  have hpoints : points (kept.map fun x => water_sample x.2) = kept.map fun x =>
      (⟨x.2.measured_at, x.2.water_level.val.number?.getD 0⟩ : Point UtcDatetime ℚ) := by
    apply points_of_finite
    intro x hx
    obtain ⟨state, -, -, hlevel⟩ := readings_eq_ok (h.yielded x hx)
    unfold water_sample
    rw [hlevel]
    rfl
  rw [water_series, hpoints, List.map_map]
  rfl

/-- No gap between the readings that are kept breaks the series. -/
theorem Kept.gap_within (h : Kept round device gap_factor kept) {k : Nat} (hk : k + 1 < kept.length)
    {a b : Point UtcDatetime ℚ} (ha : a.at_time = kept[k].2.measured_at)
    (hb : b.at_time = kept[k + 1].2.measured_at) :
    rounded.exceeds_gap round (rounded.gap_limit round (water_series round kept) gap_factor) a b = false := by
  have hgaps := h.gaps k hk
  cases hlimit : rounded.gap_limit round (water_series round kept) gap_factor with
  | none => rfl
  | some limit =>
    unfold rounded.exceeds_gap
    rw [ha, hb]
    exact decide_eq_false (not_lt.mpr (hgaps limit hlimit))

/-- However levels are rounded, the segments end exactly at the refills. -/
theorem Kept.breaks_iff (hround : KeepsSteps round) (h : Kept round device gap_factor kept) {k : Nat}
    (hk : k + 1 < kept.length) :
    BreakAt (rounded.split_segments round (water_series round kept) WATER.refill_jump gap_factor) k ↔
      device.RefilledWithin kept[k].1 kept[k + 1].1 := by
  have hseries := water_series_eq h
  have hlength : k + 1 < (water_series round kept).length := by
    rwa [hseries, List.length_map]
  obtain ⟨state, hstate, hat, hlevel⟩ := readings_eq_ok (h.yielded kept[k] (List.getElem_mem _))
  obtain ⟨after, hafter, hat', hlevel'⟩ := readings_eq_ok (h.yielded kept[k + 1] (List.getElem_mem _))
  have hwakes : kept[k].1 < kept[k + 1].1 := List.pairwise_iff_getElem.mp h.ordered _ _ _ _ (by omega)
  have hdepletion := h.depletion k hk
  rw [hat, hat'] at hdepletion
  have hgap := h.gap_within hk (a := (water_series round kept)[k]) (b := (water_series round kept)[k + 1])
    (by simp only [hseries, List.getElem_map]) (by simp only [hseries, List.getElem_map])
  rw [rounded.split_segments_eq_splitBy, breakAt_splitBy_iff hlength, Bool.not_eq_false', rounded.breaks, hgap,
    Bool.or_false, decide_eq_true_iff]
  simp only [hseries, List.getElem_map, hlevel, hlevel', PyFloat.number?, Option.getD_some]
  obtain ⟨hlow, hhigh⟩ := reported_range hstate
  rcases step_of_refill hwakes.le hstate hafter hdepletion with ⟨hnever, hfalls⟩ | ⟨hrefilled, hrises⟩
  · exact iff_of_false (not_le.mpr (hround.step_lt_of_le hfalls)) hnever
  · exact iff_of_true (hround.le_step_of_le hrises hlow hhigh) hrefilled

/-- The segments of the series of floats end exactly at the refills. -/
theorem segments_recover_refills (device : Device) (gap_factor : ℚ) (kept : List (Nat × TelemetryV1))
    (h : Kept fl device gap_factor kept) :
    (rounded.split_segments fl (water_series fl kept) WATER.refill_jump gap_factor).flatten =
        water_series fl kept ∧
      ∀ k (hk : k + 1 < kept.length),
        BreakAt (rounded.split_segments fl (water_series fl kept) WATER.refill_jump gap_factor) k ↔
          device.RefilledWithin kept[k].1 kept[k + 1].1 := by
  refine ⟨?_, fun k hk => h.breaks_iff keepsSteps_fl hk⟩
  rw [rounded.split_segments_eq_splitBy]
  exact List.flatten_splitBy _ _

/-! ### A planter that is refilled while it is not heard -/

/-- 100 % lasts two days, and the planter reports every six hours. -/
def six_hourly : Device where
  device_id := "planter-00"
  params := draw_device_params ⟨0, 0, 1, 1, 0⟩
  interval := 6 * hour
  start := at_minute 0
  first := ⟨0, 1⟩
  draws _ := ⟨0, 0, 0, 0, ⟨1 / 2, by norm_num⟩⟩
  params_range := draw_device_params_in_range _
  interval_nonneg := by decide

def six_hourly_reading (wake : Fin 4) (water_level : RangedFloat 0 100)
    (battery_voltage : RangedFloat (5 / 2) (22 / 5)) : TelemetryV1 where
  device_id := ⟨"planter-00", matches_planter_00⟩
  measured_at := at_minute ⟨360 * wake, by omega⟩
  water_level := water_level
  battery_voltage := battery_voltage

/-- The reading of the wake that refills is dropped. -/
def six_hourly_kept : List (Nat × TelemetryV1) :=
  [(0, six_hourly_reading 0 ⟨.finite 40, by decide +kernel⟩ ⟨.finite (42 / 10), by decide +kernel⟩),
    (1, six_hourly_reading 1 ⟨.finite (275 / 10), by decide +kernel⟩
      ⟨.finite (4179 / 1000), by decide +kernel⟩),
    (3, six_hourly_reading 3 ⟨.finite (795 / 10), by decide +kernel⟩
      ⟨.finite (4136 / 1000), by decide +kernel⟩)]

theorem six_hourly_kept_close : Kept fl six_hourly 6 six_hourly_kept where
  yielded := by decide +kernel
  ordered := by decide +kernel
  depletion
    | 0, _ => by decide +kernel +revert
    | 1, _ => by decide +kernel +revert
  gaps
    | 0, _ => by decide +kernel +revert
    | 1, _ => by decide +kernel +revert

theorem segments_recover_refills_dropped :
    BreakAt (rounded.split_segments fl (water_series fl six_hourly_kept) WATER.refill_jump 6) 1 ∧
      six_hourly.RefilledWithin 1 3 := by
  have hbreak : BreakAt (rounded.split_segments fl (water_series fl six_hourly_kept) WATER.refill_jump 6) 1 :=
    ⟨_, _, (List.take_append_drop 1 _).symm, by decide +kernel⟩
  obtain ⟨-, hbreaks⟩ := segments_recover_refills six_hourly 6 six_hourly_kept six_hourly_kept_close
  exact ⟨hbreak, (hbreaks 1 (by decide)).mp hbreak⟩

/-! ### Five dropped wakes make a gap of six medians -/

/-- A device that wakes up every 599.9 seconds, and never refills. -/
def off_beat : Device where
  device_id := "planter-00"
  params := draw_device_params ⟨1, 0, 0, 0, 0⟩
  interval := 5999 * (second / 10)
  start := at_minute 0
  first := ⟨1, 1⟩
  draws _ := ⟨0, ⟨1 / 2, by norm_num⟩, 0, 0, ⟨1 / 2, by norm_num⟩⟩
  params_range := draw_device_params_in_range _
  interval_nonneg := by decide

theorem off_beat_time (wake : Fin 9) :
    Representable ((at_minute 0).micros + wake.val * (5999 * (second / 10))) := by
  revert wake
  decide

def off_beat_reading (wake : Fin 9) (water_level : RangedFloat 0 100)
    (battery_voltage : RangedFloat (5 / 2) (22 / 5)) : TelemetryV1 where
  device_id := ⟨"planter-00", matches_planter_00⟩
  measured_at := ⟨_, off_beat_time wake⟩
  water_level := water_level
  battery_voltage := battery_voltage

def off_beat_kept : List (Nat × TelemetryV1) :=
  [(0, off_beat_reading 0 ⟨.finite 100, by decide +kernel⟩ ⟨.finite (42 / 10), by decide +kernel⟩),
    (1, off_beat_reading 1 ⟨.finite (999 / 10), by decide +kernel⟩ ⟨.finite (4199 / 1000), by decide +kernel⟩),
    (2, off_beat_reading 2 ⟨.finite (998 / 10), by decide +kernel⟩ ⟨.finite (4199 / 1000), by decide +kernel⟩),
    (8, off_beat_reading 8 ⟨.finite (991 / 10), by decide +kernel⟩ ⟨.finite (4195 / 1000), by decide +kernel⟩)]

/-- As exact numbers the times keep within the gap factor. -/
theorem off_beat_kept_close : Kept id off_beat 6 off_beat_kept where
  yielded := by decide +kernel
  ordered := by decide +kernel
  depletion
    | 0, _ => by decide +kernel +revert
    | 1, _ => by decide +kernel +revert
    | 2, _ => by decide +kernel +revert
  gaps
    | 0, _ => by decide +kernel +revert
    | 1, _ => by decide +kernel +revert
    | 2, _ => by decide +kernel +revert

theorem off_beat_never_refills (earlier later : Nat) : ¬ off_beat.RefilledWithin earlier later := by
  rintro ⟨wake, -, -, state, -, hrefills⟩
  have hroll : (1 / 2 : ℚ) < off_beat.params.refill_prob_per_wake :=
    of_decide_eq_true (Bool.and_eq_true_iff.mp hrefills).2
  exact absurd hroll (by decide +kernel)

/-- Six times the float 599.9 is less than the float 3599.4. -/
theorem segments_break_without_refill :
    ¬ ∀ (device : Device) (gap_factor : ℚ) (kept : List (Nat × TelemetryV1)), Kept id device gap_factor kept →
      ∀ k (hk : k + 1 < kept.length),
        BreakAt (rounded.split_segments fl (water_series fl kept) WATER.refill_jump gap_factor) k ↔
          device.RefilledWithin kept[k].1 kept[k + 1].1 := by
  intro hclaim
  have hbreak : BreakAt (rounded.split_segments fl (water_series fl off_beat_kept) WATER.refill_jump 6) 2 :=
    ⟨_, _, (List.take_append_drop 1 _).symm, by decide +kernel⟩
  have hrefilled := (hclaim off_beat 6 off_beat_kept off_beat_kept_close 2 (by decide)).mp hbreak
  exact off_beat_never_refills _ _ hrefilled

end planter_telemetry.simulator.dynamics
