import PlanterTelemetry.Ingestion.Core
import PlanterTelemetry.Simulator.Fleet

open planter_telemetry.python planter_telemetry.contract planter_telemetry.ingestion.core
open planter_telemetry.simulator.dynamics planter_telemetry.simulator.wire

namespace planter_telemetry.simulator.stream

/-! ### The readings of a device keep the contract -/

section Readings

variable {params : DeviceParams} {interval : Int} {own : WakeDraws} {state : DeviceState}

/-- Rounding stays between bounds that it keeps. -/
theorem round_to_range {digits : Nat} {low high : Int} {x : ℚ} (hlow : low ≤ x * 10 ^ digits)
    (hhigh : x * 10 ^ digits ≤ high) :
    (low / 10 ^ digits : ℚ) ≤ round_to digits x ∧ round_to digits x ≤ high / 10 ^ digits := by
  have hround := round_half_even_mono hlow
  have hround' := round_half_even_mono hhigh
  rw [round_half_even_intCast] at hround hround'
  unfold round_to
  constructor
  · gcongr
  · gcongr

theorem level_in_range (own : WakeDraws) (hparams : params.InRange) (h : state.Sound) :
    InRange 0 100 (.finite (round_to 1 (new_level params own state))) := by
  obtain ⟨hnonneg, hle⟩ := new_level_range own hparams h
  have hlow : ((0 : Int) : ℚ) ≤ new_level params own state * 10 ^ 1 := by
    push_cast
    linarith
  have hhigh : new_level params own state * 10 ^ 1 ≤ ((1000 : Int) : ℚ) := by
    push_cast
    linarith
  obtain ⟨hround, hround'⟩ := round_to_range hlow hhigh
  norm_num at hround hround'
  exact ⟨decide_eq_true hround, decide_eq_true hround'⟩

theorem voltage_in_range (voltage : ℚ) :
    InRange (5 / 2) (22 / 5) (.finite (min (44 / 10) (max (25 / 10) voltage))) := by
  have hlow : (5 / 2 : ℚ) ≤ min (44 / 10) (max (25 / 10) voltage) :=
    le_min (by norm_num) (le_max_of_le_left (by norm_num))
  have hhigh : min (44 / 10) (max (25 / 10) voltage) ≤ (22 / 5 : ℚ) := min_le_of_left_le (by norm_num)
  exact ⟨decide_eq_true hlow, decide_eq_true hhigh⟩

theorem interval_nonneg {settings : SimulatorSettings}
    (h : timedelta_seconds settings.interval_seconds.val = .ok interval) : 0 ≤ interval := by
  have hseconds : 0 ≤ settings.interval_seconds.val * 1000000 :=
    mul_nonneg settings.interval_seconds.property.le (by norm_num)
  unfold timedelta_seconds timedelta at h
  split at h
  · rw [← Except.ok.inj h]
    exact round_half_even_nonneg hseconds
  · cases h

/-- With a valid device id a wake yields a reading. -/
theorem reading_yields (own : WakeDraws) (device_id : DeviceId) (hparams : params.InRange) (h : state.Sound) :
    ∃ yielded, reading device_id.val params own state = .ok yielded := by
  have hlevel := level_in_range own hparams h
  have hvoltage := voltage_in_range (round_to 3
    (new_battery params own state + uniform (-5 / 1000) (5 / 1000) own.adc_noise))
  exact ⟨⟨⟨SCHEMA_VERSION, rfl⟩, device_id, state.at_time, ⟨_, hlevel⟩, ⟨_, hvoltage⟩⟩,
    reading_eq_ok_iff.mpr ⟨rfl, rfl, rfl, rfl⟩⟩

/-- The result is not a validation error of pydantic; another exception may be raised. -/
def NeverRejected {α : Type} (result : Except Rejection α) : Prop :=
  ∀ errors, result ≠ .error (.validation_error errors)

theorem NeverRejected.bind {α β : Type} {first : Except Rejection α} {next : α → Except Rejection β}
    (hfirst : NeverRejected first) (hnext : ∀ value, first = .ok value → NeverRejected (next value)) :
    NeverRejected (first >>= next) := by
  cases first with
  | error rejection =>
    intro errors h
    exact hfirst errors (by rw [Except.error.inj h])
  | ok value => exact hnext value rfl

theorem never_rejected_ok {α : Type} {value : α} : NeverRejected (.ok value) := fun _ h => nomatch h

theorem never_rejected_mapError {α : Type} (result : Except PyError α) :
    NeverRejected (result.mapError .raised) := by
  cases result with
  | ok value => exact never_rejected_ok
  | error error => exact fun _ h => nomatch h

variable {start : UtcDatetime} {first : StartDraws} {draws : Nat → WakeDraws}

/-- The readings of a device with a valid id are never rejected. -/
theorem device_readings_never_rejected (device_id : DeviceId) (hinterval : 0 ≤ interval)
    (hparams : params.InRange) (wake : Nat) : NeverRejected
      (device_readings device_id.val params interval (DeviceState.initial first start) draws wake) := by
  have hreading : ∀ wake state, state_at device_id.val params interval (DeviceState.initial first start) draws
      wake = .ok state → NeverRejected (reading device_id.val params (draws wake) state) := by
    intro wake state hstate
    obtain ⟨yielded, hyields⟩ := reading_yields (draws wake) device_id hparams
      (state_at_sound hinterval hparams hstate)
    rw [hyields]
    exact never_rejected_ok
  have hstate : NeverRejected
      (state_at device_id.val params interval (DeviceState.initial first start) draws wake) := by
    induction wake with
    | zero => exact never_rejected_ok
    | succ wake ih =>
      refine ih.bind fun state hstate => (hreading wake state hstate).bind fun _ _ => ?_
      exact never_rejected_mapError _
  exact hstate.bind (hreading wake)

/-- With an invalid device id every reading is rejected. -/
theorem reading_rejected (params : DeviceParams) (own : WakeDraws) (state : DeviceState) {device_id : String}
    (h : matches_device_id device_id = false) :
    ∃ errors, reading device_id params own state = .error (.validation_error errors) := by
  cases hreading : reading device_id params own state with
  | ok yielded =>
    have hid := yielded.device_id.property
    rw [(reading_eq_ok_iff.mp hreading).1, h] at hid
    cases hid
  | error rejection =>
    cases rejection with
    | validation_error errors => exact ⟨errors, rfl⟩
    | raised error =>
      have hraised := map_raised_iff.mp hreading
      exact absurd hraised ((check_device_id_never_raises _ _).both
        ((check_range_never_raises _ _ _ _ _ _).both (check_range_never_raises _ _ _ _ _ _)) error)

end Readings

/-! ### The ids of a fleet -/

/-- The ids `planter-00`, `planter-01` and so on have the pattern up to 24 digits. -/
theorem matches_device_id_iff (index : Nat) : matches_device_id (device_id index) = true ↔ index < 10 ^ 24 := by
  have hchars : (device_id index).toList = 'p' :: (['l', 'a', 'n', 't', 'e', 'r', '-'] ++ Decimal.digits 2 index) := by
    simp only [device_id, String.toList_append, String.toList_ofList]
    rfl
  have hallowed : (['l', 'a', 'n', 't', 'e', 'r', '-'] ++ Decimal.digits 2 index).all
      (fun c => lower_or_digit c || c == '_' || c == '-') = true := by
    rw [List.all_append, Bool.and_eq_true]
    refine ⟨by decide, List.all_eq_true.mpr fun c hc => ?_⟩
    have hdigit := Char.isDigit_iff_toNat.mp (Decimal.isDigit_of_mem hc)
    have hlower : lower_or_digit c = true := by
      rw [lower_or_digit, Bool.or_eq_true]
      exact .inr (Bool.and_eq_true_iff.mpr ⟨decide_eq_true hdigit.1, decide_eq_true hdigit.2⟩)
    rw [hlower]
    rfl
  rw [← Decimal.length_digits_le_iff (show 2 ≤ 24 by omega)]
  unfold matches_device_id
  rw [hchars]
  simp only [hallowed, Bool.and_true, List.length_append, Bool.and_eq_true, decide_eq_true_eq]
  have hfirst : lower_or_digit 'p' = true := by decide
  rw [hfirst]
  simp only [List.length_cons, List.length_nil, true_and]
  omega

section Fleet

variable {settings : SimulatorSettings} {start : UtcDatetime} {interval : Int} {own : DeviceDraws}
  {readings : Nat → Except Rejection TelemetryV1} {index : Nat}

/-- The devices of a fleet that the contract has an id for. -/
theorem fleet_readings_never_rejected_iff
    (hinterval : timedelta_seconds settings.interval_seconds.val = .ok interval)
    (h : fleet_readings settings start interval own (device_id index) = .ok readings) :
    (∀ wake, NeverRejected (readings wake)) ↔ index < 10 ^ 24 := by
  obtain ⟨phase, first_at, -, -, rfl⟩ := fleet_readings_eq_ok_iff.mp h
  rw [← matches_device_id_iff]
  constructor
  · intro hnever
    by_contra hid
    obtain ⟨errors, hrejected⟩ := reading_rejected (draw_device_params own.params) (own.wakes 0)
      (DeviceState.initial own.first first_at) (Bool.not_eq_true _ ▸ hid)
    exact hnever 0 errors hrejected
  · intro hid wake
    exact device_readings_never_rejected ⟨_, hid⟩ (interval_nonneg hinterval)
      (draw_device_params_in_range own.params) wake

end Fleet

/-! ### The numbers of a reading -/

/-- A reading whose numbers have three decimals. -/
structure InThousandths (reading : TelemetryV1) : Prop where
  water_level : ∃ thousandths : Nat, reading.water_level.val = .finite (thousandths / 1000)
  battery_voltage : ∃ thousandths : Nat, reading.battery_voltage.val = .finite (thousandths / 1000)

theorem thousandths_of_int {count : Int} {x : ℚ} (hx : x = count / 1000) (h : 0 ≤ x) :
    ∃ thousandths : Nat, PyFloat.finite x = .finite ((thousandths : ℚ) / 1000) := by
  have hcount : (0 : ℚ) ≤ count := by
    rw [hx] at h
    linarith
  have hnonneg : 0 ≤ count := by exact_mod_cast hcount
  obtain ⟨thousandths, rfl⟩ := Int.eq_ofNat_of_zero_le hnonneg
  exact ⟨thousandths, by rw [hx, Int.cast_natCast]⟩

theorem round_to_tenth_eq (x : ℚ) : round_to 1 x = ((100 * round_half_even (x * 10 ^ 1) : Int) : ℚ) / 1000 := by
  rw [round_to]
  push_cast
  ring

/-- A clamped voltage is a rounded one or a bound. -/
theorem voltage_eq (x : ℚ) : ∃ count : Int, min (44 / 10) (max (25 / 10) (round_to 3 x)) = (count : ℚ) / 1000 := by
  cases min_choice (44 / 10 : ℚ) (max (25 / 10) (round_to 3 x)) with
  | inl hmin => exact ⟨4400, by rw [hmin]; norm_num⟩
  | inr hmin =>
    cases max_choice (25 / 10 : ℚ) (round_to 3 x) with
    | inl hmax => exact ⟨2500, by rw [hmin, hmax]; norm_num⟩
    | inr hmax =>
      refine ⟨round_half_even (x * 10 ^ 3), ?_⟩
      rw [hmin, hmax, round_to]
      norm_num

/-- What a wake yields is rounded to three decimals. -/
theorem reading_in_thousandths {device_id : String} {params : DeviceParams} {own : WakeDraws} {state : DeviceState}
    {yielded : TelemetryV1} (h : reading device_id params own state = .ok yielded) : InThousandths yielded := by
  obtain ⟨-, -, hlevel, hvoltage⟩ := reading_eq_ok_iff.mp h
  have hlevel_range := yielded.water_level.property
  have hvoltage_range := yielded.battery_voltage.property
  rw [hlevel] at hlevel_range
  rw [hvoltage] at hvoltage_range
  have hlevel_low : (0 : ℚ) ≤ _ := of_decide_eq_true hlevel_range.1
  have hvoltage_low : (5 / 2 : ℚ) ≤ _ := of_decide_eq_true hvoltage_range.1
  refine ⟨?_, ?_⟩
  · rw [hlevel]
    exact thousandths_of_int (round_to_tenth_eq _) hlevel_low
  · rw [hvoltage]
    obtain ⟨count, hcount⟩ := voltage_eq
      (new_battery params own state + uniform (-5 / 1000) (5 / 1000) own.adc_noise)
    exact thousandths_of_int hcount (le_trans (by norm_num) hvoltage_low)

end planter_telemetry.simulator.stream
