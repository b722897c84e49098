import Mathlib.Algebra.Order.Field.Basic
import Mathlib.Algebra.Order.Floor.Ring
import Mathlib.Data.List.Forall2
import Mathlib.Tactic.Linarith
import Mathlib.Tactic.NormNum

namespace planter_telemetry.python

/-! ### Numerals and bounds, one proof of each for all modules -/

instance neZero_minutes : NeZero 100000 := ⟨by decide⟩
instance atLeastTwo_two : Nat.AtLeastTwo 2 := ⟨by decide⟩
instance atLeastTwo_ten : Nat.AtLeastTwo 10 := ⟨by decide⟩
instance atLeastTwo_hour : Nat.AtLeastTwo 3600 := ⟨by decide⟩
instance atLeastTwo_hour_micros : Nat.AtLeastTwo 3600000000 := ⟨by decide⟩

/-- The exceptions that the pure code of the repository can meet. -/
inductive PyError where
  | overflow_error (message : String)
  | value_error (message : String)
  | assertion_error (message : String)
  deriving DecidableEq, Repr

/-- The digits that an integer may have where Python reads or writes its text. -/
def MAX_STR_DIGITS : Nat := 4300

/-- A Python float. Finite values are exact numbers of `K`; the IEEE values
    that are not numbers are kept apart, because every comparison with `nan`
    is false. -/
inductive PyFloat (K : Type) where
  | finite (value : K)
  | nan
  | infinity
  | neg_infinity
  deriving DecidableEq, Repr

namespace PyFloat

variable {K : Type}

def isfinite : PyFloat K → Bool
  | .finite _ => true
  | _ => false

/-- `x >= bound` for a finite bound. -/
def ge_bound [LE K] [DecidableLE K] : PyFloat K → K → Bool
  | .finite value, bound => decide (bound ≤ value)
  | .infinity, _ => true
  | .nan, _ => false
  | .neg_infinity, _ => false

/-- `x <= bound` for a finite bound. -/
def le_bound [LE K] [DecidableLE K] : PyFloat K → K → Bool
  | .finite value, bound => decide (value ≤ bound)
  | .neg_infinity, _ => true
  | .nan, _ => false
  | .infinity, _ => false

/-- The number a float stands for, when it stands for one. -/
def number? : PyFloat K → Option K
  | .finite value => some value
  | _ => none

end PyFloat

/-! ### Datetimes, in microseconds since 0001-01-01T00:00:00 -/

def second : Int := 1000000
def hour : Int := 3600 * second
def day : Int := 86400 * second

/-- Years 1 to 9999 have 3652059 days. -/
def datetime_end : Int := 3652059 * day

/-- The wall-clock fields of a `datetime` lie in years 1 to 9999. -/
def Representable (micros : Int) : Prop := 0 ≤ micros ∧ micros < datetime_end

instance (micros : Int) : Decidable (Representable micros) :=
  inferInstanceAs (Decidable (_ ∧ _))

theorem representable_zero : Representable 0 := by decide

/-- The offset of UTC is in range. -/
theorem utc_offset_range : -day < 0 ∧ 0 < day := by decide

/-- An aware datetime with a fixed offset below 24 hours, as read from an
    RFC 3339 timestamp. -/
structure AwareDatetime where
  wall : Int
  utcoffset : Int
  wall_range : Representable wall
  offset_range : -day < utcoffset ∧ utcoffset < day

/-- A datetime whose tzinfo is `UTC`: its wall clock is the instant itself. -/
structure UtcDatetime where
  micros : Int
  range : Representable micros
  deriving DecidableEq

namespace UtcDatetime

@[ext]
theorem ext {a b : UtcDatetime} (h : a.micros = b.micros) : a = b := by
  cases a
  cases b
  simpa using h

instance : LE UtcDatetime := ⟨fun a b => a.micros ≤ b.micros⟩
instance : LT UtcDatetime := ⟨fun a b => a.micros < b.micros⟩

instance (a b : UtcDatetime) : Decidable (a ≤ b) := inferInstanceAs (Decidable (a.micros ≤ b.micros))
instance (a b : UtcDatetime) : Decidable (a < b) := inferInstanceAs (Decidable (a.micros < b.micros))

theorem le_iff {a b : UtcDatetime} : a ≤ b ↔ a.micros ≤ b.micros := Iff.rfl
theorem lt_iff {a b : UtcDatetime} : a < b ↔ a.micros < b.micros := Iff.rfl

instance : LinearOrder UtcDatetime where
  le_refl a := Int.le_refl a.micros
  le_trans a b c := fun (hab : a.micros ≤ b.micros) (hbc : b.micros ≤ c.micros) => hab.trans hbc
  le_antisymm a b := fun (hab : a.micros ≤ b.micros) (hba : b.micros ≤ a.micros) =>
    ext (Int.le_antisymm hab hba)
  le_total a b := Int.le_total a.micros b.micros
  lt_iff_le_not_ge a b := by simp only [le_iff, lt_iff]; omega
  toDecidableLE := inferInstance
  toDecidableLT := inferInstance
  toDecidableEq := inferInstance

end UtcDatetime

/-- Minutes past 2026-03-01T00:00:00Z. -/
def at_minute (minutes : Fin 100000) : UtcDatetime where
  micros := 739675 * day + minutes * (60 * second)
  range := by
    unfold Representable datetime_end day second
    omega

def out_of_range : PyError := .overflow_error "date value out of range"

/-- `datetime.astimezone(UTC)`. -/
def AwareDatetime.astimezone_utc (value : AwareDatetime) : Except PyError UtcDatetime :=
  if h : Representable (value.wall - value.utcoffset) then .ok ⟨value.wall - value.utcoffset, h⟩
  else .error out_of_range

/-- Conversion to UTC fails exactly when the instant falls outside the years a
    datetime can hold. -/
theorem AwareDatetime.astimezone_utc_error_iff {value : AwareDatetime} {error : PyError} :
    value.astimezone_utc = .error error ↔
      ¬ Representable (value.wall - value.utcoffset) ∧ error = out_of_range := by
  unfold astimezone_utc
  split
  · next h => simp [h]
  · next h => simp [h, eq_comm]

/-- The magnitude check of the `timedelta` constructor. -/
def timedelta (micros : Int) : Except PyError Int :=
  if -(999999999 * day) ≤ micros ∧ micros < 1000000000 * day then .ok micros
  else .error (.overflow_error "timedelta days must have magnitude <= 999999999")

/-- `datetime + timedelta` in UTC. -/
def UtcDatetime.add (value : UtcDatetime) (delta : Int) : Except PyError UtcDatetime :=
  if h : Representable (value.micros + delta) then .ok ⟨value.micros + delta, h⟩
  else .error out_of_range

theorem UtcDatetime.add_ok_iff {value result : UtcDatetime} {delta : Int} :
    value.add delta = .ok result ↔ result.micros = value.micros + delta := by
  unfold UtcDatetime.add
  split
  · next h =>
    simp only [Except.ok.injEq]
    exact ⟨fun heq => heq ▸ rfl, fun heq => ext heq.symm⟩
  · next h =>
    simp only [reduceCtorEq, false_iff]
    intro heq
    exact h (heq ▸ result.range)

/-- What the forecasting code asks of a datetime: whether it carries a tzinfo,
    `a < b`, the microseconds of `a - b`, and `a + timedelta`. -/
class DataTime (T : Type) where
  aware : T → Bool
  before : T → T → Bool
  since : T → T → Int
  plus : T → Int → Except PyError T

instance : DataTime UtcDatetime where
  aware _ := true
  before a b := decide (a < b)
  since a b := a.micros - b.micros
  plus := UtcDatetime.add

section Rounding

variable {K : Type} [Field K] [LinearOrder K] [FloorRing K]

/-- `(a - b).total_seconds()`, from the difference in microseconds. -/
def total_seconds (micros : Int) : K := (micros : K) / 1000000

/-- Python's rounding to the nearest integer, ties to even. -/
def round_half_even (x : K) : Int :=
  let floor := ⌊x⌋
  let fraction := x - (floor : K)
  if fraction < 1 / 2 then floor
  else if 1 / 2 < fraction then floor + 1
  else if floor % 2 = 0 then floor
  else floor + 1

/-- `round(x, digits)`. -/
def round_to (digits : Nat) (x : K) : K := (round_half_even (x * 10 ^ digits) : K) / 10 ^ digits

/-- `timedelta(hours=hours)`, rounded to whole microseconds. -/
def timedelta_hours (hours : K) : Except PyError Int :=
  timedelta (round_half_even (hours * 3600000000))

/-- `timedelta(seconds=seconds)`, rounded to whole microseconds. -/
def timedelta_seconds (seconds : K) : Except PyError Int :=
  timedelta (round_half_even (seconds * 1000000))

variable {x y : K}

/-- Rounding goes up only from the half on. -/
theorem round_half_even_cases (x : K) :
    (round_half_even x = ⌊x⌋ ∧ x - ⌊x⌋ ≤ 1 / 2) ∨
    (round_half_even x = ⌊x⌋ + 1 ∧ 1 / 2 ≤ x - ⌊x⌋) := by
  unfold round_half_even
  simp only
  split
  · next hlt => exact .inl ⟨rfl, hlt.le⟩
  · next hge =>
    split
    · next hgt => exact .inr ⟨rfl, hgt.le⟩
    · next hle =>
      split
      · exact .inl ⟨rfl, not_lt.mp hle⟩
      · exact .inr ⟨rfl, not_lt.mp hge⟩

variable [IsStrictOrderedRing K]

theorem abs_sub_round_half_even_le (x : K) : |x - round_half_even x| ≤ 1 / 2 := by
  have hfloor := Int.floor_le x
  have hnext := Int.lt_floor_add_one x
  rw [abs_le]
  rcases round_half_even_cases x with ⟨hround, hhalf⟩ | ⟨hround, hhalf⟩
  · rw [hround]
    constructor
    · linarith
    · linarith
  · rw [hround, Int.cast_add, Int.cast_one]
    constructor
    · linarith
    · linarith

theorem round_half_even_mono (h : x ≤ y) : round_half_even x ≤ round_half_even y := by
  have hfloor : ⌊x⌋ ≤ ⌊y⌋ := Int.floor_mono h
  rcases round_half_even_cases x with ⟨hx, -⟩ | ⟨hx, hup⟩
  · rcases round_half_even_cases y with ⟨hy, -⟩ | ⟨hy, -⟩
    · omega
    · omega
  · rcases round_half_even_cases y with ⟨hy, hdown⟩ | ⟨hy, -⟩
    · cases hfloor.lt_or_eq with
      | inl hlt => omega
      | inr heq =>
        -- both are the same half
        have hsame : x = y := by
          rw [← heq] at hdown
          linarith
        rw [hsame]
    · omega

theorem round_half_even_intCast (n : Int) : round_half_even (n : K) = n := by
  unfold round_half_even
  simp only [Int.floor_intCast, sub_self]
  rw [if_pos (by norm_num)]

theorem round_half_even_nonneg (h : 0 ≤ x) : 0 ≤ round_half_even x := by
  have hzero := round_half_even_mono h
  rwa [← Int.cast_zero, round_half_even_intCast] at hzero

end Rounding

theorem total_seconds_le_iff {first second : Int} :
    (total_seconds first : ℚ) ≤ total_seconds second ↔ first ≤ second := by
  unfold total_seconds
  rw [div_le_div_iff_of_pos_right (by norm_num), Int.cast_le]

/-! ### Code that raises -/

theorem bind_eq_ok_iff {α β ε : Type} {x : Except ε α} {f : α → Except ε β} {result : β} :
    (x >>= f) = .ok result ↔ ∃ value, x = .ok value ∧ f value = .ok result := by
  cases x with
  | error error => simp [bind, Except.bind]
  | ok value => simp [bind, Except.bind]

theorem mapError_eq_ok_iff {α ε ε' : Type} {x : Except ε α} {f : ε → ε'} {result : α} :
    x.mapError f = .ok result ↔ x = .ok result := by
  cases x with
  | error error => simp [Except.mapError]
  | ok value => simp [Except.mapError]

theorem map_eq_ok_iff {α β ε : Type} {x : Except ε α} {f : α → β} {result : β} :
    x.map f = .ok result ↔ ∃ value, x = .ok value ∧ f value = result := by
  cases x with
  | error error => simp [Except.map]
  | ok value => simp [Except.map]

theorem mapM_eq_ok_iff {α β ε : Type} {f : α → Except ε β} {items : List α} {results : List β} :
    items.mapM f = .ok results ↔ List.Forall₂ (fun item result => f item = .ok result) items results := by
  induction items generalizing results with
  | nil =>
    rw [List.mapM_nil, List.forall₂_nil_left_iff]
    exact ⟨fun h => (Except.ok.inj h).symm, fun h => congrArg Except.ok h.symm⟩
  | cons item items ih =>
    rw [List.mapM_cons, List.forall₂_cons_left_iff]
    simp only [← ih, bind_eq_ok_iff]
    constructor
    · rintro ⟨result, hresult, rest, hrest, hpure⟩
      exact ⟨result, rest, hresult, hrest, (Except.ok.inj hpure).symm⟩
    · rintro ⟨result, rest, hresult, hrest, rfl⟩
      exact ⟨result, hresult, rest, hrest, rfl⟩

end planter_telemetry.python
