import Mathlib.Data.Int.Log
import Mathlib.Data.Rat.Floor
import Mathlib.Tactic.Linarith
import Mathlib.Tactic.Positivity
import Mathlib.Tactic.Ring

/-- A binary floating-point format without a greatest number: the bits of a
    significand, the exponent of the least positive number, and the whole number
    that an unrepresentable significand is rounded to. -/
structure FloatFormat where
  precision : Nat
  least : Int
  nearest : ℚ → Int
  precision_pos : 0 < precision
  nearest_mono : ∀ x y : ℚ, x ≤ y → nearest x ≤ nearest y
  nearest_int : ∀ n : Int, nearest n = n

namespace FloatFormat

variable {format : FloatFormat} {x y bound : ℚ} {e k : Int}

/-- The exponent of the last bit of a number's significand. -/
def exponent (format : FloatFormat) (x : ℚ) : Int :=
  max format.least (Int.log 2 |x| + 1 - format.precision)

/-- The number that an exact result is rounded to. -/
def round (format : FloatFormat) (x : ℚ) : ℚ :=
  format.nearest (x / 2 ^ format.exponent x) * 2 ^ format.exponent x

/-! ### The grid of the last bit -/

/-- The whole multiples of a power of two. -/
def OnGrid (e : Int) (x : ℚ) : Prop := ∃ n : Int, x = n * 2 ^ e

theorem power_pos (e : Int) : (0 : ℚ) < 2 ^ e := zpow_pos two_pos e

theorem onGrid_zero (e : Int) : OnGrid e 0 := ⟨0, by rw [Int.cast_zero, zero_mul]⟩

theorem OnGrid.neg (h : OnGrid e x) : OnGrid e (-x) := by
  obtain ⟨n, hn⟩ := h
  exact ⟨-n, by rw [hn, Int.cast_neg, neg_mul]⟩

/-- A coarse grid lies on every finer one. -/
theorem OnGrid.finer (h : OnGrid k x) (hle : e ≤ k) : OnGrid e x := by
  obtain ⟨n, hn⟩ := h
  obtain ⟨m, rfl⟩ := Int.le.dest hle
  refine ⟨n * 2 ^ m, ?_⟩
  rw [hn, zpow_add₀ two_ne_zero, zpow_natCast]
  push_cast
  ring

theorem onGrid_power (h : e ≤ k) : OnGrid e (2 ^ k) :=
  OnGrid.finer ⟨1, by rw [Int.cast_one, one_mul]⟩ h

theorem onGrid_round (format : FloatFormat) (x : ℚ) : OnGrid (format.exponent x) (format.round x) := ⟨_, rfl⟩

/-- A number is not rounded past one on its own grid. -/
theorem round_le (hgrid : OnGrid (format.exponent x) bound) (h : x ≤ bound) : format.round x ≤ bound := by
  obtain ⟨n, rfl⟩ := hgrid
  have hpos := power_pos (format.exponent x)
  have hnearest : format.nearest (x / 2 ^ format.exponent x) ≤ n := by
    rw [← format.nearest_int n]
    exact format.nearest_mono _ _ ((div_le_iff₀ hpos).mpr h)
  exact mul_le_mul_of_nonneg_right (by exact_mod_cast hnearest) hpos.le

theorem le_round (hgrid : OnGrid (format.exponent x) bound) (h : bound ≤ x) : bound ≤ format.round x := by
  obtain ⟨n, rfl⟩ := hgrid
  have hpos := power_pos (format.exponent x)
  have hnearest : n ≤ format.nearest (x / 2 ^ format.exponent x) := by
    rw [← format.nearest_int n]
    exact format.nearest_mono _ _ ((le_div_iff₀ hpos).mpr h)
  exact mul_le_mul_of_nonneg_right (by exact_mod_cast hnearest) hpos.le

/-! ### Representable numbers -/

/-- A number of the format: one on its own grid. -/
def Representable (format : FloatFormat) (x : ℚ) : Prop := OnGrid (format.exponent x) x

theorem Representable.round_eq (h : format.Representable x) : format.round x = x :=
  le_antisymm (round_le h (le_refl x)) (le_round h (le_refl x))

theorem representable_zero : format.Representable 0 := onGrid_zero _

/-- A number of few enough bits is representable. -/
theorem OnGrid.representable (h : OnGrid e x) (hleast : format.least ≤ e)
    (hbits : |x| ≤ 2 ^ (e + format.precision)) : format.Representable x := by
  by_cases hzero : x = 0
  · rw [hzero]
    exact representable_zero
  have hpos := abs_pos.mpr hzero
  have hprecision := format.precision_pos
  cases hbits.lt_or_eq with
  | inl hlt =>
    have hlog : Int.log 2 |x| < e + format.precision := (Int.lt_zpow_iff_log_lt one_lt_two hpos).mp hlt
    refine h.finer (max_le hleast ?_)
    omega
  | inr heq =>
    have hlog : Int.log 2 |x| = e + format.precision := by
      rw [heq]
      exact Int.log_zpow one_lt_two _
    have hpower : OnGrid (format.exponent x) |x| := by
      rw [heq]
      refine onGrid_power (max_le ?_ ?_)
      · omega
      · omega
    cases abs_choice x with
    | inl habs =>
      rw [habs] at hpower
      exact hpower
    | inr habs =>
      rw [habs] at hpower
      have hneg := hpower.neg
      rwa [neg_neg] at hneg

/-- Rounded numbers are representable. -/
theorem representable_round (format : FloatFormat) (x : ℚ) : format.Representable (format.round x) := by
  have hgrid := onGrid_power (e := format.exponent x) (k := format.exponent x + format.precision) (by omega)
  have hle : |x| ≤ 2 ^ (format.exponent x + format.precision) := by
    have hlog : |x| < 2 ^ (Int.log 2 |x| + 1) := Int.lt_zpow_succ_log_self one_lt_two _
    have hexponent : Int.log 2 |x| + 1 - format.precision ≤ format.exponent x := le_max_right _ _
    exact hlog.le.trans (zpow_le_zpow_right₀ one_le_two (by omega))
  obtain ⟨hlow, hhigh⟩ := abs_le.mp hle
  refine (onGrid_round format x).representable (le_max_left _ _) (abs_le.mpr ⟨?_, ?_⟩)
  · exact le_round hgrid.neg hlow
  · exact round_le hgrid hhigh

theorem round_round (format : FloatFormat) (x : ℚ) : format.round (format.round x) = format.round x :=
  (representable_round format x).round_eq

/-! ### Rounding keeps the order -/

/-- Between two magnitudes with different last bits lies a number on both grids. -/
theorem grid_between (h : |x| ≤ |y|) (hx : x ≠ 0) (hexponent : format.exponent x ≠ format.exponent y) :
    ∃ bound, OnGrid (format.exponent x) bound ∧ OnGrid (format.exponent y) bound ∧
      |x| ≤ bound ∧ bound ≤ |y| := by
  have hpos := abs_pos.mpr hx
  have hypos := hpos.trans_le h
  have hlog : Int.log 2 |x| ≤ Int.log 2 |y| := Int.log_mono_right hpos h
  have hprecision := format.precision_pos
  unfold exponent at hexponent ⊢
  have hlt : Int.log 2 |x| < Int.log 2 |y| := by omega
  refine ⟨2 ^ Int.log 2 |y|, onGrid_power (by omega), onGrid_power (by omega), ?_, ?_⟩
  · exact ((Int.lt_zpow_iff_log_lt one_lt_two hpos).mpr hlt).le
  · exact Int.zpow_log_le_self one_lt_two hypos

theorem round_mono (format : FloatFormat) : Monotone format.round := by
  intro x y hle
  by_cases hexponent : format.exponent x = format.exponent y
  · have hpos := power_pos (format.exponent y)
    have hnearest := format.nearest_mono _ _ (div_le_div_of_nonneg_right hle hpos.le)
    unfold round
    rw [hexponent]
    exact mul_le_mul_of_nonneg_right (by exact_mod_cast hnearest) hpos.le
  cases le_or_gt x 0 with
  | inl hx =>
    cases le_or_gt 0 y with
    | inl hy => exact (round_le (onGrid_zero _) hx).trans (le_round (onGrid_zero _) hy)
    | inr hy =>
      -- both are negative: the greater magnitude is that of `x`
      have habs : |y| ≤ |x| := by
        rw [abs_of_neg hy, abs_of_nonpos hx]
        exact neg_le_neg hle
      obtain ⟨bound, hgrid, hgrid', hlow, hhigh⟩ := grid_between habs hy.ne (Ne.symm hexponent)
      rw [abs_of_neg hy] at hlow
      rw [abs_of_nonpos hx] at hhigh
      exact (round_le hgrid'.neg (by linarith)).trans (le_round hgrid.neg (by linarith))
  | inr hx =>
    have hy := hx.trans_le hle
    have habs : |x| ≤ |y| := by
      rwa [abs_of_pos hx, abs_of_pos hy]
    obtain ⟨bound, hgrid, hgrid', hlow, hhigh⟩ := grid_between habs hx.ne' hexponent
    rw [abs_of_pos hx] at hlow
    rw [abs_of_pos hy] at hhigh
    exact (round_le hgrid hlow).trans (le_round hgrid' hhigh)

end FloatFormat

/-! ### Sums of rounded numbers -/

/-- A function that rounds: it keeps the order, and leaves zero and its own
    results as they are. -/
structure Rounding (round : ℚ → ℚ) : Prop where
  mono : Monotone round
  round_round : ∀ x, round (round x) = round x
  zero : round 0 = 0

theorem FloatFormat.rounding (format : FloatFormat) : Rounding format.round where
  mono := format.round_mono
  round_round := format.round_round
  zero := FloatFormat.representable_zero.round_eq

theorem Rounding.exact : Rounding id := ⟨monotone_id, fun _ => rfl, rfl⟩

/-- A sum from left to right, rounded after each step. -/
def rounded_sum (round : ℚ → ℚ) (start : ℚ) (steps : List ℚ) : ℚ :=
  steps.foldl (fun sum step => round (sum + step)) start

namespace Rounding

variable {round : ℚ → ℚ} {start : ℚ} {steps : List ℚ}

theorem nonneg (h : Rounding round) {x : ℚ} (hx : 0 ≤ x) : 0 ≤ round x := by
  have hle := h.mono hx
  rwa [h.zero] at hle

/-- Steps that are not negative never lessen a sum. -/
theorem le_rounded_sum (h : Rounding round) (hstart : round start = start) (hsteps : ∀ step ∈ steps, 0 ≤ step) :
    start ≤ rounded_sum round start steps := by
  induction steps generalizing start with
  | nil => exact le_refl start
  | cons step steps ih =>
    obtain ⟨hstep, hrest⟩ := List.forall_mem_cons.mp hsteps
    have hle : start ≤ round (start + step) := by
      have hmono := h.mono (le_add_of_nonneg_right hstep : start ≤ start + step)
      rwa [hstart] at hmono
    exact hle.trans (ih (h.round_round _) hrest)

theorem round_rounded_sum (h : Rounding round) (hstart : round start = start) :
    round (rounded_sum round start steps) = rounded_sum round start steps := by
  induction steps generalizing start with
  | nil => exact hstart
  | cons step steps ih => exact ih (h.round_round _)

theorem rounded_sum_take_le (h : Rounding round) (hstart : round start = start)
    (hsteps : ∀ step ∈ steps, 0 ≤ step) {count more : Nat} (hle : count ≤ more) :
    rounded_sum round start (steps.take count) ≤ rounded_sum round start (steps.take more) := by
  have hsplit : steps.take more = steps.take count ++ (steps.take more).drop count := by
    conv_lhs => rw [← List.take_append_drop count (steps.take more)]
    rw [List.take_take, Nat.min_eq_left hle]
  rw [hsplit, rounded_sum, rounded_sum, List.foldl_append]
  refine h.le_rounded_sum (h.round_rounded_sum hstart) fun step hstep => hsteps step ?_
  exact List.mem_of_mem_take (List.mem_of_mem_drop hstep)

end Rounding

theorem rounded_sum_id (start : ℚ) (steps : List ℚ) : rounded_sum id start steps = start + steps.sum := by
  induction steps generalizing start with
  | nil => exact (add_zero start).symm
  | cons step steps ih =>
    rw [List.sum_cons, ← add_assoc, ← ih]
    rfl
