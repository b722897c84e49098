import PlanterTelemetry.Library.FloatFormat
import PlanterTelemetry.Python

namespace planter_telemetry.python

/-- The format of a Python float. A result beyond the greatest float, which is
    infinite in Python, keeps its size here; it compares alike with every float. -/
def binary64 : FloatFormat where
  precision := 53
  least := -1074
  nearest := round_half_even
  precision_pos := by decide
  nearest_mono _ _ := round_half_even_mono
  nearest_int := round_half_even_intCast

/-- The float nearest to an exact result. -/
def fl (x : ℚ) : ℚ := binary64.round x

theorem rounding_fl : Rounding fl := binary64.rounding

/-- Integers of 53 bits are floats. -/
theorem fl_intCast {n : Int} (h : n.natAbs ≤ 2 ^ 53) : fl n = n := by
  have hgrid : FloatFormat.OnGrid 0 (n : ℚ) := ⟨n, by rw [zpow_zero, mul_one]⟩
  have hbits : |(n : ℚ)| ≤ 2 ^ (0 + (binary64.precision : Int)) := by
    have habs : (n.natAbs : ℚ) ≤ 2 ^ 53 := by exact_mod_cast h
    rw [← Int.cast_abs, Int.abs_eq_natAbs, Int.cast_natCast]
    exact habs
  exact (hgrid.representable (show binary64.least ≤ 0 by decide) hbits).round_eq

/-- `timedelta.total_seconds()`, a quotient of integers that is rounded once. -/
def rounded_seconds (round : ℚ → ℚ) (micros : Int) : ℚ := round (micros / 1000000)

/-- The sum of a tenth and a fifth is not the float three tenths. -/
example : fl (fl (1 / 10) + fl (2 / 10)) ≠ fl (3 / 10) := by decide +kernel

end planter_telemetry.python
