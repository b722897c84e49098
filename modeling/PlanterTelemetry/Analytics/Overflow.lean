import PlanterTelemetry.Analytics.Descent
import PlanterTelemetry.Analytics.Record

open planter_telemetry.python

namespace planter_telemetry.analytics.model

/-- The values that the wire contract allows for a metric. -/
def wire_range (metric : Metric ℚ) : ℚ × ℚ :=
  if metric.kind = "water" then (0, 100) else (5 / 2, 22 / 5)

/-- From 2000 to 2100. -/
def InCentury (time : UtcDatetime) : Prop := 730119 * day ≤ time.micros ∧ time.micros < 767009 * day

instance (time : UtcDatetime) : Decidable (InCentury time) := inferInstanceAs (Decidable (_ ∧ _))

/-- A sample of this century with a value that the wire contract allows. -/
def OnTheWire (metric : Metric ℚ) (sample : Sample UtcDatetime ℚ) : Prop :=
  InCentury sample.at_time ∧ ∃ value, sample.value = .finite value ∧
    (wire_range metric).1 ≤ value ∧ value ≤ (wire_range metric).2

/-- Any year up to 2100 is followed by so many more. -/
def years_left : Int := 7900 * 365 * day

/-- The fall an hour that takes so many years from the top of the range to the
    target. -/
def flat_limit (metric : Metric ℚ) : ℚ :=
  ((wire_range metric).2 - metric.target) * 3600000000 / years_left

/-- Three and a half hours of readings, every six minutes. -/
def six_minutely (level : Nat → ℚ) : List (Sample UtcDatetime ℚ) :=
  (List.range 36).map fun k => ⟨at_minute (Fin.ofNat _ (6 * k)), .finite (level k)⟩

theorem six_minutely_on_the_wire {level : Nat → ℚ} (hlevel : ∀ k < 36, 0 ≤ level k ∧ level k ≤ 100) :
    ∀ sample ∈ six_minutely level, OnTheWire WATER sample := by
  intro sample hsample
  obtain ⟨k, hk, rfl⟩ := List.mem_map.mp hsample
  have htimes : ∀ k ∈ List.range 36, InCentury (at_minute (Fin.ofNat _ (6 * k))) := by decide
  exact ⟨htimes k hk, level k, rfl, hlevel k (List.mem_range.mp hk)⟩

/-- From 50 % down by 1 % with every reading. -/
def emptied : List (Sample UtcDatetime ℚ) := six_minutely fun k => 50 - k

/-- At 50 %, falling by 0.01 % in a million years. -/
def still : List (Sample UtcDatetime ℚ) := six_minutely fun k => 50 + (35 - k) / 10 ^ 13

end planter_telemetry.analytics.model
