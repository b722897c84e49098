import PlanterTelemetry.Analytics.Segment
import PlanterTelemetry.Float

open planter_telemetry.python

namespace planter_telemetry.analytics.model.rounded

/-! ### The segmenter as floats compute it: each result is rounded -/

variable {T : Type} [DataTime T] (round : ℚ → ℚ)

/-- `statistics.median`. -/
def median (values : List ℚ) : ℚ :=
  let sorted := values.insertionSort (· ≤ ·)
  let n := sorted.length
  if n % 2 = 1 then sorted.getD (n / 2) 0
  else round (round (sorted.getD (n / 2 - 1) 0 + sorted.getD (n / 2) 0) / 2)

/-- The seconds between neighbours that are later than their predecessor. -/
def positive_gaps (samples : List (Point T ℚ)) : List ℚ :=
  ((pairwise samples).map fun (a, b) => rounded_seconds round (DataTime.since b.at_time a.at_time)).filter
    fun gap => 0 < gap

def cadence_seconds (samples : List (Point T ℚ)) : Option ℚ :=
  if positive_gaps round samples = [] then none else some (median round (positive_gaps round samples))

/-- `cadence * gap_factor`, with `none` for `math.inf`. -/
def gap_limit (samples : List (Point T ℚ)) (gap_factor : ℚ) : Option ℚ :=
  (cadence_seconds round samples).map fun cadence => round (cadence * gap_factor)

def exceeds_gap (gap_limit : Option ℚ) (a b : Point T ℚ) : Bool :=
  match gap_limit with
  | none => false
  | some limit => decide (limit < rounded_seconds round (DataTime.since b.at_time a.at_time))

/-- One turn of the loop: the segments closed so far and where the open one
    starts. -/
def split_step (series : List (Point T ℚ)) (jump : ℚ) (gap_limit : Option ℚ)
    (state : List (List (Point T ℚ)) × Nat) (turn : Nat × Point T ℚ × Point T ℚ) :
    List (List (Point T ℚ)) × Nat :=
  let (segments, start) := state
  let (index, a, b) := turn
  if jump ≤ round (b.value - a.value) ∨ exceeds_gap round gap_limit a b then
    (segments ++ [slice series start index], index)
  else (segments, start)

def split_segments (samples : List (Point T ℚ)) (jump gap_factor : ℚ) : List (List (Point T ℚ)) :=
  if samples.length < 2 then
    if samples = [] then [] else [samples]
  else
    let (segments, start) :=
      (split_turns samples).foldl (split_step round samples jump (gap_limit round samples gap_factor)) ([], 0)
    segments ++ [samples.drop start]

/-! ### Where the segments break -/

/-- A segment ends between two samples: the value steps up, or the gap is too
    long. -/
def breaks (jump : ℚ) (gap_limit : Option ℚ) (a b : Point T ℚ) : Bool :=
  decide (jump ≤ round (b.value - a.value)) || exceeds_gap round gap_limit a b

/-- A gap too long for the series: beyond `gap_factor` times its median positive
    gap, if it has one. -/
def LongGap (samples : List (Point T ℚ)) (gap_factor : ℚ) (a b : Point T ℚ) : Prop :=
  positive_gaps round samples ≠ [] ∧
    round (median round (positive_gaps round samples) * gap_factor) <
      rounded_seconds round (DataTime.since b.at_time a.at_time)

variable {round} {samples : List (Point T ℚ)} {jump gap_factor : ℚ}

theorem split_step_splits (samples : List (Point T ℚ)) (jump : ℚ) (gap_limit : Option ℚ) :
    Splits (breaks round jump gap_limit) samples (split_step round samples jump gap_limit) := by
  intro segments start index a b
  unfold split_step breaks
  simp only [Bool.or_eq_true, decide_eq_true_iff]

/-- The segments are the maximal runs of samples without a break. -/
theorem split_segments_eq_splitBy (samples : List (Point T ℚ)) (jump gap_factor : ℚ) :
    split_segments round samples jump gap_factor =
      samples.splitBy fun a b => !breaks round jump (gap_limit round samples gap_factor) a b := by
  unfold split_segments
  split
  · next hshort =>
    match samples, hshort with
    | [], _ => rfl
    | [_], _ => rfl
  · next hlong =>
    exact split_runs (split_step_splits _ _ _) (not_lt.mp hlong)

theorem exceeds_gap_iff (a b : Point T ℚ) :
    exceeds_gap round (gap_limit round samples gap_factor) a b = true ↔ LongGap round samples gap_factor a b := by
  unfold gap_limit cadence_seconds
  by_cases hnone : positive_gaps round samples = []
  · rw [if_pos hnone]
    refine iff_of_false ?_ fun h => h.1 hnone
    intro h
    cases h
  · rw [if_neg hnone, Option.map_some, exceeds_gap, decide_eq_true_iff]
    exact ⟨fun h => ⟨hnone, h⟩, fun h => h.2⟩

/-- However results are rounded, the segments partition the series, and break
    exactly where the rounded step is the jump at least or the gap is too long. -/
theorem split_segments_partition (round : ℚ → ℚ) (samples : List (Point T ℚ)) (jump gap_factor : ℚ) :
    (split_segments round samples jump gap_factor).flatten = samples ∧
      [] ∉ split_segments round samples jump gap_factor ∧
      (split_segments round samples jump gap_factor = [] ↔ samples = []) ∧
      ∀ (index : Nat) (h : index + 1 < samples.length),
        BreakAt (split_segments round samples jump gap_factor) index ↔
          jump ≤ round (samples[index + 1].value - samples[index].value) ∨
            LongGap round samples gap_factor samples[index] samples[index + 1] := by
  rw [split_segments_eq_splitBy]
  refine ⟨List.flatten_splitBy _ _, List.nil_notMem_splitBy _ _, List.splitBy_eq_nil, fun index h => ?_⟩
  rw [breakAt_splitBy_iff h, Bool.not_eq_false', breaks, Bool.or_eq_true, decide_eq_true_iff, exceeds_gap_iff]

/-- Without rounding the segments are the exact ones. -/
theorem split_segments_id (samples : List (Point T ℚ)) (jump gap_factor : ℚ) :
    split_segments id samples jump gap_factor = model.split_segments samples jump gap_factor := by
  rw [split_segments_eq_splitBy, model.split_segments_eq_splitBy]
  refine congrArg (List.splitBy · samples) (funext fun a => funext fun b => ?_)
  have hlimit : gap_limit id samples gap_factor = (model.cadence_seconds samples).map (· * gap_factor) := rfl
  rw [hlimit]
  cases (model.cadence_seconds samples).map (· * gap_factor) with
  | none => rfl
  | some limit => rfl

/-- From 0.1 to 5.1 floats rise by less than 5, but their difference is rounded
    to 5. -/
theorem rounded_step_breaks :
    ¬ ∀ (samples : List (Point UtcDatetime ℚ)) (jump gap_factor : ℚ), (∀ s ∈ samples, fl s.value = s.value) →
      fl jump = jump → fl gap_factor = gap_factor → ∀ (index : Nat) (h : index + 1 < samples.length),
        BreakAt (split_segments fl samples jump gap_factor) index ↔
          jump ≤ samples[index + 1].value - samples[index].value ∨
            LongGap id samples gap_factor samples[index] samples[index + 1] := by
  intro hclaim
  let samples : List (Point UtcDatetime ℚ) := [⟨at_minute 0, fl (1 / 10)⟩, ⟨at_minute 10, fl (51 / 10)⟩]
  have hbreak : BreakAt (split_segments fl samples 5 6) 0 :=
    ⟨_, _, (List.take_append_drop 1 _).symm, by decide +kernel⟩
  have hfloats : ∀ s ∈ samples, fl s.value = s.value := by decide +kernel
  have hexact := (hclaim samples 5 6 hfloats (by decide +kernel) (by decide +kernel) 0 (by decide)).mp hbreak
  rcases hexact with hrises | ⟨-, hgap⟩
  · exact absurd hrises (by decide +kernel)
  · exact absurd hgap (by decide +kernel)

end planter_telemetry.analytics.model.rounded
