import PlanterTelemetry.Analytics.Model
import PlanterTelemetry.Library.Rank
import Mathlib.Data.List.GetD
import Mathlib.Data.Nat.Choose.Basic
import Mathlib.Tactic.FieldSimp
import Mathlib.Tactic.Ring

open planter_telemetry.python

namespace planter_telemetry.analytics.model

/-! ### Medians -/

section Median

variable {K : Type} [Field K] [LinearOrder K] {values : List K} {value : K} {low high : Nat}

/-- The median lies among a majority of great entries. -/
theorem le_median_of_most [IsStrictOrderedRing K]
    (h : values.length < 2 * values.countP fun entry => decide (value ≤ entry)) : value ≤ median values := by
  have hsorted := List.pairwise_insertionSort (· ≤ ·) values
  have hlength : (values.insertionSort (· ≤ ·)).length = values.length :=
    (List.perm_insertionSort _ values).length_eq
  have hcount := (List.perm_insertionSort (· ≤ ·) values).countP_eq fun entry => decide (value ≤ entry)
  have hmiddle (i : Nat) (hi : i < values.length)
      (hlong : values.length ≤ i + values.countP fun entry => decide (value ≤ entry)) :
      value ≤ (values.insertionSort (· ≤ ·)).getD i 0 := by
    have hin : i < (values.insertionSort (· ≤ ·)).length := by omega
    rw [List.getD_eq_getElem _ _ hin]
    exact of_decide_eq_true (Rank.getElem_of_countP_great (p := fun entry => decide (value ≤ entry))
      (fun hxy hx => decide_eq_true ((of_decide_eq_true hx).trans hxy)) hsorted hin (by omega))
  have hbound := List.countP_le_length (p := fun entry => decide (value ≤ entry)) (l := values)
  unfold median
  simp only [hlength]
  split
  · next hodd => exact hmiddle _ (by omega) (by omega)
  · next heven =>
    have hleft := hmiddle (values.length / 2 - 1) (by omega) (by omega)
    have hright := hmiddle (values.length / 2) (by omega) (by omega)
    linarith

/-- The median lies among a majority of small entries. -/
theorem median_le_of_most [IsStrictOrderedRing K]
    (h : values.length < 2 * values.countP fun entry => decide (entry ≤ value)) : median values ≤ value := by
  have hsorted := List.pairwise_insertionSort (· ≤ ·) values
  have hlength : (values.insertionSort (· ≤ ·)).length = values.length :=
    (List.perm_insertionSort _ values).length_eq
  have hcount := (List.perm_insertionSort (· ≤ ·) values).countP_eq fun entry => decide (entry ≤ value)
  have hmiddle (i : Nat) (hi : i < values.length)
      (hlong : i < values.countP fun entry => decide (entry ≤ value)) :
      (values.insertionSort (· ≤ ·)).getD i 0 ≤ value := by
    have hin : i < (values.insertionSort (· ≤ ·)).length := by omega
    rw [List.getD_eq_getElem _ _ hin]
    exact of_decide_eq_true (Rank.getElem_of_countP_small (p := fun entry => decide (entry ≤ value))
      (fun hxy hy => decide_eq_true (hxy.trans (of_decide_eq_true hy))) hsorted hin (by omega))
  have hbound := List.countP_le_length (p := fun entry => decide (entry ≤ value)) (l := values)
  unfold median
  simp only [hlength]
  split
  · next hodd => exact hmiddle _ (by omega) (by omega)
  · next heven =>
    have hleft := hmiddle (values.length / 2 - 1) (by omega) (by omega)
    have hright := hmiddle (values.length / 2) (by omega) (by omega)
    linarith

/-- The value that more than half of the entries share is the median. -/
theorem median_of_majority [IsStrictOrderedRing K] (h : values.length < 2 * values.count value) :
    median values = value := by
  have hsmall : values.count value ≤ values.countP fun entry => decide (entry ≤ value) :=
    List.countP_mono_left fun entry _ hentry => decide_eq_true (le_of_eq (beq_iff_eq.mp hentry))
  have hgreat : values.count value ≤ values.countP fun entry => decide (value ≤ entry) :=
    List.countP_mono_left fun entry _ hentry => decide_eq_true (le_of_eq (beq_iff_eq.mp hentry).symm)
  exact le_antisymm (median_le_of_most (by omega)) (le_median_of_most (by omega))

/-- The median of a sorted list lies between any two ranks around the middle. -/
theorem median_between [IsStrictOrderedRing K] (hsorted : values.Pairwise (· ≤ ·))
    (hlow : low ≤ (values.length - 1) / 2) (hhigh : values.length / 2 ≤ high)
    (hlength : high < values.length) :
    values.getD low 0 ≤ median values ∧ median values ≤ values.getD high 0 := by
  have hmono (i j : Nat) (hij : i ≤ j) (hj : j < values.length) :
      values.getD i 0 ≤ values.getD j 0 := by
    rw [List.getD_eq_getElem _ _ (by omega), List.getD_eq_getElem _ _ hj]
    exact Rank.getElem_mono hsorted hij hj
  unfold median
  simp only [hsorted.insertionSort_eq]
  split
  · next hodd => exact ⟨hmono _ _ (by omega) (by omega), hmono _ _ (by omega) (by omega)⟩
  · next heven =>
    have h1 := hmono low (values.length / 2 - 1) (by omega) (by omega)
    have h2 := hmono low (values.length / 2) (by omega) (by omega)
    have h3 := hmono (values.length / 2 - 1) high (by omega) (by omega)
    have h4 := hmono (values.length / 2) high (by omega) (by omega)
    constructor
    · linarith
    · linarith

end Median

/-! ### Pairs -/

section Pairs

variable {α β : Type}

theorem pairs_length (items : List α) : (pairs items).length = items.length.choose 2 := by
  induction items with
  | nil => simp [pairs]
  | cons item rest ih =>
    rw [pairs, List.length_append, List.length_map, ih, List.length_cons,
      Nat.choose_succ_succ' rest.length 1, Nat.choose_one_right]

/-- The pairs among the items that qualify are the pairs whose ends both do. -/
theorem pairs_filter (p : α → Bool) (items : List α) :
    (pairs items).filter (fun pair => p pair.1 && p pair.2) = pairs (items.filter p) := by
  induction items with
  | nil => rfl
  | cons item rest ih =>
    rw [pairs, List.filter_append, ih, List.filter_map]
    cases hitem : p item with
    | true => simp [Function.comp_def, hitem, pairs]
    | false => simp [Function.comp_def, hitem]

theorem pairs_map (f : α → β) (items : List α) :
    pairs (items.map f) = (pairs items).map (Prod.map f f) := by
  induction items with
  | nil => rfl
  | cons item rest ih => simp [pairs, ih, Function.comp_def]

/-- A relation between earlier and later items holds of every pair. -/
theorem forall_mem_pairs {R : α → α → Prop} {items : List α} :
    (∀ pair ∈ pairs items, R pair.1 pair.2) ↔ items.Pairwise R := by
  induction items with
  | nil => simp [pairs]
  | cons item rest ih =>
    rw [pairs, List.forall_mem_append, ih, List.pairwise_cons, List.forall_mem_map]

end Pairs

/-! ### The fit of a series -/

section Fit

variable {K : Type} [Field K] [LinearOrder K] [FloorRing K]

/-- The `xs` and `ys` of a fit: hours before the newest sample, and values. -/
def coordinates (newest : UtcDatetime) (samples : List (Point UtcDatetime K)) : List (K × K) :=
  samples.map fun s => (total_seconds (DataTime.since s.at_time newest) / 3600, s.value)

/-- The slopes of all pairs, in order. -/
def slopes (coordinates : List (K × K)) : List K :=
  (((pairs coordinates).filter fun (p, q) => decide (q.1 ≠ p.1)).map
    fun (p, q) => (q.2 - p.2) / (q.1 - p.1)).insertionSort (· ≤ ·)

/-- The value of the line at the newest sample. -/
def intercept (coordinates : List (K × K)) : K :=
  median (coordinates.map fun (x, y) => y - median (slopes coordinates) * x)

/-- The fit of a series that is long enough. -/
def fit_of (z : K) (newest : UtcDatetime) (samples : List (Point UtcDatetime K)) :
    Fit UtcDatetime K :=
  let points := coordinates newest samples
  let ranked := slopes points
  let spread := rank_spread z samples.length
  { slope_per_hour := median ranked
    slope_low_per_hour := ranked.getD (low_rank spread ranked.length) 0
    slope_high_per_hour := ranked.getD (high_rank spread ranked.length) 0
    value_at_anchor := intercept points
    anchor_at := newest
    residual_mad := median (points.map fun (x, y) => |y - (median ranked * x + intercept points)|)
    points := samples.length
    segment_points := samples.length
    span_seconds := -(points.headD (0, 0)).1 * 3600
    truncated := false }

variable {z : K} {samples : List (Point UtcDatetime K)} {fit : Fit UtcDatetime K}

theorem theil_sen_eq {newest : Point UtcDatetime K} (hlast : samples.getLast? = some newest) :
    theil_sen z samples =
      if samples.length < MIN_FIT_POINTS then none
      else if (slopes (coordinates newest.at_time samples)).length = 0 then none
      else some (fit_of z newest.at_time samples) := by
  unfold theil_sen
  rw [hlast]
  rfl

theorem theil_sen_eq_some_iff : theil_sen z samples = some fit ↔
    ∃ newest, samples.getLast? = some newest ∧ MIN_FIT_POINTS ≤ samples.length ∧
      slopes (coordinates newest.at_time samples) ≠ [] ∧
      fit = fit_of z newest.at_time samples := by
  cases hlast : samples.getLast? with
  | none => simp [theil_sen, hlast]
  | some newest =>
    simp only [theil_sen_eq hlast, Option.some.injEq, exists_eq_left', List.length_eq_zero_iff]
    split
    · next hshort => simp [hshort]
    · next hlong =>
      split
      · next hempty => simp [hempty]
      · next hsome => simp [not_lt.mp hlong, hsome, eq_comm]

end Fit

end planter_telemetry.analytics.model
