import PlanterTelemetry.Analytics.Forecast
import Mathlib.Data.List.SplitBy

open planter_telemetry.python

namespace planter_telemetry.analytics.model

/-! ### Segments as maximal runs -/

section Split

variable {α : Type} {r : α → α → Bool} {items : List α} {groups : List (List α)} {group : List α}
  {item : α}

/-- An item that the last run goes on with extends it. -/
theorem splitBy_append_related (hsplit : items.splitBy r = groups ++ [group])
    (hrelated : ∀ last ∈ group.getLast?, r last item = true) :
    (items ++ [item]).splitBy r = groups ++ [group ++ [item]] := by
  obtain ⟨hflatten, hnil, hchain, hbreaks⟩ := List.splitBy_eq_iff.mp hsplit
  rw [List.splitBy_eq_iff]
  refine ⟨by simp [hflatten], ?_, ?_, ?_⟩
  · intro hmem
    cases List.mem_append.mp hmem with
    | inl hmem => exact hnil (List.mem_append_left _ hmem)
    | inr hmem => simp at hmem
  · intro run hrun
    cases List.mem_append.mp hrun with
    | inl hrun => exact hchain run (List.mem_append_left _ hrun)
    | inr hrun =>
      rw [List.mem_singleton.mp hrun, List.isChain_append]
      refine ⟨hchain group (by simp), List.isChain_singleton _, ?_⟩
      intro last hlast first hfirst
      rw [List.head?_singleton, Option.mem_def, Option.some.injEq] at hfirst
      exact hfirst ▸ hrelated last hlast
  · rw [List.isChain_append] at hbreaks ⊢
    obtain ⟨hearlier, -, hlast⟩ := hbreaks
    refine ⟨hearlier, List.isChain_singleton _, fun run hrun next hnext => ?_⟩
    rw [List.head?_singleton, Option.mem_def, Option.some.injEq] at hnext
    obtain ⟨hne, hgroup, hbroken⟩ := hlast run hrun group (by simp)
    subst hnext
    refine ⟨hne, by simp, ?_⟩
    rwa [List.head_append_of_ne_nil hgroup]

/-- Runs of items with a break after the item at an index. -/
def BreakAt (groups : List (List α)) (index : Nat) : Prop :=
  ∃ earlier later, groups = earlier ++ later ∧ earlier.flatten.length = index + 1

/-- An index ends a run, or the next one is in the same run. -/
theorem breakAt_or_within {index : Nat} (hindex : index < groups.flatten.length) :
    BreakAt groups index ∨ ∃ group ∈ groups, ∃ (within : Nat) (h : within + 1 < group.length),
      groups.flatten[index]? = some group[within] ∧
        groups.flatten[index + 1]? = some group[within + 1] := by
  induction groups generalizing index with
  | nil => cases hindex
  | cons group groups ih =>
    rw [List.flatten_cons] at hindex ⊢
    rcases Nat.lt_trichotomy (index + 1) group.length with hlt | heq | hgt
    · refine .inr ⟨group, List.mem_cons_self, index, hlt, ?_, ?_⟩
      · rw [List.getElem?_append_left (by omega), List.getElem?_eq_getElem]
      · rw [List.getElem?_append_left hlt, List.getElem?_eq_getElem]
    · exact .inl ⟨[group], groups, rfl, by simp [heq]⟩
    · rw [List.length_append] at hindex
      rcases ih (by omega : index - group.length < groups.flatten.length) with
        ⟨earlier, later, heq, hlength⟩ | ⟨other, hother, within, h, hitem, hnext⟩
      · refine .inl ⟨group :: earlier, later, by rw [heq, List.cons_append], ?_⟩
        rw [List.flatten_cons, List.length_append, hlength]
        omega
      · refine .inr ⟨other, List.mem_cons_of_mem _ hother, within, h, ?_, ?_⟩
        · rw [List.getElem?_append_right (by omega), hitem]
        · rw [List.getElem?_append_right (by omega), ← hnext]
          congr 1
          omega

/-- Maximal runs break exactly where an item is not related to the next. -/
theorem breakAt_splitBy_iff {index : Nat} (hindex : index + 1 < items.length) :
    BreakAt (items.splitBy r) index ↔ r items[index] items[index + 1] = false := by
  obtain ⟨-, hnil, hchain, hbreaks⟩ := List.splitBy_eq_iff.mp (rfl : items.splitBy r = _)
  have hflatten := List.flatten_splitBy r items
  constructor
  · rintro ⟨earlier, later, hgroups, hlength⟩
    rw [hgroups, List.flatten_append] at hflatten
    rcases List.eq_nil_or_concat earlier with rfl | ⟨front, last, rfl⟩
    · cases hlength
    · cases later with
      | nil =>
        rw [List.flatten_nil, List.append_nil] at hflatten
        rw [hflatten] at hlength
        omega
      | cons head rest =>
        rw [hgroups, List.isChain_append] at hbreaks
        obtain ⟨hlast, hhead, hbroken⟩ := hbreaks.2.2 last (by simp) head (by simp)
        have hitem : items[index]? = some (last.getLast hlast) := by
          rw [← hflatten, List.getElem?_append_left (by omega), ← List.getLast?_eq_some_getLast hlast]
          have hend := List.getLast?_eq_getElem? (l := (front.concat last).flatten)
          rw [hlength, Nat.add_sub_cancel] at hend
          rw [← hend, List.concat_eq_append, List.flatten_concat, List.getLast?_append_of_ne_nil _ hlast]
        have hnext : items[index + 1]? = some (head.head hhead) := by
          rw [← hflatten, List.getElem?_append_right (by omega), hlength, Nat.sub_self,
            List.flatten_cons, ← List.head?_eq_getElem?, List.head?_append_of_ne_nil _ hhead,
            List.head?_eq_some_head]
        rw [List.getElem?_eq_getElem (by omega), Option.some.injEq] at hitem hnext
        rw [hitem, hnext, hbroken]
  · intro hbroken
    have hlength : index < (items.splitBy r).flatten.length := by
      rw [hflatten]
      omega
    rcases breakAt_or_within hlength with hbreak | ⟨group, hgroup, within, h, hitem, hnext⟩
    · exact hbreak
    · rw [hflatten, List.getElem?_eq_getElem (by omega), Option.some.injEq] at hitem hnext
      have hrelated := List.isChain_iff_getElem.mp (hchain group hgroup) within h
      rw [← hitem, ← hnext, hbroken] at hrelated
      cases hrelated

theorem slice_succ {series : List α} {start stop : Nat} (hstart : start ≤ stop) (hstop : stop < series.length) :
    slice series start (stop + 1) = slice series start stop ++ [series[stop]] := by
  unfold slice
  rw [show stop + 1 - start = stop - start + 1 by omega, List.take_succ_eq_append_getElem (by
    rw [List.length_drop]
    omega), List.getElem_drop]
  congr 3
  omega

/-- The loop's turns: the index of each item but the first, with its pair. -/
def split_turns (items : List α) : List (Nat × α × α) :=
  (pairwise items).mapIdx fun i pair => (i + 1, pair)

theorem split_turns_length (items : List α) : (split_turns items).length = items.length - 1 := by
  simp only [split_turns, pairwise, List.length_mapIdx, List.length_zip, List.length_tail]
  omega

/-- A turn of the loop: at a break the open run is closed and the next one starts. -/
def Splits (breaks : α → α → Bool) (items : List α)
    (step : List (List α) × Nat → Nat × α × α → List (List α) × Nat) : Prop :=
  ∀ segments start index a b, step (segments, start) (index, a, b) =
    if breaks a b = true then (segments ++ [slice items start index], index) else (segments, start)

variable {breaks : α → α → Bool} {step : List (List α) × Nat → Nat × α × α → List (List α) × Nat}

/-- After `k` turns the closed segments and the open one are the runs of the
    first `k + 1` items. -/
theorem split_loop (hstep : Splits breaks items step) {k : Nat} (hk : k < items.length) :
    ∃ segments start, ((split_turns items).take k).foldl step ([], 0) = (segments, start) ∧ start ≤ k ∧
      segments ++ [slice items start (k + 1)] = (items.take (k + 1)).splitBy fun a b => !breaks a b := by
  induction k with
  | zero =>
    refine ⟨[], 0, rfl, Nat.le_refl _, ?_⟩
    cases items with
    | nil => cases hk
    | cons first rest => rfl
  | succ k ih =>
    obtain ⟨segments, start, hloop, hstart, hruns⟩ := ih (by omega)
    have hlength := split_turns_length items
    have hturn : (split_turns items).take (k + 1) =
        (split_turns items).take k ++ [(k + 1, items[k], items[k + 1])] := by
      rw [List.take_succ_eq_append_getElem (by omega)]
      simp [split_turns, pairwise]
    have hprefix : items.take (k + 1 + 1) = items.take (k + 1) ++ [items[k + 1]] :=
      List.take_succ_eq_append_getElem hk
    rw [hturn, List.foldl_append, hloop, hprefix, List.foldl_cons, List.foldl_nil, hstep]
    by_cases hbreak : breaks items[k] items[k + 1] = true
    · -- the open segment is closed and the next one starts here
      refine ⟨segments ++ [slice items start (k + 1)], k + 1, if_pos hbreak, Nat.le_refl _, ?_⟩
      have hend : (items.take (k + 1)).getLast? = some items[k] := by
        rw [List.take_succ_eq_append_getElem (by omega), List.getLast?_concat]
      have hsingle : slice items (k + 1) (k + 1 + 1) = [items[k + 1]] := by
        rw [slice_succ (Nat.le_refl _) hk, slice, Nat.sub_self, List.take_zero, List.nil_append]
      rw [List.splitBy_append_cons, ← hruns, hsingle]
      · rfl
      · intro last hmem
        rw [hend, Option.mem_def, Option.some.injEq] at hmem
        rw [← hmem, hbreak]
        rfl
    · refine ⟨segments, start, if_neg hbreak, Nat.le_succ_of_le hstart, ?_⟩
      have hlast : (slice items start (k + 1)).getLast? = some items[k] := by
        rw [slice_succ hstart (by omega), List.getLast?_concat]
      rw [slice_succ (Nat.le_succ_of_le hstart) hk]
      refine (splitBy_append_related hruns.symm fun last hmem => ?_).symm
      rw [hlast, Option.mem_def, Option.some.injEq] at hmem
      rw [← hmem, Bool.not_eq_true', Bool.eq_false_iff]
      exact hbreak

/-- The whole loop leaves the maximal runs of the items. -/
theorem split_runs (hstep : Splits breaks items step) (hitems : 2 ≤ items.length) :
    (((split_turns items).foldl step ([], 0)).1 ++
      [items.drop ((split_turns items).foldl step ([], 0)).2]) = items.splitBy fun a b => !breaks a b := by
  obtain ⟨segments, start, hloop, -, hruns⟩ :=
    split_loop hstep (show items.length - 1 < items.length by omega)
  rw [← split_turns_length, List.take_length] at hloop
  rw [show items.length - 1 + 1 = items.length by omega, List.take_length, slice,
    List.take_of_length_le (by rw [List.length_drop])] at hruns
  rw [hloop, hruns]

end Split

variable {T K : Type} [DataTime T] [Field K] [LinearOrder K]
  {samples : List (Point T K)} {jump gap_factor : K}

/-- A segment ends between two samples: the value steps up, or the gap is too
    long. -/
def breaks (jump : K) (gap_limit : Option K) (a b : Point T K) : Bool :=
  decide (jump ≤ b.value - a.value) || exceeds_gap gap_limit a b

theorem split_step_splits (samples : List (Point T K)) (jump : K) (gap_limit : Option K) :
    Splits (breaks jump gap_limit) samples (split_step samples jump gap_limit) := by
  intro segments start index a b
  unfold split_step breaks
  simp only [Bool.or_eq_true, decide_eq_true_iff]

/-- The segments are the maximal runs of samples without a break. -/
theorem split_segments_eq_splitBy (samples : List (Point T K)) (jump gap_factor : K) :
    split_segments samples jump gap_factor =
      samples.splitBy fun a b =>
        !breaks jump ((cadence_seconds samples).map (· * gap_factor)) a b := by
  unfold split_segments
  split
  · next hshort =>
    match samples, hshort with
    | [], _ => rfl
    | [_], _ => rfl
  · next hlong =>
    exact split_runs (split_step_splits _ _ _) (not_lt.mp hlong)

/-- The seconds between neighbours that are later than their predecessor. -/
def positive_gaps (samples : List (Point T K)) : List K :=
  ((pairwise samples).map fun (a, b) => (total_seconds (DataTime.since b.at_time a.at_time) : K)).filter
    fun gap => 0 < gap

theorem cadence_seconds_eq (samples : List (Point T K)) : cadence_seconds samples =
    if positive_gaps samples = [] then none else some (median (positive_gaps samples)) := rfl

/-! ### The newest segment -/

variable {series : List (Point T K)} {metric : Metric K}

/-- `segments[-1]`. -/
def newest_segment (metric : Metric K) (series : List (Point T K)) : List (Point T K) :=
  (split_segments series metric.refill_jump metric.gap_factor).getLastD []

/-- The samples that a fit uses. -/
def fit_samples (metric : Metric K) (series : List (Point T K)) : List (Point T K) :=
  last_points metric.max_fit_points (newest_segment metric series)

/-- The newest segment closes the series. -/
theorem newest_segment_split (metric : Metric K) (hseries : series ≠ []) :
    newest_segment metric series ≠ [] ∧ newest_segment metric series <:+ series := by
  unfold newest_segment
  rw [split_segments_eq_splitBy]
  generalize (fun a b : Point T K => !breaks metric.refill_jump
    ((cadence_seconds series).map (· * metric.gap_factor)) a b) = r
  have hsome := List.splitBy_ne_nil (r := r).mpr hseries
  have hlast : (series.splitBy r).getLastD [] = (series.splitBy r).getLast hsome := by
    rw [List.getLastD_eq_getLast?, List.getLast?_eq_some_getLast hsome, Option.getD_some]
  rw [hlast]
  refine ⟨List.ne_nil_of_mem_splitBy (List.getLast_mem hsome), ?_⟩
  refine ⟨(series.splitBy r).dropLast.flatten, ?_⟩
  rw [← List.flatten_concat, List.dropLast_concat_getLast, List.flatten_splitBy]

theorem suffix_getLast? {α : Type} {suffix items : List α} (h : suffix <:+ items)
    (hsome : suffix ≠ []) : suffix.getLast? = items.getLast? := by
  obtain ⟨front, rfl⟩ := h
  rw [List.getLast?_append_of_ne_nil _ hsome]

theorem last_points_suffix {α : Type} (count : Nat) (segment : List α) :
    last_points count segment <:+ segment := by
  unfold last_points
  split
  · exact List.suffix_refl _
  · exact List.drop_suffix _ _

theorem last_points_length {α : Type} {count : Nat} (hcount : count ≠ 0) (segment : List α) :
    (last_points count segment).length = min count segment.length := by
  rw [last_points, if_neg hcount, List.length_drop]
  omega

theorem last_points_ne_nil {α : Type} (count : Nat) {segment : List α} (hsegment : segment ≠ []) :
    last_points count segment ≠ [] := by
  have hlength := List.length_pos_of_ne_nil hsegment
  unfold last_points
  split
  · exact hsegment
  · rw [← List.length_pos_iff, List.length_drop]
    omega

theorem fit_samples_suffix (metric : Metric K) (hseries : series ≠ []) :
    fit_samples metric series <:+ series :=
  (last_points_suffix _ _).trans (newest_segment_split metric hseries).2

theorem fit_samples_subset (metric : Metric K) (series : List (Point T K)) :
    fit_samples metric series ⊆ series := by
  by_cases hseries : series = []
  · rw [hseries]
    simp [fit_samples, newest_segment, split_segments, last_points]
  · exact (fit_samples_suffix metric hseries).subset

theorem fit_samples_getLast? (metric : Metric K) (hseries : series ≠ []) :
    (fit_samples metric series).getLast? = series.getLast? :=
  suffix_getLast? (fit_samples_suffix metric hseries)
    (last_points_ne_nil _ (newest_segment_split metric hseries).1)

end planter_telemetry.analytics.model
