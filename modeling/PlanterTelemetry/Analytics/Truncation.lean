import PlanterTelemetry.Analytics.Record

open planter_telemetry.python

namespace planter_telemetry.analytics.model

/-! ### The last of the maximal runs -/

section Split

variable {α : Type} {r : α → α → Bool} {front own : List α}

theorem splitBy_getLast?_of_break (hown : own ≠ []) (hchain : own.IsChain fun a b => r a b = true)
    (hbreak : ∀ last ∈ front.getLast?, ∀ first ∈ own.head?, r last first = false) :
    ((front ++ own).splitBy r).getLast? = some own := by
  rw [List.splitBy_append hbreak, List.splitBy_of_isChain hown hchain, List.getLast?_concat]

/-- Of items that end in `own` the last run is `own` just when nothing breaks in
    it and there is a break before it. -/
theorem splitBy_getLast?_iff (r : α → α → Bool) (front : List α) (hown : own ≠ []) :
    ((front ++ own).splitBy r).getLast? = some own ↔
      (own.IsChain fun a b => r a b = true) ∧
        ∀ last ∈ front.getLast?, ∀ first ∈ own.head?, r last first = false := by
  constructor
  · intro hlast
    obtain ⟨groups, hgroups⟩ := List.getLast?_eq_some_iff.mp hlast
    obtain ⟨hflatten, hnil, hchain, hbreaks⟩ := List.splitBy_eq_iff.mp hgroups
    rw [List.flatten_concat, List.append_left_inj] at hflatten
    refine ⟨hchain own (List.mem_append_right _ List.mem_cons_self), fun last hmem first hfirst => ?_⟩
    rw [List.isChain_append] at hbreaks
    cases hgroup : groups.getLast? with
    | none =>
      rw [List.getLast?_eq_none_iff.mp hgroup, List.flatten_nil] at hflatten
      rw [hflatten] at hmem
      cases hmem
    | some group =>
      obtain ⟨hsome, hsome', hbroken⟩ := hbreaks.2.2 group hgroup own rfl
      obtain ⟨init, rfl⟩ := List.getLast?_eq_some_iff.mp hgroup
      rw [hflatten, List.flatten_concat, List.getLast?_append_of_ne_nil _ hsome,
        List.getLast?_eq_some_getLast hsome, Option.mem_some_iff] at hmem
      rw [List.head?_eq_some_head hsome', Option.mem_some_iff] at hfirst
      rw [← hmem, ← hfirst]
      exact hbroken
  · rintro ⟨hchain, hbreak⟩
    exact splitBy_getLast?_of_break hown hchain hbreak

end Split

variable {K : Type} [Field K] [LinearOrder K] [FloorRing K] {z : K} {metric : Metric K}
  {now window_start : UtcDatetime} {samples : List (Sample UtcDatetime K)}
  {series own : List (Point UtcDatetime K)}

/-! ### The newest segment of a longer history -/

def gap_limit (metric : Metric K) (series : List (Point UtcDatetime K)) : Option K :=
  (cadence_seconds series).map (· * metric.gap_factor)

omit [FloorRing K] in
theorem newest_segment_iff (metric : Metric K) (front : List (Point UtcDatetime K)) (hown : own ≠ []) :
    newest_segment metric (front ++ own) = own ↔
      (own.IsChain fun a b => breaks metric.refill_jump (gap_limit metric (front ++ own)) a b = false) ∧
        ∀ last ∈ front.getLast?, ∀ first ∈ own.head?,
          breaks metric.refill_jump (gap_limit metric (front ++ own)) last first = true := by
  have hsplit := splitBy_getLast?_iff (fun a b : Point UtcDatetime K =>
    !breaks metric.refill_jump (gap_limit metric (front ++ own)) a b) front hown
  simp only [Bool.not_eq_true', Bool.not_eq_false'] at hsplit
  rw [← hsplit, newest_segment, split_segments_eq_splitBy, List.getLastD_eq_getLast?]
  have hsome : (front ++ own).splitBy (fun a b =>
      !breaks metric.refill_jump (gap_limit metric (front ++ own)) a b) ≠ [] :=
    List.splitBy_ne_nil.mpr fun hnil => hown (List.append_eq_nil_iff.mp hnil).2
  rw [← gap_limit, List.getLast?_eq_some_getLast hsome, Option.getD_some, Option.some.injEq]

/-! ### A fit that the edge did not truncate -/

theorem fitted_of_fit {window_start : Option UtcDatetime} {fc : Forecast UtcDatetime K}
    {fit : Fit UtcDatetime K} (h : forecast z samples metric now window_start = .ok fc)
    (hfit : fc.fit = some fit) : ∃ newest, Fitted z samples metric now window_start newest fit := by
  by_cases hfitted : ∃ newest own, Fitted z samples metric now window_start newest own
  · obtain ⟨newest, own, hown⟩ := hfitted
    rw [forecast_of_fitted hown] at h
    have hsame : fc.fit = some own := by
      rcases forecast_of_fit_eq_ok_iff.mp h with ⟨-, rfl⟩ | ⟨_, _, _, -, -, -, rfl⟩
      · rfl
      · rfl
    rw [hsame, Option.some.injEq] at hfit
    exact ⟨newest, hfit ▸ hown⟩
  · have hnot : ∀ newest own, ¬ Fitted z samples metric now window_start newest own :=
      fun newest own hown => hfitted ⟨newest, own, hown⟩
    obtain ⟨other, hother, hunfitted⟩ := forecast_unfitted hnot
    rw [h, Except.ok.injEq] at hother
    rw [hother, hunfitted.fit] at hfit
    cases hfit

/-- Two fits of one segment. -/
structure SameFit (fit fit' : Fit UtcDatetime K) : Prop where
  slope : fit'.slope_per_hour = fit.slope_per_hour
  value_at_anchor : fit'.value_at_anchor = fit.value_at_anchor
  points : fit'.points = fit.points
  segment_points : fit'.segment_points = fit.segment_points
  span : fit'.span_seconds = fit.span_seconds

/-- Series that end in one segment have one fit, if they have any. -/
theorem same_fit_of_segment {other : List (Sample UtcDatetime K)} {edge edge' : Option UtcDatetime}
    {newest newest' : Point UtcDatetime K} {fit fit' : Fit UtcDatetime K}
    (h : Fitted z samples metric now edge newest fit) (h' : Fitted z other metric now edge' newest' fit')
    (hsegment : newest_segment metric (points other) = newest_segment metric (points samples)) :
    SameFit fit fit' := by
  obtain ⟨own, hown, rfl⟩ := h.fit_eq
  obtain ⟨own', hown', rfl⟩ := h'.fit_eq
  rw [fit_samples, hsegment, ← fit_samples, hown, Option.some.injEq] at hown'
  subst hown'
  exact ⟨rfl, rfl, rfl, congrArg List.length hsegment, rfl⟩

section Positive

variable [IsStrictOrderedRing K]

omit [FloorRing K] in
theorem positive_gaps_ne_nil (htimes : series.Pairwise fun p q => p.at_time < q.at_time)
    (htwo : 2 ≤ series.length) : positive_gaps series ≠ [] := by
  match series, htimes, htwo with
  | first :: second :: rest, htimes, _ =>
    have hless : first.at_time < second.at_time :=
      (List.pairwise_cons.mp htimes).1 second List.mem_cons_self
    have hgap : (0 : K) < total_seconds (DataTime.since second.at_time first.at_time) := by
      have hsince : DataTime.since second.at_time first.at_time =
          second.at_time.micros - first.at_time.micros := rfl
      have hmicros := UtcDatetime.lt_iff.mp hless
      rw [hsince, total_seconds]
      exact div_pos (Int.cast_pos.mpr (by omega)) (by norm_num)
    have hmem : (total_seconds (DataTime.since second.at_time first.at_time) : K) ∈
        positive_gaps (first :: second :: rest) :=
      List.mem_filter.mpr ⟨List.mem_cons_self, decide_eq_true hgap⟩
    exact List.ne_nil_of_mem hmem

/-- A series that has a fit has a cadence. -/
theorem Fitted.cadence {window_start : Option UtcDatetime} {newest : Point UtcDatetime K}
    {fit : Fit UtcDatetime K} (h : Fitted z samples metric now window_start newest fit)
    (htimes : (points samples).Pairwise fun p q => p.at_time < q.at_time) :
    ∃ cadence, cadence_seconds (points samples) = some cadence := by
  obtain ⟨own, hown, -⟩ := h.fit_eq
  obtain ⟨last, -, hthree, -⟩ := theil_sen_eq_some_iff.mp hown
  have hlength := (fit_samples_suffix metric (points_ne_nil h.newest_eq)).length_le
  unfold MIN_FIT_POINTS at hthree
  have hgaps := positive_gaps_ne_nil htimes (by omega)
  exact ⟨_, by rw [cadence_seconds_eq, if_neg hgaps]⟩

/-- With the cadence of the shorter series, the flag is right: a hole before the
    window would be as long as a gap that breaks. -/
theorem newest_segment_of_untruncated {older : List (Point UtcDatetime K)} {newest : Point UtcDatetime K}
    {fit : Fit UtcDatetime K} (hbefore : ∀ p ∈ older, p.at_time ≤ window_start)
    (h : Fitted z samples metric now (some window_start) newest fit) (huntruncated : fit.truncated = false)
    (hcadence : cadence_seconds (older ++ points samples) = cadence_seconds (points samples)) :
    newest_segment metric (older ++ points samples) = newest_segment metric (points samples) := by
  have hseries := points_ne_nil h.newest_eq
  obtain ⟨hown, front, hfront⟩ := newest_segment_split metric hseries
  have hiff := newest_segment_iff metric front hown
  rw [hfront] at hiff
  obtain ⟨hwithin, hbreak⟩ := hiff.mp rfl
  have hlimit : gap_limit metric (older ++ points samples) = gap_limit metric (points samples) :=
    congrArg (Option.map (· * metric.gap_factor)) hcadence
  have hwhole : older ++ points samples = (older ++ front) ++ newest_segment metric (points samples) := by
    rw [List.append_assoc, hfront]
  have hlonger := newest_segment_iff metric (older ++ front) hown
  rw [← hwhole, hlimit] at hlonger
  refine hlonger.mpr ⟨hwithin, fun last hlast first hfirst => ?_⟩
  by_cases hsingle : front = []
  · -- one segment: its distance from the edge is that from the older samples, or less
    rw [hsingle, List.append_nil] at hlast
    rw [hsingle, List.nil_append] at hfront
    have hcount : (split_segments (points samples) metric.refill_jump metric.gap_factor).length = 1 := by
      rw [hfront] at hwithin
      rw [split_segments_eq_splitBy, List.splitBy_of_isChain hseries]
      · rfl
      · exact hwithin.imp fun a b hab => by rw [← gap_limit, hab]; rfl
    obtain ⟨cadence, hsome⟩ := h.cadence (points_increasing h.valid)
    obtain ⟨own, -, hfit⟩ := h.fit_eq
    rw [hfit] at huntruncated
    dsimp only [truncated] at huntruncated
    rw [hcount, hsome, hfirst] at huntruncated
    have hedge := of_decide_eq_false huntruncated
    have hslack : cadence * metric.gap_factor < total_seconds (DataTime.since first.at_time last.at_time) := by
      apply lt_of_lt_of_le (not_le.mp hedge)
      have hle := UtcDatetime.le_iff.mp (hbefore last (List.mem_of_getLast? hlast))
      have hsince : ∀ a b : UtcDatetime, DataTime.since a b = a.micros - b.micros := fun _ _ => rfl
      rw [hsince, hsince, total_seconds, total_seconds]
      exact div_le_div_of_nonneg_right (Int.cast_le.mpr (by omega)) (by norm_num)
    rw [breaks, gap_limit, hsome, Option.map_some, exceeds_gap, decide_eq_true hslack, Bool.or_true]
  · rw [List.getLast?_append_of_ne_nil _ hsingle] at hlast
    exact hbreak last hlast first hfirst

end Positive

/-! ### A past with another cadence -/

/-- A window of an hour at ten-minute steps, falling 1 % an hour. -/
def quick_window : List (Sample UtcDatetime ℚ) :=
  [⟨at_minute 960, .finite 70⟩, ⟨at_minute 970, .finite (419 / 6)⟩, ⟨at_minute 980, .finite (209 / 3)⟩,
    ⟨at_minute 990, .finite (139 / 2)⟩, ⟨at_minute 1000, .finite (208 / 3)⟩,
    ⟨at_minute 1010, .finite (415 / 6)⟩, ⟨at_minute 1020, .finite 69⟩]

def quick_fit : Fit UtcDatetime ℚ where
  slope_per_hour := -1
  slope_low_per_hour := -1
  slope_high_per_hour := -1
  value_at_anchor := 69
  anchor_at := at_minute 1020
  residual_mad := 0
  points := 7
  segment_points := 7
  span_seconds := 3600
  truncated := false

def quick_forecast : Forecast UtcDatetime ℚ :=
  crossing_forecast QUICK_WATER ⟨at_minute 1020, 69⟩ quick_fit (at_minute 4560) (some (at_minute 4560))
    (some (at_minute 4560))

theorem forecast_quick_window :
    forecast 2 quick_window QUICK_WATER (at_minute 1020) (some (at_minute 890)) = .ok quick_forecast := by
  decide +kernel

/-- Two samples half an hour apart, more than an hour before the window. -/
def quick_past : List (Sample UtcDatetime ℚ) := [⟨at_minute 860, .finite 72⟩, ⟨at_minute 890, .finite 71⟩]

/-- Sixteen hours at two-hour steps before the window, falling 2 % an hour. -/
def slow_past : List (Sample UtcDatetime ℚ) :=
  [⟨at_minute 0, .finite 102⟩, ⟨at_minute 120, .finite 98⟩, ⟨at_minute 240, .finite 94⟩,
    ⟨at_minute 360, .finite 90⟩, ⟨at_minute 480, .finite 86⟩, ⟨at_minute 600, .finite 82⟩,
    ⟨at_minute 720, .finite 78⟩, ⟨at_minute 840, .finite 74⟩]

end planter_telemetry.analytics.model
