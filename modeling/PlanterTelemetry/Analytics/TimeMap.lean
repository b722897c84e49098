import PlanterTelemetry.Analytics.Crossing

open planter_telemetry.python

namespace planter_telemetry.analytics.model

/-! ### Rewriting the times of a series -/

section Maps

variable {T T' K : Type}

def Sample.map (f : T → T') (sample : Sample T K) : Sample T' K := ⟨f sample.at_time, sample.value⟩

def Point.map (f : T → T') (point : Point T K) : Point T' K := ⟨f point.at_time, point.value⟩

def Fit.map (f : T → T') (fit : Fit T K) : Fit T' K where
  slope_per_hour := fit.slope_per_hour
  slope_low_per_hour := fit.slope_low_per_hour
  slope_high_per_hour := fit.slope_high_per_hour
  value_at_anchor := fit.value_at_anchor
  anchor_at := f fit.anchor_at
  residual_mad := fit.residual_mad
  points := fit.points
  segment_points := fit.segment_points
  span_seconds := fit.span_seconds
  truncated := fit.truncated

def Forecast.map (f : T → T') (fc : Forecast T K) : Forecast T' K where
  kind := fc.kind
  status := fc.status
  as_of := fc.as_of.map f
  target := fc.target
  latest_value := fc.latest_value
  crosses_at := fc.crosses_at.map f
  crosses_at_earliest := fc.crosses_at_earliest.map f
  crosses_at_latest := fc.crosses_at_latest.map f
  fit := fc.fit.map (Fit.map f)

/-- A rewriting that keeps all that the code reads of two datetimes: the
    tzinfo, the order and the difference. -/
structure KeepsTime [DataTime T] [DataTime T'] (f : T → T') : Prop where
  aware : ∀ t, DataTime.aware (f t) = DataTime.aware t
  before : ∀ a b, DataTime.before (f a) (f b) = DataTime.before a b
  since : ∀ a b, DataTime.since (f a) (f b) = DataTime.since a b

end Maps

section Natural

variable {T T' K : Type} [DataTime T] [DataTime T'] {f : T → T'}

theorem is_valid_series_map (hf : KeepsTime f) (samples : List (Sample T K)) :
    is_valid_series (samples.map (Sample.map f)) = is_valid_series samples := by
  unfold is_valid_series
  rw [pairwise_map, List.all_map, List.all_map]
  simp only [Function.comp_def, Sample.map, Prod.map, hf.aware, hf.before]

omit [DataTime T] [DataTime T'] in
theorem points_map (f : T → T') (samples : List (Sample T K)) :
    points (samples.map (Sample.map f)) = (points samples).map (Point.map f) := by
  unfold points
  rw [List.filterMap_map, List.map_filterMap]
  apply List.filterMap_congr
  intro sample _
  simp only [Function.comp_apply, Sample.map, Option.map_map]
  rfl

variable [Field K] [LinearOrder K] [FloorRing K]

omit [FloorRing K] in
theorem cadence_seconds_map (hf : KeepsTime f) (series : List (Point T K)) :
    cadence_seconds (series.map (Point.map f)) = cadence_seconds series := by
  unfold cadence_seconds
  rw [pairwise_map, List.map_map]
  simp only [Function.comp_def, Point.map, Prod.map, hf.since]

omit [FloorRing K] in
theorem exceeds_gap_map (hf : KeepsTime f) (gap_limit : Option K) (a b : Point T K) :
    exceeds_gap gap_limit (a.map f) (b.map f) = exceeds_gap gap_limit a b := by
  unfold exceeds_gap
  simp only [Point.map, hf.since]

omit [DataTime T] [DataTime T'] [Field K] [LinearOrder K] [FloorRing K] in
theorem slice_map {α β : Type} (f : α → β) (series : List α) (start stop : Nat) :
    slice (series.map f) start stop = (slice series start stop).map f := by
  unfold slice
  rw [List.map_take, List.map_drop]

omit [FloorRing K] in
/-- The loop closes the rewritten segments at the same turns. -/
theorem split_step_map (hf : KeepsTime f) (series : List (Point T K)) (jump : K)
    (gap_limit : Option K) (state : List (List (Point T K)) × Nat) (turn : Nat × Point T K × Point T K) :
    split_step (series.map (Point.map f)) jump gap_limit
        (state.1.map (List.map (Point.map f)), state.2)
        (turn.1, turn.2.1.map f, turn.2.2.map f) =
      ((split_step series jump gap_limit state turn).1.map (List.map (Point.map f)),
        (split_step series jump gap_limit state turn).2) := by
  obtain ⟨segments, start⟩ := state
  obtain ⟨index, a, b⟩ := turn
  simp only [split_step, exceeds_gap_map hf, slice_map]
  by_cases hbreak : jump ≤ b.value - a.value ∨ exceeds_gap gap_limit a b = true
  · simp [Point.map, hbreak]
  · simp [Point.map, hbreak]

omit [FloorRing K] in
theorem split_loop_map (hf : KeepsTime f) (series : List (Point T K)) (jump : K)
    (gap_limit : Option K) (turns : List (Nat × Point T K × Point T K))
    (state : List (List (Point T K)) × Nat) :
    (turns.map fun turn => (turn.1, turn.2.1.map f, turn.2.2.map f)).foldl
        (split_step (series.map (Point.map f)) jump gap_limit)
        (state.1.map (List.map (Point.map f)), state.2) =
      ((turns.foldl (split_step series jump gap_limit) state).1.map (List.map (Point.map f)),
        (turns.foldl (split_step series jump gap_limit) state).2) := by
  induction turns generalizing state with
  | nil => rfl
  | cons turn turns ih =>
    rw [List.map_cons, List.foldl_cons, split_step_map hf, ih, List.foldl_cons]

omit [FloorRing K] in
theorem split_segments_map (hf : KeepsTime f) (series : List (Point T K)) (jump gap_factor : K) :
    split_segments (series.map (Point.map f)) jump gap_factor =
      (split_segments series jump gap_factor).map (List.map (Point.map f)) := by
  unfold split_segments
  rw [List.length_map, cadence_seconds_map hf, pairwise_map]
  split
  · cases series with
    | nil => rfl
    | cons first rest => rfl
  · have hturns : ((pairwise series).map (Prod.map (Point.map f) (Point.map f))).mapIdx
        (fun i pair => (i + 1, pair)) = ((pairwise series).mapIdx fun i pair => (i + 1, pair)).map
          fun turn => (turn.1, turn.2.1.map f, turn.2.2.map f) := by
      apply List.ext_getElem
      · simp
      · intro i hi hi'
        simp [Prod.map]
    have hloop := split_loop_map hf series jump ((cadence_seconds series).map (· * gap_factor))
      ((pairwise series).mapIdx fun i pair => (i + 1, pair)) ([], 0)
    simp only [hturns, List.map_nil] at hloop ⊢
    simp only [hloop, List.map_append, List.map_cons, List.map_nil, List.map_drop]

/-- The fit reads differences of times only, and is anchored at the newest. -/
theorem theil_sen_map (hf : KeepsTime f) (z : K) (samples : List (Point T K)) :
    theil_sen z (samples.map (Point.map f)) = (theil_sen z samples).map (Fit.map f) := by
  unfold theil_sen
  rw [List.getLast?_map]
  cases samples.getLast? with
  | none => rfl
  | some newest =>
    simp only [Option.map_some, List.length_map, List.map_map, Function.comp_def, Point.map, hf.since]
    split
    · rfl
    · split
      · rfl
      · rfl

/-- Two runs of the code, the second on rewritten times: both end with the same
    forecast before any crossing is added to a datetime, or both go on with the
    same fit. -/
def Rewritten (f : T → T') (metric : Metric K) (first : Except PyError (Forecast T K))
    (second : Except PyError (Forecast T' K)) : Prop :=
  (∃ fc, first = .ok fc ∧ second = .ok (fc.map f)) ∨
    ∃ newest fit, first = forecast_of_fit metric newest fit ∧
      second = forecast_of_fit metric (newest.map f) (fit.map f)

theorem forecast_of_segments_map (hf : KeepsTime f) (z : K) (metric : Metric K)
    (window_start : Option T) (cadence : Option K) (newest : Point T K)
    (segments : List (List (Point T K))) :
    Rewritten f metric (forecast_of_segments z metric window_start cadence newest segments)
      (forecast_of_segments z metric (window_start.map f) cadence (newest.map f)
        (segments.map (List.map (Point.map f)))) := by
  have hsegment : (segments.map (List.map (Point.map f))).getLastD [] =
      (segments.getLastD []).map (Point.map f) := by
    rw [List.getLastD_eq_getLast?, List.getLastD_eq_getLast?, List.getLast?_map]
    cases segments.getLast? with
    | none => rfl
    | some segment => rfl
  have hused : last_points metric.max_fit_points ((segments.getLastD []).map (Point.map f)) =
      (last_points metric.max_fit_points (segments.getLastD [])).map (Point.map f) := by
    unfold last_points
    rw [List.length_map]
    split
    · rfl
    · rw [List.map_drop]
  unfold forecast_of_segments
  simp only [hsegment, hused, List.length_map, List.head?_map, List.getLast?_map, theil_sen_map hf]
  split
  · exact .inl ⟨_, rfl, rfl⟩
  · cases (last_points metric.max_fit_points (segments.getLastD [])).head? with
    | none => exact .inl ⟨_, rfl, rfl⟩
    | some first =>
      cases (last_points metric.max_fit_points (segments.getLastD [])).getLast? with
      | none => exact .inl ⟨_, rfl, rfl⟩
      | some last =>
        simp only [Option.map_some, Point.map, hf.since]
        split
        · exact .inl ⟨_, rfl, rfl⟩
        · cases theil_sen z (last_points metric.max_fit_points (segments.getLastD [])) with
          | none => exact .inl ⟨_, rfl, rfl⟩
          | some fit =>
            refine .inr ⟨newest, _, rfl, ?_⟩
            cases window_start with
            | none => rfl
            | some edge =>
              cases (segments.getLastD []).head? with
              | none => rfl
              | some oldest =>
                simp only [Option.map_some, Point.map, hf.since]
                rfl

/-- The forecast of rewritten times is the rewritten forecast, up to the
    arithmetic of its crossings. -/
theorem forecast_map (hf : KeepsTime f) (z : K) (samples : List (Sample T K)) (metric : Metric K)
    (now : T) (window_start : Option T) :
    Rewritten f metric (forecast z samples metric now window_start)
      (forecast z (samples.map (Sample.map f)) metric (f now) (window_start.map f)) := by
  unfold forecast
  rw [List.getLast?_map]
  cases samples.getLast? with
  | none => exact .inl ⟨_, rfl, rfl⟩
  | some newest_sample =>
    simp only [Option.map_some, Sample.map, is_valid_series_map hf, hf.aware, points_map,
      List.getLast?_map]
    split
    · refine .inl ⟨_, rfl, ?_⟩
      split
      · rfl
      · rfl
    · cases (points samples).getLast? with
      | none => exact .inl ⟨_, rfl, rfl⟩
      | some newest =>
        simp only [Option.map_some, Point.map, hf.since, cadence_seconds_map hf]
        split
        · exact .inl ⟨_, rfl, rfl⟩
        · split
          · exact .inl ⟨_, rfl, rfl⟩
          · rw [split_segments_map hf]
            exact forecast_of_segments_map hf z metric window_start _ newest _

end Natural

/-! ### Crossings on either side -/

section Crossings

variable {T T' K : Type} [DataTime T] [DataTime T'] {f : T → T'} [Field K] [LinearOrder K] [FloorRing K]
  {metric : Metric K} {newest : Point T K} {fit : Fit T K} {value_now target slope : K} {anchor : T}

section Forward

variable (hplus : ∀ a delta b, DataTime.plus a delta = .ok b → DataTime.plus (f a) delta = .ok (f b))
include hplus

theorem crossing_map {result : Option T} (h : crossing value_now target slope anchor = .ok result) :
    crossing value_now target slope (f anchor) = .ok (result.map f) := by
  rcases crossing_eq_ok_iff.mp h with ⟨hslope, rfl⟩ | ⟨delta, crosses_at, hslope, hdelta, hsum, rfl⟩
  · exact crossing_eq_ok_iff.mpr (.inl ⟨hslope, rfl⟩)
  · exact crossing_eq_ok_iff.mpr (.inr ⟨delta, f crosses_at, hslope, hdelta, hplus _ _ _ hsum, rfl⟩)

/-- What a call returns, it also returns for the rewritten times. -/
theorem forecast_map_ok (hf : KeepsTime f) {z : K} {samples : List (Sample T K)} {now : T}
    {window_start : Option T} {fc : Forecast T K}
    (h : forecast z samples metric now window_start = .ok fc) :
    forecast z (samples.map (Sample.map f)) metric (f now) (window_start.map f) = .ok (fc.map f) := by
  rcases forecast_map hf z samples metric now window_start with
    ⟨own, hown, hmapped⟩ | ⟨newest, fit, hfirst, hsecond⟩
  · rw [hown, Except.ok.injEq] at h
    rw [hmapped, h]
  · rw [hfirst] at h
    rw [hsecond]
    obtain ⟨crosses_at, hcrosses, hrest⟩ := forecast_of_fit_ok_iff.mp h
    refine forecast_of_fit_ok_iff.mpr ⟨crosses_at.map f, crossing_map hplus hcrosses, ?_⟩
    cases crosses_at with
    | none =>
      rw [hrest]
      rfl
    | some crosses_at =>
      obtain ⟨earliest, latest, hearliest, hlatest, rfl⟩ := hrest
      refine ⟨earliest.map f, latest.map f, crossing_map hplus hearliest, crossing_map hplus hlatest, ?_⟩
      simp only [Forecast.map, Fit.map, hf.since]
      rfl

end Forward

section Lift

variable [IsStrictOrderedRing K] {Fits : T' → Prop}
  (hlift : ∀ a delta b, 0 ≤ delta → DataTime.plus (f a) delta = .ok b → Fits b →
    ∃ own, DataTime.plus a delta = .ok own ∧ f own = b)
include hlift

theorem crossing_lift {result : Option T'}
    (h : crossing value_now target slope (f anchor) = .ok result) (hfits : ∀ t ∈ result, Fits t) :
    ∃ own, crossing value_now target slope anchor = .ok own ∧ own.map f = result := by
  rcases crossing_eq_ok_iff.mp h with ⟨hslope, rfl⟩ | ⟨delta, crosses_at, hslope, hdelta, hsum, rfl⟩
  · exact ⟨none, crossing_eq_ok_iff.mpr (.inl ⟨hslope, rfl⟩), rfl⟩
  · have hpositive : 0 ≤ delta := by
      have hdelay := delay_nonneg value_now target slope
      unfold timedelta_hours timedelta at hdelta
      split at hdelta
      · exact Except.ok.inj hdelta ▸ hdelay
      · cases hdelta
    obtain ⟨own, hown, rfl⟩ := hlift _ _ _ hpositive hsum (hfits _ rfl)
    exact ⟨some own, crossing_eq_ok_iff.mpr (.inr ⟨delta, own, hslope, hdelta, hown, rfl⟩), rfl⟩

/-- What a call returns for the rewritten times, it also returns for the
    original ones, where the crossings can be written. -/
theorem forecast_lift_ok (hf : KeepsTime f) {z : K} {samples : List (Sample T K)} {now : T}
    {window_start : Option T} {fc : Forecast T' K}
    (h : forecast z (samples.map (Sample.map f)) metric (f now) (window_start.map f) = .ok fc)
    (hfits : ∀ t, t ∈ fc.crosses_at ∨ t ∈ fc.crosses_at_earliest ∨ t ∈ fc.crosses_at_latest → Fits t) :
    ∃ own, forecast z samples metric now window_start = .ok own ∧ own.map f = fc := by
  rcases forecast_map hf z samples metric now window_start with
    ⟨own, hown, hmapped⟩ | ⟨newest, fit, hfirst, hsecond⟩
  · rw [hmapped, Except.ok.injEq] at h
    exact ⟨own, hown, h⟩
  · rw [hsecond] at h
    rw [hfirst]
    obtain ⟨crosses_at, hcrosses, hrest⟩ := forecast_of_fit_ok_iff.mp h
    cases crosses_at with
    | none =>
      obtain ⟨own, hown, hnone⟩ := crossing_lift hlift hcrosses fun t ht => by cases ht
      rw [Option.map_eq_none_iff] at hnone
      subst hnone
      exact ⟨_, forecast_of_fit_ok_iff.mpr ⟨none, hown, rfl⟩, hrest.symm⟩
    | some crosses_at =>
      obtain ⟨earliest, latest, hearliest, hlatest, rfl⟩ := hrest
      obtain ⟨own, hown, hsome⟩ := crossing_lift hlift hcrosses fun t ht => hfits t (.inl ht)
      obtain ⟨own, rfl, rfl⟩ := Option.map_eq_some_iff.mp hsome
      obtain ⟨own_earliest, hown_earliest, rfl⟩ := crossing_lift hlift hearliest
        fun t ht => hfits t (.inr (.inl ht))
      obtain ⟨own_latest, hown_latest, rfl⟩ := crossing_lift hlift hlatest
        fun t ht => hfits t (.inr (.inr ht))
      refine ⟨_, forecast_of_fit_ok_iff.mpr ⟨some own, hown, own_earliest, own_latest, hown_earliest,
        hown_latest, rfl⟩, ?_⟩
      simp only [Forecast.map, Fit.map, hf.since]
      rfl

end Lift

end Crossings

end planter_telemetry.analytics.model
