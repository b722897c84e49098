import PlanterTelemetry.Analytics.Model

open planter_telemetry.python

namespace planter_telemetry.analytics.model

/-! ### What every forecast says -/

section Points

variable {T K : Type}

theorem finite_of_is_valid_series [DataTime T] {samples : List (Sample T K)} (h : is_valid_series samples = true) :
    ∀ sample ∈ samples, sample.value.isfinite = true := by
  intro sample hsample
  have hall := (Bool.and_eq_true_iff.mp h).1
  exact (Bool.and_eq_true_iff.mp (List.all_eq_true.mp hall sample hsample)).1

/-- A valid series loses no sample on the way to its points. -/
theorem points_times {samples : List (Sample T K)}
    (hfinite : ∀ sample ∈ samples, sample.value.isfinite = true) :
    (points samples).map Point.at_time = samples.map Sample.at_time := by
  induction samples with
  | nil => rfl
  | cons sample samples ih =>
    have hsample := hfinite sample List.mem_cons_self
    have hrest := ih fun other hother => hfinite other (List.mem_cons_of_mem _ hother)
    cases hvalue : sample.value with
    | finite value =>
      simp only [points, List.filterMap_cons, hvalue, PyFloat.number?, Option.map_some,
        List.map_cons, List.cons.injEq, true_and]
      exact hrest
    | nan | infinity | neg_infinity => simp [hvalue, PyFloat.isfinite] at hsample

theorem points_append (front back : List (Sample T K)) : points (front ++ back) = points front ++ points back :=
  List.filterMap_append

theorem points_of_finite {α : Type} {items : List α} {sample : α → Sample T K} {value : α → K}
    (h : ∀ item ∈ items, (sample item).value = .finite (value item)) :
    points (items.map sample) = items.map fun item => ⟨(sample item).at_time, value item⟩ := by
  unfold points
  rw [List.filterMap_map, ← List.filterMap_eq_map]
  apply List.filterMap_congr
  intro item hitem
  rw [Function.comp_apply, h item hitem]
  rfl

theorem pairwise_map {α β : Type} (f : α → β) (items : List α) :
    pairwise (items.map f) = (pairwise items).map (Prod.map f f) := by
  rw [pairwise, pairwise, ← List.map_tail, List.zip_map]

theorem pairwise_all_iff_isChain {α : Type} (r : α → α → Bool) (items : List α) :
    (pairwise items).all (fun (a, b) => r a b) = true ↔ items.IsChain fun a b => r a b = true := by
  induction items with
  | nil => simp [pairwise]
  | cons first rest ih =>
    cases rest with
    | nil => simp [pairwise]
    | cons second rest =>
      rw [List.isChain_cons_cons, ← ih]
      simp [pairwise]

/-- A series in UTC is valid when its values are numbers and its times strictly
    increase. -/
theorem is_valid_series_iff {samples : List (Sample UtcDatetime K)} :
    is_valid_series samples = true ↔ (∀ sample ∈ samples, sample.value.isfinite = true) ∧
      samples.Pairwise fun a b => a.at_time < b.at_time := by
  have horder := pairwise_all_iff_isChain
    (fun a b : Sample UtcDatetime K => DataTime.before a.at_time b.at_time) samples
  unfold is_valid_series
  rw [Bool.and_eq_true, horder, List.all_eq_true]
  refine and_congr ?_ ?_
  · apply forall₂_congr
    intro sample _
    rw [Bool.and_eq_true]
    exact and_iff_left rfl
  · constructor
    · intro hchain
      exact List.IsChain.pairwise (hchain.imp fun a b h => of_decide_eq_true h)
    · intro hpairwise
      exact (hpairwise.imp fun h => decide_eq_true h).isChain

theorem points_increasing {samples : List (Sample UtcDatetime K)} (hvalid : is_valid_series samples = true) :
    (points samples).Pairwise fun p q => p.at_time < q.at_time := by
  have hsamples := (is_valid_series_iff.mp hvalid).2
  have htimes := points_times (finite_of_is_valid_series hvalid)
  rw [← List.pairwise_map, htimes, List.pairwise_map]
  exact hsamples

/-- The cadence only depends on the times of the samples. -/
theorem cadence_seconds_congr {K : Type} [DataTime T] [Field K] [LinearOrder K] [FloorRing K]
    {first second : List (Point T K)}
    (h : first.map Point.at_time = second.map Point.at_time) :
    cadence_seconds first = cadence_seconds second := by
  have hcadence (samples : List (Point T K)) : cadence_seconds samples =
      (fun deltas : List K =>
        if deltas.filter (fun delta => 0 < delta) = [] then none
        else some (median (deltas.filter fun delta => 0 < delta)))
      ((pairwise (samples.map Point.at_time)).map fun pair => total_seconds (DataTime.since pair.2 pair.1)) := by
    rw [pairwise_map, List.map_map]
    rfl
  rw [hcadence, hcadence, h]

end Points

variable {K : Type} [Field K] [LinearOrder K] [FloorRing K]

/-- What holds of a forecast whatever the series: its watermark is the newest
    sample, exactly the crossing statuses carry a crossing, and a crossing means
    that the series is valid and its newest sample is not stale. -/
structure Facts (samples : List (Sample UtcDatetime K)) (metric : Metric K) (now : UtcDatetime)
    (fc : Forecast UtcDatetime K) : Prop where
  kind : fc.kind = metric.kind
  as_of : fc.as_of = samples.getLast?.map Sample.at_time
  crossing : fc.crosses_at.isSome = fc.status.crossing
  valid : fc.crosses_at.isSome = true → is_valid_series samples = true
  fresh : fc.crosses_at.isSome = true → ∀ as_of, fc.as_of = some as_of →
    total_seconds (DataTime.since now as_of) ≤ stale_limit metric (cadence_seconds (points samples))

variable {z : K} {samples : List (Sample UtcDatetime K)} {metric : Metric K} {now : UtcDatetime}
  {window_start : Option UtcDatetime} {fc : Forecast UtcDatetime K} {newest : Point UtcDatetime K}

omit [FloorRing K] in
theorem facts_no_crossing {status : Status} {latest : Option K} {fit : Option (Fit UtcDatetime K)}
    (hlast : samples.getLast?.map Sample.at_time = some newest.at_time)
    (hstatus : status.crossing = false) :
    Facts samples metric now (no_crossing metric status (some newest.at_time) latest fit) where
  kind := rfl
  as_of := hlast.symm
  crossing := hstatus.symm
  valid h := by cases h
  fresh h := by cases h

theorem facts_of_fit {fit : Fit UtcDatetime K} (hvalid : is_valid_series samples = true)
    (hlast : samples.getLast?.map Sample.at_time = some newest.at_time)
    (hfresh : total_seconds (DataTime.since now newest.at_time) ≤
      stale_limit metric (cadence_seconds (points samples)))
    (h : forecast_of_fit metric newest fit = .ok fc) : Facts samples metric now fc := by
  unfold forecast_of_fit at h
  cases hcrossing : crossing fit.value_at_anchor metric.target fit.slope_per_hour fit.anchor_at with
  | error e => simp [hcrossing, bind, Except.bind] at h
  | ok crosses =>
    cases crosses with
    | none =>
      simp only [hcrossing, bind, Except.bind, Except.ok.injEq] at h
      subst h
      exact facts_no_crossing hlast rfl
    | some crosses_at =>
      simp only [hcrossing, bind, Except.bind] at h
      split at h
      · cases h
      · split at h
        · cases h
        · cases h
          refine ⟨rfl, hlast.symm, ?_, fun _ => hvalid, fun _ as_of has => ?_⟩
          · split <;> rfl
          · cases has
            exact hfresh

theorem facts_of_segments {cadence : Option K} {segments : List (List (Point UtcDatetime K))}
    (hvalid : is_valid_series samples = true)
    (hlast : samples.getLast?.map Sample.at_time = some newest.at_time)
    (hfresh : total_seconds (DataTime.since now newest.at_time) ≤
      stale_limit metric (cadence_seconds (points samples)))
    (h : forecast_of_segments z metric window_start cadence newest segments = .ok fc) :
    Facts samples metric now fc := by
  unfold forecast_of_segments at h
  simp only at h
  split at h
  · cases h
    exact facts_no_crossing hlast rfl
  · split at h
    · split at h
      · cases h
        exact facts_no_crossing hlast rfl
      · split at h
        · cases h
          exact facts_no_crossing hlast rfl
        · exact facts_of_fit hvalid hlast hfresh h
    · cases h
      exact facts_no_crossing hlast rfl

theorem forecast_facts (h : forecast z samples metric now window_start = .ok fc) :
    Facts samples metric now fc := by
  unfold forecast at h
  cases hsamples : samples.getLast? with
  | none =>
    simp only [hsamples, Except.ok.injEq] at h
    subst h
    refine ⟨rfl, by simp [no_crossing, hsamples], rfl, ?_, ?_⟩
    · exact fun hsome => by cases hsome
    · exact fun hsome => by cases hsome
  | some newest_sample =>
    simp only [hsamples] at h
    split at h
    · cases h
      refine ⟨rfl, by simp [no_crossing, hsamples, DataTime.aware], rfl, ?_, ?_⟩
      · exact fun hsome => by cases hsome
      · exact fun hsome => by cases hsome
    · next hvalid =>
      have hseries : is_valid_series samples = true := by
        simpa [DataTime.aware] using hvalid
      have htimes : (points samples).getLast?.map Point.at_time =
          samples.getLast?.map Sample.at_time := by
        rw [← List.getLast?_map, ← List.getLast?_map, points_times (finite_of_is_valid_series hseries)]
      split at h
      · next hnone => simp [hnone, hsamples] at htimes
      · next newest hnewest =>
        have hlast : samples.getLast?.map Sample.at_time = some newest.at_time := by
          rw [← htimes, hnewest, Option.map_some]
        split at h
        · cases h
          exact facts_no_crossing hlast rfl
        · next hstale =>
          split at h
          · cases h
            refine ⟨rfl, hlast.symm, rfl, fun _ => hseries, fun _ as_of has => ?_⟩
            cases has
            exact not_lt.mp hstale
          · exact facts_of_segments hseries hlast (not_lt.mp hstale) h

end planter_telemetry.analytics.model
