import PlanterTelemetry.Analytics.Contamination
import PlanterTelemetry.Analytics.Crossing

open planter_telemetry.python

namespace planter_telemetry.analytics.model

/-! ### How slowly a line can fall -/

section Slopes

variable {T K : Type} [DataTime T] [Field K] [LinearOrder K]

/-- The slopes of the lines through every two points, in units an hour. -/
def pair_slopes (used : List (Point T K)) : List K :=
  (pairs used).map fun (p, q) =>
    (q.value - p.value) / (total_seconds (DataTime.since q.at_time p.at_time) / 3600)

/-- Each slope that falls does so at the given rate at least, and if the flattest
    of them and the flattest of the others have a falling mean, so does that. -/
structure FallsSteeply (rate : K) (slopes : List K) : Prop where
  steep : ∀ slope ∈ slopes, slope < 0 → slope ≤ -rate
  balanced : ∀ fall ∈ slopes, ∀ rise ∈ slopes, fall < 0 → 0 ≤ rise →
    (∀ slope ∈ slopes, slope ≤ fall ∨ rise ≤ slope) → (fall + rise) / 2 < 0 →
      (fall + rise) / 2 ≤ -rate

/-- Lines through the points that a fit uses come down from the highest of them
    to the target within so many microseconds. -/
def ReachesWithin (metric : Metric K) (reach : Int) (samples : List (Sample T K)) : Prop :=
  ∃ high, (∀ p ∈ fit_samples metric (points samples), p.value ≤ high) ∧
    FallsSteeply ((high - metric.target) * 3600000000 / reach)
      (pair_slopes (fit_samples metric (points samples)))

end Slopes

variable {K : Type} [Field K] [LinearOrder K] [IsStrictOrderedRing K] {rate : K} {values other : List K}

omit [IsStrictOrderedRing K] in
theorem FallsSteeply.perm (h : FallsSteeply rate values) (hperm : other.Perm values) :
    FallsSteeply rate other where
  steep slope hslope := h.steep slope (hperm.mem_iff.mp hslope)
  balanced fall hfall rise hrise hnegative hpositive hbetween :=
    h.balanced fall (hperm.mem_iff.mp hfall) rise (hperm.mem_iff.mp hrise) hnegative hpositive
      fun slope hslope => hbetween slope (hperm.mem_iff.mpr hslope)

omit [Field K] [IsStrictOrderedRing K] in
/-- Nothing lies between two neighbours of a sorted list. -/
theorem le_or_ge_of_sorted (hsorted : values.Pairwise (· ≤ ·)) {i : Nat} (hi : i < values.length)
    (hnext : i + 1 < values.length) {value : K} (hvalue : value ∈ values) :
    value ≤ values[i] ∨ values[i + 1] ≤ value := by
  obtain ⟨j, hj, rfl⟩ := List.getElem_of_mem hvalue
  cases Nat.lt_or_ge i j with
  | inl hlater => exact .inr (Rank.getElem_mono hsorted hlater hj)
  | inr hearlier => exact .inl (Rank.getElem_mono hsorted hearlier (by omega))

/-- The median is one of the slopes or the mean of two neighbours. -/
theorem FallsSteeply.median_le (h : FallsSteeply rate values) (hfalls : median values < 0) :
    median values ≤ -rate := by
  have hsorted := List.pairwise_insertionSort (· ≤ ·) values
  have hranked := h.perm (List.perm_insertionSort (· ≤ ·) values)
  unfold median at hfalls ⊢
  simp only at hfalls ⊢
  generalize values.insertionSort (· ≤ ·) = ranked at hsorted hranked hfalls ⊢
  split at hfalls
  · next hodd =>
    rw [if_pos hodd]
    rw [List.getD_eq_getElem _ _ (by omega)] at hfalls ⊢
    exact hranked.steep _ (List.getElem_mem _) hfalls
  · next heven =>
    rw [if_neg heven]
    cases Nat.eq_zero_or_pos ranked.length with
    | inl hempty =>
      obtain rfl := List.length_eq_zero_iff.mp hempty
      simp at hfalls
    | inr hsome =>
      have hmiddle : ranked.length / 2 - 1 + 1 = ranked.length / 2 := by omega
      have hlow : ranked.length / 2 - 1 + 1 < ranked.length := by omega
      rw [List.getD_eq_getElem _ _ (by omega : ranked.length / 2 - 1 < ranked.length)] at hfalls ⊢
      rw [List.getD_eq_getElem _ _ (by omega : ranked.length / 2 < ranked.length)] at hfalls ⊢
      have hle : ranked[ranked.length / 2 - 1] ≤ ranked[ranked.length / 2] :=
        Rank.getElem_mono hsorted (by omega) (by omega)
      have hfirst : ranked[ranked.length / 2 - 1] < 0 := by linarith
      cases lt_or_ge ranked[ranked.length / 2] 0 with
      | inl hsecond =>
        have hleft := hranked.steep _ (List.getElem_mem _) hfirst
        have hright := hranked.steep _ (List.getElem_mem _) hsecond
        linarith
      | inr hsecond =>
        refine hranked.balanced _ (List.getElem_mem _) _ (List.getElem_mem _) hfirst hsecond ?_ hfalls
        intro slope hslope
        have hsplit := le_or_ge_of_sorted hsorted (by omega) hlow hslope
        simp only [hmiddle] at hsplit
        exact hsplit

/-! ### The lines of a fit -/

variable [FloorRing K] {z : K} {used : List (Point UtcDatetime K)} {fit : Fit UtcDatetime K} {high : K}

theorem slopes_perm_pair_slopes (newest : UtcDatetime)
    (htimes : used.Pairwise fun p q => p.at_time < q.at_time) :
    (slopes (coordinates newest used)).Perm (pair_slopes used) := by
  refine (slopes_perm (coordinates_increasing newest htimes)).trans (List.Perm.of_eq ?_)
  rw [coordinates, pairs_map, List.map_map]
  apply List.map_congr_left
  intro pair _
  have hsince (a b : UtcDatetime) : DataTime.since a b = a.micros - b.micros := rfl
  have hhours : (total_seconds (DataTime.since pair.2.at_time pair.1.at_time) / 3600 : K) =
      total_seconds (DataTime.since pair.2.at_time newest) / 3600 -
        total_seconds (DataTime.since pair.1.at_time newest) / 3600 := by
    simp only [hsince, total_seconds, Int.cast_sub]
    ring
  simp only [Function.comp_apply, Prod.map, hhours]

variable (hfit : theil_sen z used = some fit) (htimes : used.Pairwise fun p q => p.at_time < q.at_time)
include hfit htimes

theorem fit_slope_le (hsteep : FallsSteeply rate (pair_slopes used)) :
    ∀ slope ∈ [fit.slope_per_hour, fit.slope_low_per_hour, fit.slope_high_per_hour],
      slope < 0 → slope ≤ -rate := by
  obtain ⟨newest, -, -, hsome, rfl⟩ := theil_sen_eq_some_iff.mp hfit
  have hranked := hsteep.perm (slopes_perm_pair_slopes newest.at_time htimes)
  have hlength := List.length_pos_of_ne_nil hsome
  have hrank (i : Nat) (hi : i < (slopes (coordinates newest.at_time used)).length)
      (hfalls : (slopes (coordinates newest.at_time used)).getD i 0 < 0) :
      (slopes (coordinates newest.at_time used)).getD i 0 ≤ -rate := by
    rw [List.getD_eq_getElem _ _ hi] at hfalls ⊢
    exact hranked.steep _ (List.getElem_mem _) hfalls
  simp only [List.forall_mem_cons, List.not_mem_nil, false_implies, implies_true, and_true]
  refine ⟨hranked.median_le, hrank _ ?_, hrank _ ?_⟩
  · unfold low_rank
    omega
  · unfold high_rank
    omega

/-- A falling line starts no higher than the highest sample. -/
theorem fit_value_le (hhigh : ∀ p ∈ used, p.value ≤ high) (hfalls : fit.slope_per_hour < 0) :
    fit.value_at_anchor ≤ high := by
  obtain ⟨newest, hnewest, -, -, rfl⟩ := theil_sen_eq_some_iff.mp hfit
  change intercept (coordinates newest.at_time used) ≤ high
  change median (slopes (coordinates newest.at_time used)) < 0 at hfalls
  have hentries : ∀ entry ∈ (coordinates newest.at_time used).map
      (fun point => point.2 - median (slopes (coordinates newest.at_time used)) * point.1), entry ≤ high := by
    intro entry hentry
    obtain ⟨point, hpoint, rfl⟩ := List.mem_map.mp hentry
    obtain ⟨p, hp, rfl⟩ := List.mem_map.mp hpoint
    have hbefore : p.at_time ≤ newest.at_time := by
      obtain ⟨earlier, rfl⟩ := List.getLast?_eq_some_iff.mp hnewest
      cases List.mem_append.mp hp with
      | inl hearlier =>
        exact ((List.pairwise_append.mp htimes).2.2 p hearlier newest (List.mem_singleton_self _)).le
      | inr hlast => exact le_of_eq (congrArg Point.at_time (List.mem_singleton.mp hlast))
    have hhours : (total_seconds (DataTime.since p.at_time newest.at_time) / 3600 : K) ≤ 0 := by
      have hmicros : DataTime.since p.at_time newest.at_time ≤ 0 := sub_nonpos.mpr hbefore
      have hcast : ((DataTime.since p.at_time newest.at_time : Int) : K) ≤ 0 := Int.cast_nonpos.mpr hmicros
      unfold total_seconds
      exact div_nonpos_of_nonpos_of_nonneg (div_nonpos_of_nonpos_of_nonneg hcast (by norm_num)) (by norm_num)
    have hrise := mul_nonneg_of_nonpos_of_nonpos hfalls.le hhours
    have hvalue := hhigh p hp
    simp only
    linarith
  apply median_le_of_most
  have hall := List.countP_eq_length.mpr fun entry hentry => decide_eq_true (hentries entry hentry)
  rw [hall]
  have hsome : used ≠ [] := by
    rintro rfl
    cases hnewest
  have hpositive := List.length_pos_of_ne_nil hsome
  simp only [List.length_map, coordinates]
  omega

omit hfit htimes

/-- From the highest value a line that falls at the rate for it comes down in time. -/
theorem delay_le {value_now target slope : K} {reach : Int} (hreach : 0 < reach)
    (hvalue : value_now ≤ high) (hslope : slope ≤ -((high - target) * 3600000000 / reach))
    (hfalls : slope < 0) :
    delay value_now target slope ≤ reach := by
  have hcast : (0 : K) < reach := Int.cast_pos.mpr hreach
  have hmicros : max 0 ((value_now - target) / -slope) * 3600000000 ≤ (reach : K) := by
    cases le_or_gt value_now target with
    | inl hbelow =>
      have hnothing : (value_now - target) / -slope ≤ 0 :=
        div_nonpos_of_nonpos_of_nonneg (sub_nonpos.mpr hbelow) (by linarith)
      rw [max_eq_left hnothing, zero_mul]
      exact hcast.le
    | inr habove =>
      have hhours : (value_now - target) / -slope * 3600000000 ≤ reach := by
        rw [div_mul_eq_mul_div, div_le_iff₀ (by linarith)]
        have hrate : (high - target) * 3600000000 / reach * reach = (high - target) * 3600000000 :=
          div_mul_cancel₀ _ hcast.ne'
        nlinarith [mul_le_mul_of_nonneg_right (neg_le_neg hslope) hcast.le]
      rcases max_cases 0 ((value_now - target) / -slope) with ⟨hmax, -⟩ | ⟨hmax, -⟩
      · rw [hmax, zero_mul]
        exact hcast.le
      · rw [hmax]
        exact hhours
  have hrounded := round_half_even_mono hmicros
  rwa [round_half_even_intCast] at hrounded

/-! ### The forecast of a steep series -/

variable {metric : Metric K} {samples : List (Sample UtcDatetime K)} {reach : Int}

/-- The crossing of a line that comes down in time. -/
theorem crossing_within {value_now target slope : K} {anchor : UtcDatetime}
    (hdelay : slope < 0 → delay value_now target slope ≤ reach) (hend : anchor.micros + reach < datetime_end) :
    ∃ result, crossing value_now target slope anchor = .ok result ∧
      ∀ t ∈ result, anchor ≤ t ∧ t.micros ≤ anchor.micros + reach := by
  obtain ⟨result, hresult⟩ := crossing_returns_iff.mpr fun hslope => by
    have hwithin := hdelay hslope
    exact (by omega : anchor.micros + delay value_now target slope < datetime_end)
  refine ⟨result, hresult, ?_⟩
  rintro t rfl
  obtain ⟨hslope, hsum⟩ := crossing_eq_some_iff.mp hresult
  have hwithin := hdelay hslope
  have hlater := delay_nonneg value_now target slope
  rw [UtcDatetime.le_iff]
  omega

/-- A fit whose lines come down in time has a forecast, and its crossings are not
    later than that. -/
theorem fit_reaches {newest : Point UtcDatetime K} (hreach : 0 < reach)
    (hvalue : fit.slope_per_hour < 0 → fit.value_at_anchor ≤ high)
    (hslopes : ∀ slope ∈ [fit.slope_per_hour, fit.slope_low_per_hour, fit.slope_high_per_hour],
      slope < 0 → slope ≤ -((high - metric.target) * 3600000000 / reach))
    (hroom : fit.anchor_at.micros + reach < datetime_end) :
    ∃ fc, forecast_of_fit metric newest fit = .ok fc ∧
      ∀ t, t ∈ fc.crosses_at ∨ t ∈ fc.crosses_at_earliest ∨ t ∈ fc.crosses_at_latest →
        fit.anchor_at ≤ t ∧ t.micros ≤ fit.anchor_at.micros + reach := by
  cases lt_or_ge fit.slope_per_hour 0 with
  | inl hfalls =>
    have hcrossing (slope : K)
        (hslope : slope ∈ [fit.slope_per_hour, fit.slope_low_per_hour, fit.slope_high_per_hour]) :
        ∃ result, fit.crossing metric.target slope = .ok result ∧
          ∀ t ∈ result, fit.anchor_at ≤ t ∧ t.micros ≤ fit.anchor_at.micros + reach :=
      crossing_within
        (fun hnegative => delay_le hreach (hvalue hfalls) (hslopes slope hslope hnegative) hnegative) hroom
    obtain ⟨crosses, hcrosses, hafter⟩ := hcrossing fit.slope_per_hour (by simp)
    obtain ⟨earliest, hearliest, hafter_earliest⟩ := hcrossing fit.slope_low_per_hour (by simp)
    obtain ⟨latest, hlatest, hafter_latest⟩ := hcrossing fit.slope_high_per_hour (by simp)
    cases crosses with
    | none => exact absurd (crossing_eq_none_iff.mp hcrosses) (not_le.mpr hfalls)
    | some crosses_at =>
      refine ⟨_, forecast_of_fit_eq_ok_iff.mpr
        (.inr ⟨crosses_at, earliest, latest, hcrosses, hearliest, hlatest, rfl⟩), ?_⟩
      intro t ht
      exact ht.elim (hafter t) fun ht => ht.elim (hafter_earliest t) (hafter_latest t)
  | inr hflat =>
    refine ⟨_, forecast_of_fit_eq_ok_iff.mpr (.inl ⟨crossing_eq_none_iff.mpr hflat, rfl⟩), ?_⟩
    rintro t (ht | ht | ht) <;> cases ht

omit [Field K] [IsStrictOrderedRing K] [FloorRing K] in
/-- Without a fit, a crossing is the time of the newest sample. -/
theorem Unfitted.crosses_newest {fc : Forecast UtcDatetime K} (h : Unfitted samples metric fc) {t : UtcDatetime}
    (ht : t ∈ fc.crosses_at ∨ t ∈ fc.crosses_at_earliest ∨ t ∈ fc.crosses_at_latest) :
    ∃ newest ∈ (points samples).getLast?, newest.at_time = t := by
  by_cases hbelow : fc.status = .at_or_below_target
  · obtain ⟨newest, hnewest, -, -, hcrosses, hearliest, hlatest⟩ := h.crossing hbelow
    rw [hcrosses, hearliest, hlatest] at ht
    exact ⟨newest, hnewest, by simpa using ht⟩
  · obtain ⟨hcrosses, hearliest, hlatest⟩ := h.no_crossing hbelow
    rw [hcrosses, hearliest, hlatest] at ht
    rcases ht with ht | ht | ht <;> cases ht

/-- A series whose lines come down in time has a forecast, and its crossings are
    not later than that. -/
theorem forecast_reaches (z : K) (hreach : 0 < reach) (hwithin : ReachesWithin metric reach samples)
    (hend : ∀ newest ∈ (points samples).getLast?, newest.at_time.micros + reach < datetime_end)
    (now : UtcDatetime) (window_start : Option UtcDatetime) :
    ∃ fc, forecast z samples metric now window_start = .ok fc ∧
      ∀ t, t ∈ fc.crosses_at ∨ t ∈ fc.crosses_at_earliest ∨ t ∈ fc.crosses_at_latest →
        ∃ newest ∈ (points samples).getLast?, newest.at_time ≤ t ∧
          t.micros ≤ newest.at_time.micros + reach := by
  by_cases hfitted : ∃ newest fit, Fitted z samples metric now window_start newest fit
  · obtain ⟨newest, fit, hfit⟩ := hfitted
    obtain ⟨own, hown, heq⟩ := hfit.fit_eq
    obtain ⟨high, hhigh, hsteep⟩ := hwithin
    have htimes : (fit_samples metric (points samples)).Pairwise fun p q => p.at_time < q.at_time :=
      (points_increasing hfit.valid).sublist
        (fit_samples_suffix metric (points_ne_nil hfit.newest_eq)).sublist
    have hanchor : fit.anchor_at = newest.at_time := by
      obtain ⟨last, hlast, -, -, rfl⟩ := theil_sen_eq_some_iff.mp hown
      rw [fit_samples_getLast? metric (points_ne_nil hfit.newest_eq), hfit.newest_eq,
        Option.some.injEq] at hlast
      rw [heq, hlast]
      rfl
    have hown_value := fit_value_le hown htimes hhigh
    have hown_slopes := fit_slope_le hown htimes hsteep
    have hvalue : fit.slope_per_hour < 0 → fit.value_at_anchor ≤ high := by
      rw [heq]
      exact hown_value
    have hslopes : ∀ slope ∈ [fit.slope_per_hour, fit.slope_low_per_hour, fit.slope_high_per_hour],
        slope < 0 → slope ≤ -((high - metric.target) * 3600000000 / reach) := by
      rw [heq]
      exact hown_slopes
    obtain ⟨fc, hfc, hcrosses⟩ := fit_reaches hreach hvalue hslopes (hanchor ▸ hend newest hfit.newest_eq)
    refine ⟨fc, (forecast_of_fitted hfit).trans hfc, fun t ht => ?_⟩
    exact ⟨newest, hfit.newest_eq, hanchor ▸ hcrosses t ht⟩
  · push Not at hfitted
    obtain ⟨fc, hfc, hunfitted⟩ := forecast_unfitted hfitted
    refine ⟨fc, hfc, fun t ht => ?_⟩
    obtain ⟨newest, hnewest, rfl⟩ := hunfitted.crosses_newest ht
    exact ⟨newest, hnewest, le_refl _, by omega⟩

end planter_telemetry.analytics.model
