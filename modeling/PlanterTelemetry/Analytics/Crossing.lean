import PlanterTelemetry.Analytics.Outcome

open planter_telemetry.python

namespace planter_telemetry.analytics.model

/-! ### Crossings in any time -/

section Crossings

variable {T K : Type} [DataTime T] [Field K] [LinearOrder K] [FloorRing K] {metric : Metric K}
  {newest : Point T K} {fit : Fit T K} {value_now target slope : K} {anchor : T}

/-- A crossing is a sum of the anchor and the delay that its line takes. -/
theorem crossing_eq_ok_iff {result : Option T} :
    crossing value_now target slope anchor = .ok result ↔
      (0 ≤ slope ∧ result = none) ∨ ∃ delta crosses_at, ¬ 0 ≤ slope ∧
        timedelta_hours (max 0 ((value_now - target) / -slope)) = .ok delta ∧
        DataTime.plus anchor delta = .ok crosses_at ∧ result = some crosses_at := by
  unfold crossing
  split
  · next h => simp [h, eq_comm]
  · next h =>
    cases hdelta : timedelta_hours (max 0 ((value_now - target) / -slope)) with
    | error error => simp [h, hdelta, bind, Except.bind]
    | ok delta =>
      cases hplus : DataTime.plus anchor delta with
      | error error => simp [h, hdelta, hplus, bind, Except.bind]
      | ok crosses_at => simp [h, hdelta, hplus, bind, Except.bind, eq_comm]

/-- The three crossings of a fit decide what it returns. -/
theorem forecast_of_fit_ok_iff {fc : Forecast T K} : forecast_of_fit metric newest fit = .ok fc ↔
    ∃ crosses_at, crossing fit.value_at_anchor metric.target fit.slope_per_hour fit.anchor_at =
        .ok crosses_at ∧
      match crosses_at with
      | none => fc = no_crossing metric .not_depleting (some newest.at_time) (some newest.value) (some fit)
      | some crosses_at => ∃ earliest latest,
        crossing fit.value_at_anchor metric.target fit.slope_low_per_hour fit.anchor_at = .ok earliest ∧
        crossing fit.value_at_anchor metric.target fit.slope_high_per_hour fit.anchor_at = .ok latest ∧
        fc = {
          kind := metric.kind
          status := if metric.max_horizon_seconds <
              total_seconds (DataTime.since crosses_at fit.anchor_at) then .beyond_horizon else .ok
          as_of := some newest.at_time
          target := metric.target
          latest_value := some newest.value
          crosses_at := some crosses_at
          crosses_at_earliest := earliest
          crosses_at_latest := latest
          fit := some fit } := by
  unfold forecast_of_fit
  cases crossing fit.value_at_anchor metric.target fit.slope_per_hour fit.anchor_at with
  | error error => simp [bind, Except.bind]
  | ok crosses_at =>
    cases crosses_at with
    | none => simp [bind, Except.bind, eq_comm]
    | some crosses_at =>
      cases crossing fit.value_at_anchor metric.target fit.slope_low_per_hour fit.anchor_at with
      | error error => simp [bind, Except.bind]
      | ok earliest =>
        cases crossing fit.value_at_anchor metric.target fit.slope_high_per_hour fit.anchor_at with
        | error error => simp [bind, Except.bind]
        | ok latest => simp [bind, Except.bind, eq_comm]

end Crossings

variable {K : Type} [Field K] [LinearOrder K] [IsStrictOrderedRing K] [FloorRing K]

/-! ### When a line reaches the target -/

section Line

variable {value_now target slope steeper : K} {anchor crosses_at : UtcDatetime}

/-- The microseconds after the anchor, for a falling line. -/
def delay (value_now target slope : K) : Int :=
  round_half_even (max 0 ((value_now - target) / -slope) * 3600000000)

theorem delay_nonneg (value_now target slope : K) : 0 ≤ delay value_now target slope := by
  apply round_half_even_nonneg
  exact mul_nonneg (le_max_left _ _) (by norm_num)

/-- A steeper line reaches the target no later. -/
theorem delay_mono (value_now target : K) (hsteeper : steeper ≤ slope) (hslope : slope < 0) :
    delay value_now target steeper ≤ delay value_now target slope := by
  apply round_half_even_mono
  apply mul_le_mul_of_nonneg_right _ (by norm_num)
  cases le_total value_now target with
  | inl hbelow =>
    have hnegative : (value_now - target) / -steeper ≤ 0 :=
      div_nonpos_of_nonpos_of_nonneg (sub_nonpos.mpr hbelow) (by linarith)
    rw [max_eq_left hnegative]
    exact le_max_left _ _
  | inr habove =>
    apply max_le_max (le_refl 0)
    exact div_le_div_of_nonneg_left (sub_nonneg.mpr habove) (by linarith) (by linarith)

omit [IsStrictOrderedRing K] in
theorem crossing_eq_none_iff :
    crossing value_now target slope anchor = .ok none ↔ 0 ≤ slope := by
  rw [crossing_eq_ok_iff]
  constructor
  · rintro (⟨hslope, -⟩ | ⟨_, _, -, -, -, hsome⟩)
    · exact hslope
    · cases hsome
  · exact fun hslope => .inl ⟨hslope, rfl⟩

/-- `timedelta` takes any distance between two datetimes. -/
theorem timedelta_ok {micros : Int} (hlow : 0 ≤ micros) (hhigh : micros < datetime_end) :
    timedelta micros = .ok micros := by
  unfold datetime_end at hhigh
  unfold timedelta
  rw [if_pos]
  unfold day second at *
  omega

theorem crossing_eq_some_iff :
    crossing value_now target slope anchor = .ok (some crosses_at) ↔
      slope < 0 ∧ crosses_at.micros = anchor.micros + delay value_now target slope := by
  unfold crossing
  split
  · next h => simp [not_lt.mpr h]
  · next h =>
    simp only [not_le.mp h, true_and]
    constructor
    · intro hok
      cases hhours : timedelta_hours (max 0 ((value_now - target) / -slope)) with
      | error error => simp [hhours, bind, Except.bind] at hok
      | ok delta =>
        cases hplus : DataTime.plus anchor delta with
        | error error => simp [hhours, hplus, bind, Except.bind] at hok
        | ok result =>
          simp only [hhours, hplus, bind, Except.bind, Except.ok.injEq, Option.some.injEq] at hok
          have hdelta : delta = delay value_now target slope := by
            unfold timedelta_hours timedelta at hhours
            split at hhours
            · exact (Except.ok.inj hhours).symm
            · cases hhours
          rw [← hok, ← hdelta]
          exact UtcDatetime.add_ok_iff.mp hplus
    · intro hsum
      have hend := crosses_at.range.2
      have hstart := anchor.range.1
      have hlate : delay value_now target slope < datetime_end := by omega
      have hhours : timedelta_hours (max 0 ((value_now - target) / -slope)) =
          .ok (delay value_now target slope) := timedelta_ok (delay_nonneg _ _ _) hlate
      have hplus : DataTime.plus anchor (delay value_now target slope) = .ok crosses_at :=
        UtcDatetime.add_ok_iff.mpr hsum
      simp [hhours, hplus, bind, Except.bind]

/-- `_crossing` returns unless the line falls and reaches the target past the last datetime. -/
theorem crossing_returns_iff :
    (∃ result, crossing value_now target slope anchor = .ok result) ↔
      (slope < 0 → anchor.micros + delay value_now target slope < datetime_end) := by
  constructor
  · rintro ⟨result, hresult⟩ hslope
    cases result with
    | none => exact absurd (crossing_eq_none_iff.mp hresult) (not_le.mpr hslope)
    | some crosses_at =>
      rw [← (crossing_eq_some_iff.mp hresult).2]
      exact crosses_at.range.2
  · intro hend
    cases lt_or_ge slope 0 with
    | inl hslope =>
      have hdelay := delay_nonneg value_now target slope
      have hstart := anchor.range.1
      have hrange : Representable (anchor.micros + delay value_now target slope) :=
        ⟨by omega, hend hslope⟩
      exact ⟨some ⟨_, hrange⟩, crossing_eq_some_iff.mpr ⟨hslope, rfl⟩⟩
    | inr hslope => exact ⟨none, crossing_eq_none_iff.mpr hslope⟩

end Line

/-! ### The forecast of a fit -/

section OfFit

variable {metric : Metric K} {newest : Point UtcDatetime K} {fit : Fit UtcDatetime K}
  {fc : Forecast UtcDatetime K} {crosses_at : UtcDatetime} {earliest latest : Option UtcDatetime}

/-- When the fit's line, taken with the given slope, reaches the target. -/
def Fit.crossing (fit : Fit UtcDatetime K) (target slope : K) : Except PyError (Option UtcDatetime) :=
  model.crossing fit.value_at_anchor target slope fit.anchor_at

/-- The forecast of a fit that crosses the target. -/
def crossing_forecast (metric : Metric K) (newest : Point UtcDatetime K) (fit : Fit UtcDatetime K)
    (crosses_at : UtcDatetime) (earliest latest : Option UtcDatetime) : Forecast UtcDatetime K where
  kind := metric.kind
  status := if metric.max_horizon_seconds < total_seconds (DataTime.since crosses_at fit.anchor_at)
    then .beyond_horizon else .ok
  as_of := some newest.at_time
  target := metric.target
  latest_value := some newest.value
  crosses_at := some crosses_at
  crosses_at_earliest := earliest
  crosses_at_latest := latest
  fit := some fit

omit [IsStrictOrderedRing K] in
theorem forecast_of_fit_eq_ok_iff : forecast_of_fit metric newest fit = .ok fc ↔
    (fit.crossing metric.target fit.slope_per_hour = .ok none ∧
      fc = no_crossing metric .not_depleting (some newest.at_time) (some newest.value) (some fit)) ∨
    ∃ crosses_at earliest latest,
      fit.crossing metric.target fit.slope_per_hour = .ok (some crosses_at) ∧
      fit.crossing metric.target fit.slope_low_per_hour = .ok earliest ∧
      fit.crossing metric.target fit.slope_high_per_hour = .ok latest ∧
      fc = crossing_forecast metric newest fit crosses_at earliest latest := by
  rw [forecast_of_fit_ok_iff]
  constructor
  · rintro ⟨crosses_at, hcrosses, hrest⟩
    cases crosses_at with
    | none => exact .inl ⟨hcrosses, hrest⟩
    | some crosses_at =>
      obtain ⟨earliest, latest, hearliest, hlatest, hfc⟩ := hrest
      exact .inr ⟨crosses_at, earliest, latest, hcrosses, hearliest, hlatest, hfc⟩
  · rintro (⟨hcrosses, hfc⟩ | ⟨crosses_at, earliest, latest, hcrosses, hearliest, hlatest, hfc⟩)
    · exact ⟨none, hcrosses, hfc⟩
    · exact ⟨some crosses_at, hcrosses, earliest, latest, hearliest, hlatest, hfc⟩

end OfFit

end planter_telemetry.analytics.model
