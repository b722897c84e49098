import PlanterTelemetry.Python
import Mathlib.Data.List.Sort
import Mathlib.Data.Nat.Sqrt
import Mathlib.Data.Rat.Floor

open planter_telemetry.python

namespace planter_telemetry.analytics.model

def MIN_FIT_POINTS : Nat := 3

/-- One observation as it is read: device time and a float. -/
structure Sample (T K : Type) where
  at_time : T
  value : PyFloat K
  deriving DecidableEq

/-- One observation of a valid series, whose value is a number. -/
structure Point (T K : Type) where
  at_time : T
  value : K
  deriving DecidableEq

/-- The per-kind constants; `kind` is the discriminator in the database. -/
structure Metric (K : Type) where
  kind : String
  target : K
  refill_jump : K
  min_points : Nat
  min_span_seconds : K
  max_fit_points : Nat
  lookback_seconds : K
  gap_factor : K
  stale_after_seconds : K
  max_horizon_seconds : K
  alert_horizon_seconds : K
  deriving DecidableEq

def WATER : Metric ℚ where
  kind := "water"
  target := 10
  refill_jump := 5
  min_points := 36
  min_span_seconds := 3 * 3600
  max_fit_points := 300
  lookback_seconds := 10 * 86400
  gap_factor := 6
  stale_after_seconds := 1800
  max_horizon_seconds := 30 * 86400
  alert_horizon_seconds := 2 * 86400

def BATTERY : Metric ℚ where
  kind := "battery"
  target := 34 / 10
  refill_jump := 5 / 100
  min_points := 144
  min_span_seconds := 12 * 3600
  max_fit_points := 300
  lookback_seconds := 35 * 86400
  gap_factor := 6
  stale_after_seconds := 1800
  max_horizon_seconds := 60 * 86400
  alert_horizon_seconds := 3 * 86400

def METRICS : List (Metric ℚ) := [WATER, BATTERY]

inductive Status where
  | ok
  | no_data
  | stale
  | invalid_series
  | insufficient_points
  | insufficient_span
  | at_or_below_target
  | not_depleting
  | beyond_horizon
  deriving DecidableEq, Repr

/-- `CROSSING_STATUSES`. -/
def Status.crossing : Status → Bool
  | .ok | .beyond_horizon | .at_or_below_target => true
  | _ => false

structure Fit (T K : Type) where
  slope_per_hour : K
  slope_low_per_hour : K
  slope_high_per_hour : K
  value_at_anchor : K
  anchor_at : T
  residual_mad : K
  points : Nat
  segment_points : Nat
  span_seconds : K
  truncated : Bool
  deriving DecidableEq

structure Forecast (T K : Type) where
  kind : String
  status : Status
  as_of : Option T
  target : K
  latest_value : Option K
  crosses_at : Option T
  crosses_at_earliest : Option T
  crosses_at_latest : Option T
  fit : Option (Fit T K)
  deriving DecidableEq

/-- `itertools.pairwise`. -/
def pairwise {α : Type} (items : List α) : List (α × α) := items.zip items.tail

section Series

variable {T K : Type} [DataTime T]

/-- `_is_valid_series`. -/
def is_valid_series (samples : List (Sample T K)) : Bool :=
  samples.all (fun sample => sample.value.isfinite && DataTime.aware sample.at_time) &&
    (pairwise samples).all (fun (a, b) => DataTime.before a.at_time b.at_time)

/-- The numbers of a series, for a valid one sample by sample. -/
def points (samples : List (Sample T K)) : List (Point T K) :=
  samples.filterMap fun sample => sample.value.number?.map (fun value => ⟨sample.at_time, value⟩)

variable [Field K] [LinearOrder K] [FloorRing K]

/-- `statistics.median`. -/
def median (values : List K) : K :=
  let sorted := values.insertionSort (· ≤ ·)
  let n := sorted.length
  if n % 2 = 1 then sorted.getD (n / 2) 0
  else (sorted.getD (n / 2 - 1) 0 + sorted.getD (n / 2) 0) / 2

def cadence_seconds (samples : List (Point T K)) : Option K :=
  let deltas := (pairwise samples).map fun (a, b) =>
    (total_seconds (DataTime.since b.at_time a.at_time) : K)
  let positive := deltas.filter (fun delta => 0 < delta)
  if positive = [] then none else some (median positive)

/-- `(b.at - a.at).total_seconds() > gap_limit`, with `none` for `math.inf`. -/
def exceeds_gap (gap_limit : Option K) (a b : Point T K) : Bool :=
  match gap_limit with
  | none => false
  | some limit => decide (limit < total_seconds (DataTime.since b.at_time a.at_time))

/-- `series[start:stop]`. -/
def slice {α : Type} (series : List α) (start stop : Nat) : List α :=
  (series.drop start).take (stop - start)

/-- One turn of the loop: the segments closed so far and where the open one
    starts. -/
def split_step (series : List (Point T K)) (jump : K) (gap_limit : Option K)
    (state : List (List (Point T K)) × Nat) (turn : Nat × Point T K × Point T K) :
    List (List (Point T K)) × Nat :=
  let (segments, start) := state
  let (index, a, b) := turn
  if jump ≤ b.value - a.value ∨ exceeds_gap gap_limit a b then
    (segments ++ [slice series start index], index)
  else (segments, start)

def split_segments (samples : List (Point T K)) (jump gap_factor : K) : List (List (Point T K)) :=
  if samples.length < 2 then
    if samples = [] then [] else [samples]
  else
    let gap_limit := (cadence_seconds samples).map (· * gap_factor)
    let turns := (pairwise samples).mapIdx fun i pair => (i + 1, pair)
    let (segments, start) := turns.foldl (split_step samples jump gap_limit) ([], 0)
    segments ++ [samples.drop start]

/-- Every `(items[i], items[j])` with `i < j`, in the order of the double loop. -/
def pairs {α : Type} : List α → List (α × α)
  | [] => []
  | item :: rest => rest.map (fun other => (item, other)) ++ pairs rest

/-- The least natural number whose square is at least `n`. -/
def ceil_sqrt (n : Nat) : Nat := if n.sqrt * n.sqrt = n then n.sqrt else n.sqrt + 1

/-- `z * sqrt(n(n-1)(2n+5)/18)`, rounded up. The ranks only depend on it, as
    `floor((m - spread) / 2)` and `ceil((m + spread) / 2)` for an integer `m`. -/
def rank_spread (z : K) (n : Nat) : Nat :=
  ceil_sqrt (⌈z * z * ((n * (n - 1) * (2 * n + 5) : Nat) : K) / 18⌉).toNat

def low_rank (spread m : Nat) : Nat := min ((m - spread) / 2) (m - 1)
def high_rank (spread m : Nat) : Nat := min ((m + spread + 1) / 2) (m - 1)

/-- The fit of a series; `z` is the normal quantile of the confidence level. -/
def theil_sen (z : K) (samples : List (Point T K)) : Option (Fit T K) :=
  match samples.getLast? with
  | none => none
  | some newest =>
    let n := samples.length
    if n < MIN_FIT_POINTS then none
    else
      let coordinates : List (K × K) := samples.map fun s =>
        (total_seconds (DataTime.since s.at_time newest.at_time) / 3600, s.value)
      let slopes := (((pairs coordinates).filter fun (p, q) => decide (q.1 ≠ p.1)).map
        fun (p, q) => (q.2 - p.2) / (q.1 - p.1)).insertionSort (· ≤ ·)
      let m := slopes.length
      if m = 0 then none
      else
        let slope := median slopes
        let spread := rank_spread z n
        let intercept := median (coordinates.map fun (x, y) => y - slope * x)
        let residual_mad := median (coordinates.map fun (x, y) => |y - (slope * x + intercept)|)
        some {
          slope_per_hour := slope
          slope_low_per_hour := slopes.getD (low_rank spread m) 0
          slope_high_per_hour := slopes.getD (high_rank spread m) 0
          value_at_anchor := intercept
          anchor_at := newest.at_time
          residual_mad := residual_mad
          points := n
          segment_points := n
          span_seconds := -(coordinates.headD (0, 0)).1 * 3600
          truncated := false }

/-- `_crossing`: when the line from `(anchor, value_now)` reaches the target. -/
def crossing (value_now target slope_per_hour : K) (anchor : T) : Except PyError (Option T) :=
  if 0 ≤ slope_per_hour then .ok none
  else do
    let hours := max 0 ((value_now - target) / -slope_per_hour)
    let delta ← timedelta_hours hours
    let crosses_at ← DataTime.plus anchor delta
    .ok (some crosses_at)

def no_crossing (metric : Metric K) (status : Status) (as_of : Option T) (latest : Option K)
    (fit : Option (Fit T K)) : Forecast T K where
  kind := metric.kind
  status := status
  as_of := as_of
  target := metric.target
  latest_value := latest
  crosses_at := none
  crosses_at_earliest := none
  crosses_at_latest := none
  fit := fit

/-- The staleness limit: the metric's floor, raised to `gap_factor` times the
    series' own cadence. -/
def stale_limit (metric : Metric K) (cadence : Option K) : K :=
  match cadence with
  | none => metric.stale_after_seconds
  | some cadence => max metric.stale_after_seconds (cadence * metric.gap_factor)

/-- `segment[-count:]`. -/
def last_points {α : Type} (count : Nat) (segment : List α) : List α :=
  if count = 0 then segment else segment.drop (segment.length - count)

/-- The end of `forecast`, once the newest segment has a fit. -/
def forecast_of_fit (metric : Metric K) (newest : Point T K) (fit : Fit T K) :
    Except PyError (Forecast T K) := do
  match ← crossing fit.value_at_anchor metric.target fit.slope_per_hour fit.anchor_at with
  | none => .ok (no_crossing metric .not_depleting (some newest.at_time) (some newest.value) (some fit))
  | some crosses_at =>
    let horizon : K := total_seconds (DataTime.since crosses_at fit.anchor_at)
    let status := if metric.max_horizon_seconds < horizon then Status.beyond_horizon else Status.ok
    let earliest ← crossing fit.value_at_anchor metric.target fit.slope_low_per_hour fit.anchor_at
    let latest ← crossing fit.value_at_anchor metric.target fit.slope_high_per_hour fit.anchor_at
    .ok {
      kind := metric.kind
      status := status
      as_of := some newest.at_time
      target := metric.target
      latest_value := some newest.value
      crosses_at := some crosses_at
      crosses_at_earliest := earliest
      crosses_at_latest := latest
      fit := some fit }

/-- The part of `forecast` behind the staleness and target checks: the gates,
    the fit of the newest segment and its truncation flag. -/
def forecast_of_segments (z : K) (metric : Metric K) (window_start : Option T)
    (cadence : Option K) (newest : Point T K) (segments : List (List (Point T K))) :
    Except PyError (Forecast T K) :=
  let refuse (status : Status) : Except PyError (Forecast T K) :=
    .ok (no_crossing metric status (some newest.at_time) (some newest.value) none)
  let segment := segments.getLastD []
  if segment.length < metric.min_points then refuse .insufficient_points
  else
    let fit_samples := last_points metric.max_fit_points segment
    match fit_samples.head?, fit_samples.getLast? with
    | some first, some last =>
      if total_seconds (DataTime.since last.at_time first.at_time) < metric.min_span_seconds then
        refuse .insufficient_span
      else
        match theil_sen z fit_samples with
        | none => refuse .insufficient_points
        | some fit =>
          let edge_slack := match cadence with
            | none => 0
            | some cadence => cadence * metric.gap_factor
          let reached_edge := match window_start, segment.head? with
            | some edge, some oldest =>
              decide (total_seconds (DataTime.since oldest.at_time edge) ≤ edge_slack)
            | _, _ => true
          forecast_of_fit metric newest
            { fit with segment_points := segment.length
                       truncated := decide (segments.length = 1) && reached_edge }
    -- a segment is never empty, so the slice always has both ends
    | _, _ => refuse .insufficient_points

def forecast (z : K) (samples : List (Sample T K)) (metric : Metric K) (now_data_time : T)
    (window_start : Option T) : Except PyError (Forecast T K) :=
  match samples.getLast? with
  | none => .ok (no_crossing metric .no_data none none none)
  | some newest_sample =>
    if !is_valid_series samples || !DataTime.aware now_data_time then
      let as_of := if DataTime.aware newest_sample.at_time then some newest_sample.at_time else none
      .ok (no_crossing metric .invalid_series as_of newest_sample.value.number? none)
    else
      let series := points samples
      match series.getLast? with
      -- every sample of a valid series is a point, so there is a newest one
      | none => .ok (no_crossing metric .no_data none none none)
      | some newest =>
        let cadence := cadence_seconds series
        if stale_limit metric cadence <
            total_seconds (DataTime.since now_data_time newest.at_time) then
          .ok (no_crossing metric .stale (some newest.at_time) (some newest.value) none)
        else if newest.value ≤ metric.target then
          .ok {
            kind := metric.kind
            status := .at_or_below_target
            as_of := some newest.at_time
            target := metric.target
            latest_value := some newest.value
            crosses_at := some newest.at_time
            crosses_at_earliest := some newest.at_time
            crosses_at_latest := some newest.at_time
            fit := none }
        else
          forecast_of_segments z metric window_start cadence newest
            (split_segments series metric.refill_jump metric.gap_factor)

end Series

/-! ### Alert transitions -/

/-- The two values of `alert_events.state`. -/
inductive AlertTransition where
  | firing
  | cleared
  deriving DecidableEq, Repr

/-- The latest recorded alert decision for one (device, kind). -/
structure AlertState (T : Type) where
  state : AlertTransition
  as_of : T
  deriving DecidableEq

section Alerts

variable {T K : Type} [DataTime T] [Field K] [LinearOrder K]

/-- `max((crosses_at - as_of).total_seconds(), 0.0)`. -/
def horizon_seconds (crosses_at as_of : T) : K :=
  max (total_seconds (DataTime.since crosses_at as_of)) 0

def alert_transition (fc : Forecast T K) (metric : Metric K) (previous : Option (AlertState T))
    (cooldown_seconds clear_factor : K) : Option AlertTransition :=
  match fc.crosses_at, fc.as_of with
  | some crosses_at, some as_of =>
    let horizon : K := horizon_seconds crosses_at as_of
    if horizon ≤ metric.alert_horizon_seconds then
      match previous with
      | none => some .firing
      | some previous =>
        if previous.state = .cleared then some .firing
        else if cooldown_seconds ≤ total_seconds (DataTime.since as_of previous.as_of) then
          some .firing
        else none
    else
      match previous with
      | none => none
      | some previous =>
        if previous.state = .firing ∧ metric.alert_horizon_seconds * clear_factor < horizon then
          some .cleared
        else none
  | _, _ => none

variable {fc : Forecast T K} {metric : Metric K} {previous : Option (AlertState T)}
  {cooldown_seconds clear_factor : K}

/-- An alert fires on a short horizon, unless a firing decision is latest and
    its cooldown has not passed. -/
theorem alert_transition_eq_firing_iff :
    alert_transition fc metric previous cooldown_seconds clear_factor = some .firing ↔
      ∃ crosses_at as_of, fc.crosses_at = some crosses_at ∧ fc.as_of = some as_of ∧
        horizon_seconds crosses_at as_of ≤ metric.alert_horizon_seconds ∧
        ∀ latest, previous = some latest → latest.state = .firing →
          cooldown_seconds ≤ total_seconds (DataTime.since as_of latest.as_of) := by
  unfold alert_transition
  cases hcrosses : fc.crosses_at with
  | none => simp
  | some crosses_at =>
    cases has : fc.as_of with
    | none => simp
    | some as_of =>
      by_cases hshort : (horizon_seconds crosses_at as_of : K) ≤ metric.alert_horizon_seconds
      · cases previous with
        | none => simp [hshort]
        | some latest => cases hstate : latest.state <;> simp [hshort, hstate]
      · cases previous with
        | none => simp [hshort]
        | some latest => simp [hshort]

/-- An alert clears on a horizon past the hysteresis, if a firing decision is
    latest. -/
theorem alert_transition_eq_cleared_iff :
    alert_transition fc metric previous cooldown_seconds clear_factor = some .cleared ↔
      ∃ crosses_at as_of, fc.crosses_at = some crosses_at ∧ fc.as_of = some as_of ∧
        metric.alert_horizon_seconds < horizon_seconds crosses_at as_of ∧
        metric.alert_horizon_seconds * clear_factor < horizon_seconds crosses_at as_of ∧
        ∃ latest, previous = some latest ∧ latest.state = .firing := by
  unfold alert_transition
  cases hcrosses : fc.crosses_at with
  | none => simp
  | some crosses_at =>
    cases has : fc.as_of with
    | none => simp
    | some as_of =>
      by_cases hshort : (horizon_seconds crosses_at as_of : K) ≤ metric.alert_horizon_seconds
      · cases previous with
        | none => simp [hshort]
        | some latest => cases hstate : latest.state <;> simp [hshort, hstate]
      · cases previous with
        | none => simp [hshort]
        | some latest => simp [hshort, and_comm, not_le.mp hshort]

/-- What a transition decides depends on the horizon alone: whichever decision
    is latest, a short horizon never clears and a long one never fires. -/
theorem alert_transition_kind {first second : AlertTransition} {other : Option (AlertState T)}
    (hfirst : alert_transition fc metric previous cooldown_seconds clear_factor = some first)
    (hsecond : alert_transition fc metric other cooldown_seconds clear_factor = some second) :
    first = second := by
  cases first with
  | firing =>
    obtain ⟨c, a, hc, ha, hshort, -⟩ := alert_transition_eq_firing_iff.mp hfirst
    cases second with
    | firing => rfl
    | cleared =>
      obtain ⟨c', a', hc', ha', hlong, -⟩ := alert_transition_eq_cleared_iff.mp hsecond
      obtain rfl : c = c' := Option.some.inj (hc.symm.trans hc')
      obtain rfl : a = a' := Option.some.inj (ha.symm.trans ha')
      exact absurd hshort (not_le.mpr hlong)
  | cleared =>
    obtain ⟨c, a, hc, ha, hlong, -⟩ := alert_transition_eq_cleared_iff.mp hfirst
    cases second with
    | cleared => rfl
    | firing =>
      obtain ⟨c', a', hc', ha', hshort, -⟩ := alert_transition_eq_firing_iff.mp hsecond
      obtain rfl : c = c' := Option.some.inj (hc.symm.trans hc')
      obtain rfl : a = a' := Option.some.inj (ha.symm.trans ha')
      exact absurd hshort (not_le.mpr hlong)

end Alerts

end planter_telemetry.analytics.model
