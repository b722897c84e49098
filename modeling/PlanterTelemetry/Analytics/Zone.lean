import Mathlib.Data.Set.List
import PlanterTelemetry.Analytics.Descent
import PlanterTelemetry.Analytics.Record
import PlanterTelemetry.Analytics.TimeMap

namespace planter_telemetry.python

/-! ### Datetimes with a tzinfo -/

/-- A tzinfo: the UTC offset at every wall-clock time and fold. -/
structure Zone where
  utcoffset : Int → Bool → Int
  bounded : ∀ wall fold, -day < utcoffset wall fold ∧ utcoffset wall fold < day

namespace Zone

def utc : Zone := ⟨fun _ _ => 0, fun _ _ => by decide⟩

end Zone

/-- A datetime whose tzinfo is the given object. -/
@[ext]
structure ZonedDatetime (zone : Zone) where
  wall : Int
  fold : Bool
  range : Representable wall

instance (zone : Zone) : DecidableEq (ZonedDatetime zone) :=
  fun _ _ => decidable_of_iff _ ZonedDatetime.ext_iff.symm

/-- A point of the time line, without the limits of a calendar. -/
structure Instant where
  micros : Int
  deriving DecidableEq

namespace ZonedDatetime

variable {zone : Zone}

def instant (value : ZonedDatetime zone) : Instant :=
  ⟨value.wall - zone.utcoffset value.wall value.fold⟩

/-- `datetime + timedelta`: on the wall clock, and with fold 0. -/
def add (value : ZonedDatetime zone) (delta : Int) : Except PyError (ZonedDatetime zone) :=
  if h : Representable (value.wall + delta) then .ok ⟨value.wall + delta, false, h⟩
  else .error out_of_range

theorem add_wall {value result : ZonedDatetime zone} {delta : Int} (h : value.add delta = .ok result) :
    result.wall = value.wall + delta := by
  unfold add at h
  split at h
  · cases h
    rfl
  · cases h

/-- Two datetimes of one tzinfo are compared and subtracted by their wall clocks. -/
instance : DataTime (ZonedDatetime zone) where
  aware _ := true
  before a b := decide (a.wall < b.wall)
  since a b := a.wall - b.wall
  plus := add

end ZonedDatetime

instance : DataTime Instant where
  aware _ := true
  before a b := decide (a.micros < b.micros)
  since a b := a.micros - b.micros
  plus a delta := .ok ⟨a.micros + delta⟩

/-- A datetime at which the tzinfo has the given offset. -/
structure SteadyDatetime (zone : Zone) (offset : Int) where
  value : ZonedDatetime zone
  steady : zone.utcoffset value.wall value.fold = offset

namespace SteadyDatetime

variable {zone : Zone} {offset : Int}

/-- A sum that leaves the offset is refused. -/
def add (steady : SteadyDatetime zone offset) (delta : Int) : Except PyError (SteadyDatetime zone offset) :=
  steady.value.add delta |>.bind fun value =>
    if h : zone.utcoffset value.wall value.fold = offset then .ok ⟨value, h⟩ else .error out_of_range

instance : DataTime (SteadyDatetime zone offset) where
  aware _ := true
  before a b := DataTime.before a.value b.value
  since a b := DataTime.since a.value b.value
  plus := add

def instant (steady : SteadyDatetime zone offset) : Instant := steady.value.instant

/-- The same fields in UTC. -/
def naive (steady : SteadyDatetime zone offset) : UtcDatetime := ⟨steady.value.wall, steady.value.range⟩

theorem instant_eq (steady : SteadyDatetime zone offset) :
    steady.instant = ⟨steady.value.wall - offset⟩ := by
  simp only [instant, ZonedDatetime.instant, steady.steady]

theorem add_ok_iff {steady result : SteadyDatetime zone offset} {delta : Int} :
    steady.add delta = .ok result ↔ steady.value.add delta = .ok result.value := by
  unfold add
  cases steady.value.add delta with
  | error error =>
    constructor
    · intro h
      cases h
    · intro h
      cases h
  | ok value =>
    simp only [Except.bind, Except.ok.injEq]
    constructor
    · intro h
      split at h
      · cases h
        rfl
      · cases h
    · rintro rfl
      exact dif_pos result.steady

end SteadyDatetime

end planter_telemetry.python

open planter_telemetry.python

namespace planter_telemetry.analytics.model

/-! ### Calls of the forecast -/

/-- The datetimes of one call of `forecast`, and the values between them. -/
structure Call (T : Type) where
  samples : List (Sample T ℚ)
  now : T
  window_start : Option T
  deriving DecidableEq

namespace Call

variable {T T' : Type}

def map (f : T → T') (call : Call T) : Call T' :=
  ⟨call.samples.map (Sample.map f), f call.now, call.window_start.map f⟩

def times (call : Call T) : List T :=
  call.samples.map Sample.at_time ++ call.now :: call.window_start.toList

def run [DataTime T] (z : ℚ) (metric : Metric ℚ) (call : Call T) : Except PyError (Forecast T ℚ) :=
  forecast z call.samples metric call.now call.window_start

theorem map_map {T'' : Type} (f : T → T') (g : T' → T'') (call : Call T) :
    (call.map f).map g = call.map (g ∘ f) := by
  simp only [map, List.map_map, Option.map_map, Function.comp_apply, Call.mk.injEq, and_true]
  exact List.map_congr_left fun sample _ => rfl

/-- A call all of whose datetimes are images under `f` is itself an image. -/
theorem exists_of_times {f : T → T'} {call : Call T'} (h : ∀ t ∈ call.times, ∃ own, f own = t) :
    ∃ own : Call T, own.map f = call := by
  obtain ⟨samples, now, window_start⟩ := call
  obtain ⟨own_now, hnow⟩ := h now (List.mem_append_right _ List.mem_cons_self)
  obtain ⟨own_start, hstart⟩ : ∃ own : Option T, own.map f = window_start := by
    cases window_start with
    | none => exact ⟨none, rfl⟩
    | some edge =>
      obtain ⟨own, hown⟩ := h edge (by simp [times])
      exact ⟨some own, congrArg some hown⟩
  obtain ⟨own_samples, hsamples⟩ : ∃ own : List (Sample T ℚ), own.map (Sample.map f) = samples := by
    apply (Set.ext_iff.mp (Set.range_list_map (Sample.map f)) samples).mpr
    intro sample hsample
    obtain ⟨own, hown⟩ := h sample.at_time (List.mem_append_left _ (List.mem_map_of_mem hsample))
    exact ⟨⟨own, sample.value⟩, by rw [Sample.map, hown]⟩
  exact ⟨⟨own_samples, own_now, own_start⟩, by rw [map, hnow, hstart, hsamples]⟩

end Call

theorem Forecast.map_map {T T' T'' : Type} (f : T → T') (g : T' → T'') (fc : Forecast T ℚ) :
    (fc.map f).map g = fc.map (g ∘ f) := by
  simp only [Forecast.map, Option.map_map]
  rfl

/-! ### One offset -/

/-- The offset is one and the same at all datetimes of a call and, for so many
    microseconds, at all local times after its newest value, which the calendar
    has. -/
def Steady {zone : Zone} (reach : Int) (call : Call (ZonedDatetime zone)) : Prop :=
  ∃ offset, (∀ t ∈ call.times, zone.utcoffset t.wall t.fold = offset) ∧
    ∀ newest ∈ (points call.samples).getLast?, newest.at_time.wall + reach < datetime_end ∧
      ∀ wall, newest.at_time.wall ≤ wall → wall ≤ newest.at_time.wall + reach →
        zone.utcoffset wall false = offset

section Steady

variable {zone : Zone} {offset : Int}

theorem keepsTime_instant : KeepsTime (SteadyDatetime.instant : SteadyDatetime zone offset → Instant) where
  aware _ := rfl
  before a b := by
    apply decide_eq_decide.mpr
    rw [a.instant_eq, b.instant_eq]
    exact Int.sub_lt_sub_right_iff
  since a b := by
    rw [a.instant_eq, b.instant_eq]
    exact sub_sub_sub_cancel_right _ _ _

theorem keepsTime_value : KeepsTime (SteadyDatetime.value : SteadyDatetime zone offset → ZonedDatetime zone) where
  aware _ := rfl
  before _ _ := rfl
  since _ _ := rfl

theorem keepsTime_naive : KeepsTime (SteadyDatetime.naive : SteadyDatetime zone offset → UtcDatetime) where
  aware _ := rfl
  before _ _ := rfl
  since _ _ := rfl

/-- How soon lines come down depends on the differences of times alone. -/
theorem reachesWithin_map {T T' : Type} [DataTime T] [DataTime T'] {f : T → T'} (hf : KeepsTime f)
    (metric : Metric ℚ) (reach : Int) (samples : List (Sample T ℚ)) :
    ReachesWithin metric reach (samples.map (Sample.map f)) ↔ ReachesWithin metric reach samples := by
  have hused : fit_samples metric (points (samples.map (Sample.map f))) =
      (fit_samples metric (points samples)).map (Point.map f) := by
    unfold fit_samples newest_segment last_points
    rw [points_map, split_segments_map hf, List.getLastD_eq_getLast?, List.getLast?_map,
      List.getLastD_eq_getLast?]
    cases (split_segments (points samples) metric.refill_jump metric.gap_factor).getLast? with
    | none => simp
    | some segment => simp [List.map_drop, apply_ite (List.map (Point.map f))]
  have hslopes : pair_slopes ((fit_samples metric (points samples)).map (Point.map f)) =
      pair_slopes (fit_samples metric (points samples)) := by
    unfold pair_slopes
    rw [pairs_map, List.map_map]
    refine List.map_congr_left fun ⟨p, q⟩ _ => ?_
    simp only [Function.comp_apply, Prod.map, Point.map, hf.since]
  unfold ReachesWithin
  rw [hused, hslopes]
  simp only [List.forall_mem_map, Point.map]

/-- A call under one offset returns, and gives what it gives on the time line. -/
theorem run_steady (z : ℚ) {metric : Metric ℚ} {reach : Int} {call : Call (ZonedDatetime zone)}
    (hreach : 0 < reach) (hsteady : Steady reach call)
    (hwithin : ReachesWithin metric reach (call.map ZonedDatetime.instant).samples) :
    ∃ fc, call.run z metric = .ok fc ∧
      (call.map ZonedDatetime.instant).run z metric = .ok (fc.map ZonedDatetime.instant) := by
  obtain ⟨offset, htimes, hnewest⟩ := hsteady
  have hlifts : ∀ t ∈ call.times, ∃ own : SteadyDatetime zone offset, own.value = t :=
    fun t ht => ⟨⟨t, htimes t ht⟩, rfl⟩
  obtain ⟨own, rfl⟩ := Call.exists_of_times hlifts
  rw [Call.map_map] at hwithin ⊢
  have hnaive : ∀ p ∈ (points (own.map SteadyDatetime.naive).samples).getLast?,
      p.at_time.micros + reach < datetime_end ∧ ∀ wall, p.at_time.micros ≤ wall →
        wall ≤ p.at_time.micros + reach → zone.utcoffset wall false = offset := by
    intro p hp
    rw [Call.map, points_map, List.getLast?_map] at hp
    obtain ⟨newest, hlast, rfl⟩ := Option.map_eq_some_iff.mp hp
    apply hnewest (newest.map SteadyDatetime.value)
    rw [Call.map, points_map, List.getLast?_map, hlast]
    rfl
  -- in UTC the same fields have a forecast, whose crossings come soon
  obtain ⟨there, hthere, hcrosses⟩ := forecast_reaches z hreach
    ((reachesWithin_map keepsTime_naive metric reach own.samples).mpr
      ((reachesWithin_map keepsTime_instant metric reach own.samples).mp hwithin))
    (fun p hp => (hnaive p hp).1) own.now.naive (own.window_start.map SteadyDatetime.naive)
  have hlift : ∀ (a : SteadyDatetime zone offset) (delta : Int) (b : UtcDatetime), 0 ≤ delta →
      DataTime.plus a.naive delta = .ok b →
      (∃ newest ∈ (points (own.map SteadyDatetime.naive).samples).getLast?, newest.at_time ≤ b ∧
        b.micros ≤ newest.at_time.micros + reach) →
      ∃ later : SteadyDatetime zone offset, DataTime.plus a delta = .ok later ∧ later.naive = b := by
    rintro a delta b - hsum ⟨newest, hlast, hafter, hbefore⟩
    have hwall : b.micros = a.value.wall + delta := UtcDatetime.add_ok_iff.mp hsum
    have hsteady := (hnaive newest hlast).2 b.micros hafter hbefore
    refine ⟨⟨⟨b.micros, false, b.range⟩, hsteady⟩, SteadyDatetime.add_ok_iff.mpr ?_, rfl⟩
    have hrange : Representable (a.value.wall + delta) := hwall ▸ b.range
    unfold ZonedDatetime.add
    rw [dif_pos hrange]
    simp only [hwall]
  obtain ⟨fc, hfc, -⟩ := forecast_lift_ok hlift keepsTime_naive hthere hcrosses
  have hvalue : ∀ (a : SteadyDatetime zone offset) (delta : Int) (b : SteadyDatetime zone offset),
      DataTime.plus a delta = .ok b → DataTime.plus a.value delta = .ok b.value :=
    fun _ _ _ hsum => SteadyDatetime.add_ok_iff.mp hsum
  have hinstant : ∀ (a : SteadyDatetime zone offset) (delta : Int) (b : SteadyDatetime zone offset),
      DataTime.plus a delta = .ok b → DataTime.plus a.instant delta = .ok b.instant := by
    intro a delta b hsum
    have hwall := ZonedDatetime.add_wall (hvalue a delta b hsum)
    change Except.ok (⟨a.instant.micros + delta⟩ : Instant) = .ok b.instant
    rw [a.instant_eq, b.instant_eq, hwall, sub_add_eq_add_sub]
  have hown := forecast_map_ok hinstant keepsTime_instant hfc
  refine ⟨fc.map SteadyDatetime.value, forecast_map_ok hvalue keepsTime_value hfc, ?_⟩
  rw [Forecast.map_map]
  exact hown

end Steady

/-! ### Any other offset shows -/

/-- A metric that accepts a newest sample up to the given age. -/
def fresh_for (seconds : ℚ) : Metric ℚ := { WATER with stale_after_seconds := seconds }

/-- The call for one dry sample. -/
def dry_call {T : Type} (measured now : T) : Call T := ⟨[⟨measured, .finite 0⟩], now, none⟩

theorem run_dry_call {T : Type} [DataTime T] (haware : ∀ t : T, DataTime.aware t = true) (seconds : ℚ)
    (measured now : T) : ∃ fc, (dry_call measured now).run 2 (fresh_for seconds) = .ok fc ∧
      (fc.status = .stale ↔ seconds < total_seconds (DataTime.since now measured)) := by
  have hrun : (dry_call measured now).run 2 (fresh_for seconds) =
      if seconds < total_seconds (DataTime.since now measured) then
        .ok (no_crossing (fresh_for seconds) .stale (some measured) (some 0) none)
      else .ok {
        kind := "water"
        status := .at_or_below_target
        as_of := some measured
        target := 10
        latest_value := some 0
        crosses_at := some measured
        crosses_at_earliest := some measured
        crosses_at_latest := some measured
        fit := none } := by
    unfold Call.run forecast
    simp [dry_call, is_valid_series, points, pairwise, haware, PyFloat.isfinite, PyFloat.number?,
      cadence_seconds, stale_limit, fresh_for, WATER]
  rw [hrun]
  split
  · next hstale => exact ⟨_, rfl, iff_of_true rfl hstale⟩
  · next hfresh => exact ⟨_, rfl, iff_of_false (fun hstale => by cases hstale) hfresh⟩

/-- The age of a sample is another one where the offset has changed since, and so
    is, for some limit, whether the sample is stale. -/
theorem changed_offset_shows {zone : Zone} {measured now : ZonedDatetime zone}
    (hmeasured : Representable measured.instant.micros) (hnow : Representable now.instant.micros)
    (hne : zone.utcoffset now.wall now.fold ≠ zone.utcoffset measured.wall measured.fold) :
    ∃ (seconds : ℚ) (call : Call (ZonedDatetime Zone.utc)) (fc : Forecast (ZonedDatetime Zone.utc) ℚ)
      (fc' : Forecast (ZonedDatetime zone) ℚ),
      call.map ZonedDatetime.instant = (dry_call measured now).map ZonedDatetime.instant ∧
      call.run 2 (fresh_for seconds) = .ok fc ∧
      (dry_call measured now).run 2 (fresh_for seconds) = .ok fc' ∧ fc.status ≠ fc'.status := by
  let measured_utc : ZonedDatetime Zone.utc := ⟨measured.instant.micros, false, hmeasured⟩
  let now_utc : ZonedDatetime Zone.utc := ⟨now.instant.micros, false, hnow⟩
  have hinstant : (dry_call measured_utc now_utc).map ZonedDatetime.instant =
      (dry_call measured now).map ZonedDatetime.instant := by
    simp [dry_call, Call.map, Sample.map, measured_utc, now_utc, ZonedDatetime.instant, Zone.utc]
  let utc_age := DataTime.since now_utc measured_utc
  let zone_age := DataTime.since now measured
  have hage : utc_age ≠ zone_age := by
    simp only [utc_age, zone_age, measured_utc, now_utc, DataTime.since, ZonedDatetime.instant]
    omega
  obtain ⟨fc, hrun, hstale⟩ := run_dry_call (fun _ => rfl) (total_seconds (min utc_age zone_age))
    measured_utc now_utc
  obtain ⟨fc', hrun', hstale'⟩ := run_dry_call (fun _ => rfl) (total_seconds (min utc_age zone_age))
    measured now
  refine ⟨_, _, fc, fc', hinstant, hrun, hrun', fun hstatus => ?_⟩
  rw [hstatus, hstale', ← not_le, ← not_le, total_seconds_le_iff, total_seconds_le_iff] at hstale
  change (¬ zone_age ≤ min utc_age zone_age) ↔ ¬ utc_age ≤ min utc_age zone_age at hstale
  omega

/-- Central European time around 2026-03-29T01:00:00Z, when the clocks go from
    two to three. A skipped time counts as winter time unless its fold is 1. -/
def central_european : Zone where
  utcoffset wall fold :=
    if wall < 739703 * day + 2 * hour then hour
    else if wall < 739703 * day + 3 * hour ∧ fold = false then hour
    else 2 * hour
  bounded wall fold := by
    split
    · decide
    · split
      · decide
      · decide

/-- Minutes after the midnight at which 2026-03-28 begins. -/
def march_28 (zone : Zone) (minutes : Fin 10000) : ZonedDatetime zone where
  wall := 739702 * day + minutes * (60 * second)
  fold := false
  range := by
    unfold Representable datetime_end day second
    omega

/-- Half of the water in an hour. -/
def leak {zone : Zone} (start : Fin 5000) : Call (ZonedDatetime zone) where
  samples := [⟨march_28 _ (start.castLE (by decide)), .finite 50⟩,
    ⟨march_28 _ ((start + 30).castLE (by decide)), .finite 35⟩,
    ⟨march_28 _ ((start + 60).castLE (by decide)), .finite 20⟩]
  now := march_28 _ ((start + 60).castLE (by decide))
  window_start := none

end planter_telemetry.analytics.model
