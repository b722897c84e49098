import PlanterTelemetry.Library.Query
import PlanterTelemetry.Schema
import Mathlib.Data.Prod.Lex
import Mathlib.Data.String.Basic

open planter_telemetry.python Query

namespace planter_telemetry.migrations

/-! ### The table, with any content that PostgreSQL accepts -/

/-- Microseconds of a `timestamptz` that is not an infinity. -/
abbrev Timestamptz : Type := Int

/-- A row of `forecasts`, with all its columns. -/
structure ForecastTuple where
  device_id : String
  kind : String
  as_of : Timestamptz
  status : String
  target_value : PyFloat ℚ
  latest_value : Option (PyFloat ℚ)
  crosses_at : Option Timestamptz
  crosses_at_earliest : Option Timestamptz
  crosses_at_latest : Option Timestamptz
  slope_per_hour : Option (PyFloat ℚ)
  residual_mad : Option (PyFloat ℚ)
  fit_points : Option Int
  segment_points : Option Int
  fit_span_seconds : Option (PyFloat ℚ)
  truncated : Bool
  computed_at : Timestamptz

namespace ForecastTuple

/-- `PRIMARY KEY (device_id, kind, as_of)`. -/
def key (row : ForecastTuple) : String × String × Timestamptz := (row.device_id, row.kind, row.as_of)

/-- What the views give one row for. -/
def group (row : ForecastTuple) : String × String := (row.device_id, row.kind)

end ForecastTuple

/-- A row of the view: the columns of the table and the horizon. -/
structure ForecastsLatestRow extends ForecastTuple where
  horizon_seconds : Option ℚ

/-! ### The expressions of the views -/

/-- `EXTRACT(EPOCH FROM (crosses_at - as_of))`, NULL for a NULL crossing. -/
def epoch (crosses_at : Option Timestamptz) (as_of : Timestamptz) : Option ℚ :=
  crosses_at.map fun crosses_at => ((crosses_at - as_of : Int) : ℚ) / 1000000

/-- `greatest(first, second)`, which ignores a NULL beside a value. -/
def greatest : Option ℚ → Option ℚ → Option ℚ
  | none, second => second
  | first, none => first
  | some first, some second => some (max first second)

/-- `ORDER BY device_id, kind, as_of DESC` under some collation of the texts. -/
def by_group_newest_first (collation : String → String → Prop) (first second : ForecastTuple) : Prop :=
  if first.device_id = second.device_id then
    if first.kind = second.kind then second.as_of ≤ first.as_of
    else collation first.kind second.kind
  else collation first.device_id second.device_id

/-- `ORDER BY as_of DESC`. -/
def newest_first (first second : ForecastTuple) : Prop := second.as_of ≤ first.as_of

instance : DecidableRel newest_first := fun first second =>
  inferInstanceAs (Decidable (second.as_of ≤ first.as_of))
instance : Std.Total newest_first := ⟨fun first second => le_total second.as_of first.as_of⟩
instance : IsTrans ForecastTuple newest_first := ⟨fun _ _ _ hfirst hsecond => le_trans hsecond hfirst⟩

namespace versions_0008

/-- The select list of 0008's view. -/
def select (row : ForecastTuple) : ForecastsLatestRow :=
  { row with horizon_seconds := greatest (epoch row.crosses_at row.as_of) (some 0) }

/-- The view `forecasts_latest` of 0008. -/
def forecasts_latest {collation : String → String → Prop}
    (order : OrderBy (by_group_newest_first collation)) (forecasts : KeyedTable ForecastTuple.key) :
    List ForecastsLatestRow :=
  (distinct_on ForecastTuple.group (order.sort forecasts.rows)).map select

end versions_0008

namespace versions_0010

/-- The select list of 0010's view. -/
def select (row : ForecastTuple) : ForecastsLatestRow :=
  { row with
    horizon_seconds :=
      match row.crosses_at with
      | none => none
      | some _ => greatest (epoch row.crosses_at row.as_of) (some 0) }

/-- `(VALUES ('water'::text), ('battery'::text)) AS k(kind)`. -/
def KINDS : List String := ["water", "battery"]

/-- The lateral subquery for one device and kind. -/
def lateral (order : OrderBy newest_first) (forecasts : KeyedTable ForecastTuple.key)
    (device_id kind : String) : List ForecastTuple :=
  (order.sort (forecasts.rows.filter fun row => row.device_id = device_id ∧ row.kind = kind)).take 1

/-- The view `forecasts_latest` of 0010. -/
def forecasts_latest (order : OrderBy newest_first) (devices : KeyedTable DeviceRow.device_id)
    (forecasts : KeyedTable ForecastTuple.key) : List ForecastsLatestRow :=
  devices.rows.flatMap fun device =>
    KINDS.flatMap fun kind => (lateral order forecasts device.device_id kind).map select

end versions_0010

/-! ### What both views select -/

section Views

variable {collation : String → String → Prop} (by_group : OrderBy (by_group_newest_first collation))
  (newest : OrderBy newest_first) (devices : KeyedTable DeviceRow.device_id)
  (forecasts : KeyedTable ForecastTuple.key)

/-- The primary key tells the rows of a device and kind apart by their time. -/
theorem identified : Identified ForecastTuple.group ForecastTuple.as_of forecasts.rows := by
  intro first hfirst second hsecond hgroup htime
  apply forecasts.row_eq_of_key_eq hfirst hsecond
  obtain ⟨hdevice, hkind⟩ := Prod.mk.inj hgroup
  unfold ForecastTuple.key
  rw [hdevice, hkind, htime]

/-- The newest row of its device and kind. -/
def NewestForecast (row : ForecastTuple) : Prop :=
  Newest ForecastTuple.group ForecastTuple.as_of forecasts.rows row

namespace versions_0008

theorem mem_forecasts_latest {row : ForecastsLatestRow} :
    row ∈ forecasts_latest by_group forecasts ↔
      NewestForecast forecasts row.toForecastTuple ∧ row = select row.toForecastTuple := by
  have hperm := by_group.perm forecasts.rows
  have hsorted : (by_group.sort forecasts.rows).Pairwise fun first second =>
      first.group = second.group → second.as_of ≤ first.as_of := by
    refine (by_group.sorted forecasts.rows).imp fun {first second} horder hgroup => ?_
    obtain ⟨hdevice, hkind⟩ := Prod.mk.inj hgroup
    simpa only [by_group_newest_first, if_pos hdevice, if_pos hkind] using horder
  have hnewest (tuple : ForecastTuple) :
      tuple ∈ distinct_on ForecastTuple.group (by_group.sort forecasts.rows) ↔
        NewestForecast forecasts tuple :=
    (mem_distinct_on_iff ((identified forecasts).perm hperm) hsorted).trans (Newest.perm hperm)
  unfold forecasts_latest
  rw [List.mem_map]
  constructor
  · rintro ⟨tuple, hmem, rfl⟩
    exact ⟨(hnewest tuple).mp hmem, rfl⟩
  · rintro ⟨hmem, hrow⟩
    exact ⟨row.toForecastTuple, (hnewest _).mpr hmem, hrow.symm⟩

theorem forecasts_latest_nodup :
    ((forecasts_latest by_group forecasts).map ForecastsLatestRow.toForecastTuple).Nodup := by
  have hgroups : ((distinct_on ForecastTuple.group (by_group.sort forecasts.rows)).map
      ForecastTuple.group).Nodup := distinct_on_nodup _
  unfold forecasts_latest
  rw [List.map_map]
  exact (List.map_id _).symm ▸ hgroups.of_map

end versions_0008

namespace versions_0010

theorem mem_lateral {row : ForecastTuple} {device_id kind : String} :
    row ∈ lateral newest forecasts device_id kind ↔
      row.group = (device_id, kind) ∧ NewestForecast forecasts row := by
  have hwhere : (forecasts.rows.filter fun row => row.device_id = device_id ∧ row.kind = kind) =
      forecasts.rows.filter fun row => row.group = (device_id, kind) := by
    apply List.filter_congr
    intro other _
    simp only [ForecastTuple.group, Prod.mk.injEq]
  unfold lateral
  rw [hwhere]
  exact mem_limit_one_iff (identified forecasts) newest

/-- There is a newest forecast of a device and kind with any. -/
theorem exists_newest {row : ForecastTuple} (h : row ∈ forecasts.rows) :
    ∃ found : ForecastTuple, found.group = row.group ∧ NewestForecast forecasts found := by
  obtain ⟨found, hfound⟩ := exists_mem_limit_one ForecastTuple.group h (OrderBy.stable newest_first)
  exact ⟨found, (mem_limit_one_iff (identified forecasts) (OrderBy.stable newest_first)).mp hfound⟩

theorem mem_forecasts_latest {row : ForecastsLatestRow} :
    row ∈ forecasts_latest newest devices forecasts ↔
      (row.device_id ∈ devices.keys ∧ row.kind ∈ KINDS) ∧
        NewestForecast forecasts row.toForecastTuple ∧ row = select row.toForecastTuple := by
  simp only [forecasts_latest, List.mem_flatMap, List.mem_map, KeyedTable.mem_keys]
  constructor
  · rintro ⟨device, hdevice, kind, hkind, tuple, hmem, rfl⟩
    obtain ⟨hgroup, hnewest⟩ := (mem_lateral newest forecasts).mp hmem
    obtain ⟨hown, hown_kind⟩ := Prod.mk.inj hgroup
    refine ⟨⟨⟨device, hdevice, hown.symm⟩, ?_⟩, hnewest, rfl⟩
    exact (congrArg (· ∈ KINDS) hown_kind).mpr hkind
  · rintro ⟨⟨⟨device, hdevice, hown⟩, hkind⟩, hnewest, hrow⟩
    refine ⟨device, hdevice, row.kind, hkind, row.toForecastTuple, ?_, hrow.symm⟩
    exact (mem_lateral newest forecasts).mpr ⟨by rw [hown]; rfl, hnewest⟩

/-- One row at most for a device and kind. -/
theorem forecasts_latest_groups_nodup :
    ((forecasts_latest newest devices forecasts).map fun row => row.group).Nodup := by
  have hgroup {device_id kind : String} {group : String × String}
      (h : group ∈ ((lateral newest forecasts device_id kind).map select).map fun row => row.group) :
      group = (device_id, kind) := by
    obtain ⟨row, hrow, rfl⟩ := List.mem_map.mp h
    obtain ⟨tuple, htuple, rfl⟩ := List.mem_map.mp hrow
    exact ((mem_lateral newest forecasts).mp htuple).1
  have hsingle {rows : List (String × String)} : (rows.take 1).Nodup := by
    cases rows with
    | nil => exact List.nodup_nil
    | cons head rest => exact List.nodup_singleton head
  unfold forecasts_latest
  rw [List.map_flatMap, List.nodup_flatMap]
  constructor
  · intro device _
    rw [List.map_flatMap, List.nodup_flatMap]
    constructor
    · intro kind _
      rw [lateral, List.map_take, List.map_take]
      exact hsingle
    · -- the groups of two kinds differ in the kind
      refine List.Pairwise.imp ?_ (by decide : KINDS.Nodup)
      intro kind other hne group hmem hother
      exact hne (Prod.mk.inj ((hgroup hmem).symm.trans (hgroup hother))).2
  · -- the groups of two devices differ in the device
    refine List.Pairwise.imp ?_ (List.pairwise_map.mp devices.unique)
    intro device other hne group hmem hother
    simp only [List.map_flatMap, List.mem_flatMap] at hmem hother
    obtain ⟨kind, -, hmem⟩ := hmem
    obtain ⟨other_kind, -, hother⟩ := hother
    exact hne (Prod.mk.inj ((hgroup hmem).symm.trans (hgroup hother))).1

/-- A device and kind have a row if the device is on the roster, the kind is one
    of the two, and there is a forecast. -/
theorem mem_groups_iff {device_id kind : String} :
    (device_id, kind) ∈ (forecasts_latest newest devices forecasts).map (fun row => row.group) ↔
      device_id ∈ devices.keys ∧ kind ∈ KINDS ∧
        ∃ row ∈ forecasts.rows, row.device_id = device_id ∧ row.kind = kind := by
  rw [List.mem_map]
  constructor
  · rintro ⟨row, hrow, hgroup⟩
    obtain ⟨⟨hdevice, hkind⟩, hnewest, -⟩ := (mem_forecasts_latest newest devices forecasts).mp hrow
    obtain ⟨rfl, rfl⟩ := Prod.mk.inj hgroup
    exact ⟨hdevice, hkind, row.toForecastTuple, hnewest.1, rfl, rfl⟩
  · rintro ⟨hdevice, hkind, row, hrow, rfl, rfl⟩
    obtain ⟨found, hgroup, hnewest⟩ := exists_newest forecasts hrow
    obtain ⟨hown, hown_kind⟩ := Prod.mk.inj hgroup
    refine ⟨select found, (mem_forecasts_latest newest devices forecasts).mpr ⟨⟨?_, ?_⟩, hnewest, rfl⟩, hgroup⟩
    · exact (congrArg (· ∈ devices.keys) hown).mpr hdevice
    · exact (congrArg (· ∈ KINDS) hown_kind).mpr hkind

end versions_0010

/-- The view of 0010 has one row for each device of the roster and kind with a
    forecast, the one that 0008's view has for it but for the horizon, which is
    NULL without a crossing where 0008's was 0. -/
theorem forecasts_latest_corrected :
    (∀ device_id kind : String, ((versions_0010.forecasts_latest newest devices forecasts).filter
        fun row => row.device_id = device_id ∧ row.kind = kind).length =
      if device_id ∈ devices.keys ∧ kind ∈ ["water", "battery"] ∧
          ∃ row ∈ forecasts.rows, row.device_id = device_id ∧ row.kind = kind then 1 else 0) ∧
    ((versions_0010.forecasts_latest newest devices forecasts).map
        ForecastsLatestRow.toForecastTuple).Perm
      (((versions_0008.forecasts_latest by_group forecasts).filter fun row =>
        row.device_id ∈ devices.keys ∧ row.kind ∈ ["water", "battery"]).map
          ForecastsLatestRow.toForecastTuple) ∧
    (∀ row ∈ versions_0010.forecasts_latest newest devices forecasts,
      row.horizon_seconds = row.crosses_at.map fun crosses_at =>
        max (((crosses_at - row.as_of : Int) : ℚ) / 1000000) 0) ∧
    ∀ row ∈ versions_0008.forecasts_latest by_group forecasts,
      row.horizon_seconds = some (row.crosses_at.elim 0 fun crosses_at =>
        max (((crosses_at - row.as_of : Int) : ℚ) / 1000000) 0) := by
  refine ⟨fun device_id kind => ?_, ?_, fun row hrow => ?_, fun row hrow => ?_⟩
  · have hcount := (versions_0010.forecasts_latest_groups_nodup newest devices forecasts).count
      (a := (device_id, kind))
    rw [List.count_eq_countP, List.countP_map, List.countP_eq_length_filter] at hcount
    have hfilter : ((versions_0010.forecasts_latest newest devices forecasts).filter
        fun row => row.device_id = device_id ∧ row.kind = kind) =
        (versions_0010.forecasts_latest newest devices forecasts).filter
          ((· == (device_id, kind)) ∘ fun row => row.group) := by
      apply List.filter_congr
      intro row _
      rw [Bool.eq_iff_iff]
      simp [ForecastTuple.group]
    rw [hfilter, hcount]
    exact if_congr (versions_0010.mem_groups_iff newest devices forecasts) rfl rfl
  · refine (List.perm_ext_iff_of_nodup ?_ ?_).mpr fun tuple => ?_
    · refine List.Nodup.of_map (fun tuple : ForecastTuple => tuple.group) ?_
      rw [List.map_map]
      exact versions_0010.forecasts_latest_groups_nodup newest devices forecasts
    · exact (versions_0008.forecasts_latest_nodup by_group forecasts).sublist (List.filter_sublist.map _)
    · simp only [List.mem_map, List.mem_filter, decide_eq_true_eq, versions_0010.mem_forecasts_latest,
        versions_0008.mem_forecasts_latest]
      constructor
      · rintro ⟨row, ⟨hrestricted, hnewest, -⟩, rfl⟩
        exact ⟨versions_0008.select row.toForecastTuple, ⟨⟨hnewest, rfl⟩, hrestricted⟩, rfl⟩
      · rintro ⟨row, ⟨⟨hnewest, -⟩, hrestricted⟩, rfl⟩
        exact ⟨versions_0010.select row.toForecastTuple, ⟨hrestricted, hnewest, rfl⟩, rfl⟩
  · obtain ⟨-, -, hselect⟩ := (versions_0010.mem_forecasts_latest newest devices forecasts).mp hrow
    rw [hselect]
    cases hcrosses : row.crosses_at with
    | none => simp [versions_0010.select, hcrosses]
    | some crosses_at => simp [versions_0010.select, hcrosses, epoch, greatest]
  · obtain ⟨-, hselect⟩ := (versions_0008.mem_forecasts_latest by_group forecasts).mp hrow
    rw [hselect]
    cases hcrosses : row.crosses_at with
    | none => simp [versions_0008.select, hcrosses, epoch, greatest]
    | some crosses_at => simp [versions_0008.select, hcrosses, epoch, greatest]

end Views

/-! ### A planter that was just refilled, and one that left the roster -/

/-- Under a collation that is the order of the strings, the sort of 0008 is
    lexicographic. -/
theorem by_group_newest_first_iff {first second : ForecastTuple} :
    by_group_newest_first (· ≤ ·) first second ↔
      toLex (first.device_id, toLex (first.kind, OrderDual.toDual first.as_of)) ≤
        toLex (second.device_id, toLex (second.kind, OrderDual.toDual second.as_of)) := by
  unfold by_group_newest_first
  rw [Prod.Lex.toLex_le_toLex, Prod.Lex.toLex_le_toLex, OrderDual.toDual_le_toDual]
  split
  · next hdevice =>
    split
    · next hkind => simp [hdevice, hkind]
    · next hkind => simp [hdevice, hkind, lt_iff_le_and_ne]
  · next hdevice => simp [hdevice, lt_iff_le_and_ne]

instance : DecidableRel (by_group_newest_first (· ≤ ·)) := fun _ _ => by
  unfold by_group_newest_first
  infer_instance
instance : Std.Total (by_group_newest_first (· ≤ ·)) :=
  ⟨fun _ _ => by simpa only [by_group_newest_first_iff] using le_total _ _⟩
instance : IsTrans ForecastTuple (by_group_newest_first (· ≤ ·)) :=
  ⟨fun _ _ _ => by simpa only [by_group_newest_first_iff] using le_trans⟩

/-- A forecast without a crossing. -/
def without_crossing (device_id : String) (as_of : Timestamptz) : ForecastTuple where
  device_id := device_id
  kind := "water"
  as_of := as_of
  status := "insufficient_points"
  target_value := .finite 10
  latest_value := some (.finite 95)
  crosses_at := none
  crosses_at_earliest := none
  crosses_at_latest := none
  slope_per_hour := none
  residual_mad := none
  fit_points := none
  segment_points := none
  fit_span_seconds := none
  truncated := false
  computed_at := 0

def refilled_forecasts : KeyedTable ForecastTuple.key where
  rows := [without_crossing "planter-00" 0, without_crossing "planter-00" 60, without_crossing "planter-01" 0]
  unique := by decide

def refilled_roster : KeyedTable DeviceRow.device_id where
  rows := [⟨"planter-00", at_minute 0, at_minute 1⟩]
  unique := by decide

example : (versions_0008.forecasts_latest (OrderBy.stable (by_group_newest_first (· ≤ ·)))
    refilled_forecasts).map (fun row => (row.device_id, row.as_of, row.horizon_seconds)) =
      [("planter-00", 60, some 0), ("planter-01", 0, some 0)] := by decide +kernel

example : (versions_0010.forecasts_latest (OrderBy.stable newest_first) refilled_roster
    refilled_forecasts).map (fun row => (row.device_id, row.as_of, row.horizon_seconds)) =
      [("planter-00", 60, none)] := by decide +kernel

end planter_telemetry.migrations
