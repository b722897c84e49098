import Mathlib.Data.List.Nodup
import Mathlib.Data.List.Sort
import Mathlib.Order.Defs.LinearOrder

namespace Query

variable {Row Key Time : Type}

/-- `ORDER BY`: the rows in a sorted order, whichever one of those that order
    ties differently. -/
structure OrderBy (le : Row → Row → Prop) where
  sort : List Row → List Row
  perm : ∀ rows, (sort rows).Perm rows
  sorted : ∀ rows, (sort rows).Pairwise le

/-- The order of a total preorder that keeps tied rows as they came. -/
def OrderBy.stable (le : Row → Row → Prop) [DecidableRel le] [Std.Total le] [IsTrans Row le] :
    OrderBy le where
  sort := List.insertionSort le
  perm rows := List.perm_insertionSort le rows
  sorted rows := List.pairwise_insertionSort le rows

section Newest

variable [LinearOrder Time] (key : Row → Key) (time : Row → Time)

/-- A row with the greatest time among those of its key. -/
def Newest (rows : List Row) (row : Row) : Prop :=
  row ∈ rows ∧ ∀ other ∈ rows, key other = key row → time other ≤ time row

/-- Key and time tell the rows apart. -/
def Identified (rows : List Row) : Prop :=
  ∀ first ∈ rows, ∀ second ∈ rows, key first = key second → time first = time second → first = second

variable {key time} {rows sorted : List Row}

theorem Newest.perm (hperm : sorted.Perm rows) {row : Row} :
    Newest key time sorted row ↔ Newest key time rows row := by
  unfold Newest
  simp only [hperm.mem_iff]

omit [LinearOrder Time] in
theorem Identified.perm (h : Identified key time rows) (hperm : sorted.Perm rows) :
    Identified key time sorted :=
  fun first hfirst second hsecond =>
    h first (hperm.mem_iff.mp hfirst) second (hperm.mem_iff.mp hsecond)

theorem Newest.unique {first second : Row} (hidentified : Identified key time rows)
    (hfirst : Newest key time rows first) (hsecond : Newest key time rows second)
    (hkey : key first = key second) : first = second := by
  have hle := hsecond.2 first hfirst.1 hkey
  have hge := hfirst.2 second hsecond.1 hkey.symm
  exact hidentified first hfirst.1 second hsecond.1 hkey (le_antisymm hle hge)

end Newest

section DistinctOn

variable [DecidableEq Key] (key : Row → Key)

/-- `DISTINCT ON (key)`: the first row of each key. -/
def distinct_on : List Row → List Row
  | [] => []
  | row :: rows => row :: (distinct_on rows).filter fun other => key other ≠ key row

variable {key} [LinearOrder Time] {time : Row → Time} {rows sorted : List Row} {row : Row} {k : Key}

omit [LinearOrder Time] in
theorem distinct_on_nodup (rows : List Row) : ((distinct_on key rows).map key).Nodup := by
  induction rows with
  | nil => exact List.nodup_nil
  | cons row rows ih =>
    rw [distinct_on, List.map_cons, List.nodup_cons]
    refine ⟨fun hmem => ?_, ih.sublist (List.filter_sublist.map key)⟩
    obtain ⟨other, hother, hkey⟩ := List.mem_map.mp hmem
    exact of_decide_eq_true (List.mem_filter.mp hother).2 hkey

omit [LinearOrder Time] in
/-- Every key of the rows keeps a row. -/
theorem exists_mem_distinct_on (h : row ∈ rows) : ∃ first ∈ distinct_on key rows, key first = key row := by
  induction rows with
  | nil => cases h
  | cons head rows ih =>
    by_cases hhead : key row = key head
    · exact ⟨head, List.mem_cons_self, hhead.symm⟩
    · rcases List.mem_cons.mp h with rfl | htail
      · exact absurd rfl hhead
      · obtain ⟨first, hfirst, hkey⟩ := ih htail
        refine ⟨first, List.mem_cons_of_mem _ (List.mem_filter.mpr ⟨hfirst, ?_⟩), hkey⟩
        exact decide_eq_true (hkey ▸ hhead)

/-- Sorted newest first within each key, the first row of a key is a newest one. -/
theorem newest_of_mem_distinct_on
    (hsorted : sorted.Pairwise fun a b => key a = key b → time b ≤ time a)
    (h : row ∈ distinct_on key sorted) : Newest key time sorted row := by
  induction sorted with
  | nil => cases h
  | cons head rest ih =>
    obtain ⟨hhead, hrest⟩ := List.pairwise_cons.mp hsorted
    rcases List.mem_cons.mp h with rfl | htail
    · refine ⟨List.mem_cons_self, fun other hother hkey => ?_⟩
      rcases List.mem_cons.mp hother with rfl | hlater
      · exact le_refl _
      · exact hhead other hlater hkey.symm
    · obtain ⟨hmem, hkept⟩ := List.mem_filter.mp htail
      obtain ⟨hrow, hnewest⟩ := ih hrest hmem
      refine ⟨List.mem_cons_of_mem _ hrow, fun other hother hkey => ?_⟩
      rcases List.mem_cons.mp hother with rfl | hlater
      · exact absurd hkey.symm (of_decide_eq_true hkept)
      · exact hnewest other hlater hkey

/-- `DISTINCT ON` over rows sorted newest first keeps the newest row of each key. -/
theorem mem_distinct_on_iff (hidentified : Identified key time sorted)
    (hsorted : sorted.Pairwise fun a b => key a = key b → time b ≤ time a) :
    row ∈ distinct_on key sorted ↔ Newest key time sorted row := by
  refine ⟨newest_of_mem_distinct_on hsorted, fun hnewest => ?_⟩
  have hkept : ∃ first ∈ distinct_on key sorted, key first = key row := exists_mem_distinct_on hnewest.1
  obtain ⟨first, hfirst, hkey⟩ := hkept
  have hother := newest_of_mem_distinct_on hsorted hfirst
  rwa [hother.unique hidentified hnewest hkey] at hfirst

/-- `WHERE key = k ORDER BY time DESC LIMIT 1` finds the newest row of the key. -/
theorem mem_limit_one_iff (hidentified : Identified key time rows)
    (order : OrderBy fun a b : Row => time b ≤ time a) :
    row ∈ (order.sort (rows.filter fun other => key other = k)).take 1 ↔
      key row = k ∧ Newest key time rows row := by
  have hperm := order.perm (rows.filter fun other => key other = k)
  have hsorted := order.sorted (rows.filter fun other => key other = k)
  have hmem (other : Row) : other ∈ order.sort (rows.filter fun other => key other = k) ↔
      other ∈ rows ∧ key other = k := by
    rw [hperm.mem_iff, List.mem_filter, decide_eq_true_eq]
  cases hlist : order.sort (rows.filter fun other => key other = k) with
  | nil =>
    rw [hlist] at hmem
    refine ⟨fun h => absurd h List.not_mem_nil, fun ⟨hkey, hnewest⟩ => ?_⟩
    exact absurd ((hmem row).mpr ⟨hnewest.1, hkey⟩) List.not_mem_nil
  | cons head rest =>
    rw [hlist] at hmem hsorted
    obtain ⟨hhead, hkey⟩ := (hmem head).mp List.mem_cons_self
    have hnewest : Newest key time rows head := by
      refine ⟨hhead, fun other hother hsame => ?_⟩
      rcases List.mem_cons.mp ((hmem other).mpr ⟨hother, hsame.trans hkey⟩) with rfl | hlater
      · exact le_refl _
      · exact (List.pairwise_cons.mp hsorted).1 other hlater
    rw [List.take_succ_cons, List.take_zero, List.mem_singleton]
    constructor
    · rintro rfl
      exact ⟨hkey, hnewest⟩
    · rintro ⟨hown, hrow⟩
      exact hrow.unique hidentified hnewest (hown.trans hkey.symm)

variable (key) in
/-- The lookup finds a row for every key of the rows. -/
theorem exists_mem_limit_one (h : row ∈ rows) (order : OrderBy fun a b : Row => time b ≤ time a) :
    ∃ found, found ∈ (order.sort (rows.filter fun other => key other = key row)).take 1 := by
  have hperm := order.perm (rows.filter fun other => key other = key row)
  have hrow := hperm.mem_iff.mpr (List.mem_filter.mpr ⟨h, decide_eq_true rfl⟩)
  cases hlist : order.sort (rows.filter fun other => key other = key row) with
  | nil => exact absurd (hlist ▸ hrow) List.not_mem_nil
  | cons head rest => exact ⟨head, List.mem_cons_self⟩

end DistinctOn

end Query
