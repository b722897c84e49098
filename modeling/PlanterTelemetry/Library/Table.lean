import Mathlib.Data.List.Nodup

/-- A relation whose rows carry a unique key: the constraint is part of the
    value, so no statement can build a table with two rows of one key. Rows are
    listed in insertion order. -/
structure KeyedTable {Row Key : Type} (key : Row → Key) where
  rows : List Row
  unique : (rows.map key).Nodup

namespace KeyedTable

variable {Row Key : Type} {key : Row → Key}

@[ext]
theorem ext {first second : KeyedTable key} (h : first.rows = second.rows) : first = second := by
  cases first
  cases second
  simpa using h

def empty : KeyedTable key := ⟨[], List.nodup_nil⟩

@[simp] theorem empty_rows : (empty : KeyedTable key).rows = [] := rfl

def keys (table : KeyedTable key) : List Key := table.rows.map key

theorem mem_keys {table : KeyedTable key} {k : Key} :
    k ∈ table.keys ↔ ∃ row ∈ table.rows, key row = k := by
  simp [keys]

theorem key_mem_keys {table : KeyedTable key} {row : Row} (h : row ∈ table.rows) :
    key row ∈ table.keys :=
  List.mem_map_of_mem h

/-- Two rows of one key are the same row. -/
theorem row_eq_of_key_eq {table : KeyedTable key} {first second : Row}
    (hfirst : first ∈ table.rows) (hsecond : second ∈ table.rows)
    (hkey : key first = key second) : first = second :=
  List.inj_on_of_nodup_map table.unique hfirst hsecond hkey

/-- Updating some rows without touching their keys. -/
theorem map_key_update {update : Row → Row} (hkey : ∀ row, key (update row) = key row)
    (selected : Row → Bool) (rows : List Row) :
    (rows.map fun row => if selected row then update row else row).map key = rows.map key := by
  rw [List.map_map]
  apply List.map_congr_left
  intro row _
  by_cases h : selected row = true <;> simp [h, hkey row]

/-- `UPDATE ... SET ... WHERE ...`, for an update that leaves the key alone. -/
def updateWhere (table : KeyedTable key) (selected : Row → Bool) (update : Row → Row)
    (hkey : ∀ row, key (update row) = key row) : KeyedTable key :=
  ⟨table.rows.map fun row => if selected row then update row else row,
    (map_key_update hkey selected table.rows).symm ▸ table.unique⟩

section Update

variable {update : Row → Row} {hkey : ∀ row, key (update row) = key row}

@[simp] theorem keys_updateWhere (table : KeyedTable key) (selected : Row → Bool) :
    (table.updateWhere selected update hkey).keys = table.keys :=
  map_key_update hkey selected table.rows

theorem mem_updateWhere {table : KeyedTable key} {selected : Row → Bool} {row : Row} :
    row ∈ (table.updateWhere selected update hkey).rows ↔
      (row ∈ table.rows ∧ selected row = false) ∨
        ∃ old ∈ table.rows, selected old = true ∧ row = update old := by
  simp only [updateWhere, List.mem_map]
  constructor
  · rintro ⟨old, hmem, rfl⟩
    cases h : selected old with
    | true => exact .inr ⟨old, hmem, h, by simp⟩
    | false => exact .inl ⟨by simpa using hmem, by simpa using h⟩
  · rintro (⟨hmem, hrest⟩ | ⟨old, hmem, hselected, rfl⟩)
    · exact ⟨row, hmem, by simp [hrest]⟩
    · exact ⟨old, hmem, by simp [hselected]⟩

/-- An update that changes none of the rows it selects changes nothing. -/
theorem updateWhere_eq_self {table : KeyedTable key} {selected : Row → Bool}
    (h : ∀ row ∈ table.rows, selected row = true → update row = row) :
    table.updateWhere selected update hkey = table := by
  apply KeyedTable.ext
  refine (List.map_congr_left fun row hrow => ?_).trans (List.map_id _)
  cases hselected : selected row with
  | true => simpa [hselected] using h row hrow hselected
  | false => simp

end Update

variable [DecidableEq Key]

/-- The row stored under a key. -/
def lookup (table : KeyedTable key) (k : Key) : Option Row :=
  table.rows.find? (fun row => key row = k)

theorem lookup_eq_some {table : KeyedTable key} {k : Key} {row : Row} :
    table.lookup k = some row ↔ row ∈ table.rows ∧ key row = k := by
  constructor
  · intro h
    exact ⟨List.mem_of_find?_eq_some h, by simpa using List.find?_some h⟩
  · rintro ⟨hmem, rfl⟩
    cases hfound : table.lookup (key row) with
    | none =>
      have habsent := List.find?_eq_none.mp hfound row hmem
      simp at habsent
    | some found =>
      have hkey : key found = key row := by simpa using List.find?_some hfound
      rw [row_eq_of_key_eq (List.mem_of_find?_eq_some hfound) hmem hkey]

theorem lookup_eq_none {table : KeyedTable key} {k : Key} :
    table.lookup k = none ↔ k ∉ table.keys := by
  simp [lookup, keys]

theorem lookup_of_mem {table : KeyedTable key} {row : Row} (h : row ∈ table.rows) :
    table.lookup (key row) = some row :=
  lookup_eq_some.mpr ⟨h, rfl⟩

/-- Two tables with the same rows, whatever order they were inserted in. -/
def Agree (first second : KeyedTable key) : Prop :=
  ∀ row, row ∈ first.rows ↔ row ∈ second.rows

theorem agree_iff_lookup {first second : KeyedTable key} :
    first.Agree second ↔ ∀ k, first.lookup k = second.lookup k := by
  constructor
  · intro h k
    apply Option.ext
    intro row
    rw [lookup_eq_some, lookup_eq_some, h row]
  · intro h row
    have hrow := h (key row)
    constructor
    · intro hmem
      rw [lookup_of_mem hmem] at hrow
      exact (lookup_eq_some.mp hrow.symm).1
    · intro hmem
      rw [lookup_of_mem hmem] at hrow
      exact (lookup_eq_some.mp hrow).1

/-- `INSERT ... ON CONFLICT (key) DO NOTHING`. -/
def insertIgnore (table : KeyedTable key) (row : Row) : KeyedTable key :=
  if h : key row ∈ table.keys then table
  else ⟨table.rows ++ [row], by
    rw [List.map_append]
    exact table.unique.append (List.nodup_singleton _) (by simpa [keys] using h)⟩

theorem insertIgnore_of_mem {table : KeyedTable key} {row : Row} (h : key row ∈ table.keys) :
    table.insertIgnore row = table :=
  dif_pos h

theorem insertIgnore_rows_of_not_mem {table : KeyedTable key} {row : Row}
    (h : key row ∉ table.keys) : (table.insertIgnore row).rows = table.rows ++ [row] := by
  rw [insertIgnore, dif_neg h]

theorem length_insertIgnore (table : KeyedTable key) (row : Row) :
    (table.insertIgnore row).rows.length =
      table.rows.length + if key row ∈ table.keys then 0 else 1 := by
  split
  · next h => rw [insertIgnore_of_mem h, Nat.add_zero]
  · next h => rw [insertIgnore_rows_of_not_mem h, List.length_append, List.length_singleton]

theorem mem_insertIgnore {table : KeyedTable key} {row other : Row} :
    other ∈ (table.insertIgnore row).rows ↔
      other ∈ table.rows ∨ (key row ∉ table.keys ∧ other = row) := by
  by_cases h : key row ∈ table.keys
  · simp [insertIgnore_of_mem h, h]
  · simp [insertIgnore_rows_of_not_mem h, h]

theorem rows_subset_insertIgnore {table : KeyedTable key} {row : Row} :
    table.rows ⊆ (table.insertIgnore row).rows :=
  fun _ h => mem_insertIgnore.mpr (.inl h)

@[simp] theorem mem_keys_insertIgnore {table : KeyedTable key} {row : Row} {k : Key} :
    k ∈ (table.insertIgnore row).keys ↔ k ∈ table.keys ∨ k = key row := by
  by_cases h : key row ∈ table.keys
  · rw [insertIgnore_of_mem h]
    exact ⟨.inl, fun hk => hk.elim id (fun heq => heq ▸ h)⟩
  · simp [keys, insertIgnore_rows_of_not_mem h]

/-- `INSERT ... ON CONFLICT (key) DO UPDATE SET ...`. -/
def upsert (table : KeyedTable key) (row : Row) (update : Row → Row)
    (hkey : ∀ row, key (update row) = key row) : KeyedTable key :=
  if key row ∈ table.keys then table.updateWhere (fun old => key old = key row) update hkey
  else table.insertIgnore row

variable {update : Row → Row} {hkey : ∀ row, key (update row) = key row}

@[simp] theorem mem_keys_upsert {table : KeyedTable key} {row : Row} {k : Key} :
    k ∈ (table.upsert row update hkey).keys ↔ k ∈ table.keys ∨ k = key row := by
  unfold upsert
  split
  · next h =>
    rw [keys_updateWhere]
    exact ⟨.inl, fun hk => hk.elim id (fun heq => heq ▸ h)⟩
  · exact mem_keys_insertIgnore

theorem mem_upsert {table : KeyedTable key} {row other : Row} :
    other ∈ (table.upsert row update hkey).rows ↔
      (other ∈ table.rows ∧ key other ≠ key row) ∨
      (∃ old ∈ table.rows, key old = key row ∧ other = update old) ∨
      (key row ∉ table.keys ∧ other = row) := by
  unfold upsert
  split
  · next h => simp [mem_updateWhere, h]
  · next h =>
    rw [mem_insertIgnore]
    have habsent : ∀ old ∈ table.rows, key old ≠ key row := by
      intro old hold heq
      exact h (heq ▸ key_mem_keys hold)
    constructor
    · rintro (hmem | hnew)
      · exact .inl ⟨hmem, habsent other hmem⟩
      · exact .inr (.inr hnew)
    · rintro (⟨hmem, -⟩ | ⟨old, hold, heq, -⟩ | hnew)
      · exact .inl hmem
      · exact absurd heq (habsent old hold)
      · exact .inr hnew

/-- An upsert that would not change the row it conflicts with changes nothing. -/
theorem upsert_eq_self {table : KeyedTable key} {row old : Row}
    (hold : table.lookup (key row) = some old) (hsame : update old = old) :
    table.upsert row update hkey = table := by
  obtain ⟨hmem, hrow⟩ := lookup_eq_some.mp hold
  unfold upsert
  rw [if_pos (hrow ▸ key_mem_keys hmem)]
  apply updateWhere_eq_self
  intro other hother hselected
  have hkeys : key old = key other := hrow.trans (of_decide_eq_true hselected).symm
  rw [← row_eq_of_key_eq hmem hother hkeys, hsame]

variable (hkey) in
/-- An upsert writes the updated row under its own key and leaves every other
    key alone. -/
theorem lookup_upsert (table : KeyedTable key) (row : Row) (k : Key) :
    (table.upsert row update hkey).lookup k =
      if key row = k then some ((table.lookup k).elim row update) else table.lookup k := by
  apply Option.ext
  intro other
  rw [lookup_eq_some, mem_upsert]
  split
  · next hk =>
    subst hk
    cases hold : table.lookup (key row) with
    | none =>
      have habsent : key row ∉ table.keys := lookup_eq_none.mp hold
      simp only [Option.elim_none, Option.some.injEq]
      constructor
      · rintro ⟨⟨-, hne⟩ | ⟨old, hmem, heq, -⟩ | ⟨-, rfl⟩, hother⟩
        · exact absurd hother hne
        · exact absurd (heq ▸ key_mem_keys hmem) habsent
        · rfl
      · rintro rfl
        exact ⟨.inr (.inr ⟨habsent, rfl⟩), rfl⟩
    | some stored =>
      obtain ⟨hmem, hstored⟩ := lookup_eq_some.mp hold
      have hpresent : key row ∈ table.keys := hstored ▸ key_mem_keys hmem
      simp only [Option.elim_some, Option.some.injEq]
      constructor
      · rintro ⟨⟨-, hne⟩ | ⟨old, hmem', heq, rfl⟩ | ⟨habsent, -⟩, hother⟩
        · exact absurd hother hne
        · rw [row_eq_of_key_eq hmem hmem' (hstored.trans heq.symm)]
        · exact absurd hpresent habsent
      · rintro rfl
        exact ⟨.inr (.inl ⟨stored, hmem, hstored, rfl⟩), (hkey stored).trans hstored⟩
  · next hk =>
    rw [lookup_eq_some]
    constructor
    · rintro ⟨⟨hmem, -⟩ | ⟨old, -, heq, rfl⟩ | ⟨-, rfl⟩, hother⟩
      · exact ⟨hmem, hother⟩
      · exact absurd (heq.symm.trans ((hkey old).symm.trans hother)) hk
      · exact absurd hother hk
    · rintro ⟨hmem, rfl⟩
      exact ⟨.inl ⟨hmem, fun heq => hk heq.symm⟩, rfl⟩

end KeyedTable
