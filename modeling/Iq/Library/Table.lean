import Mathlib.Data.List.Nodup
import Mathlib.Tactic.Common

/-!
# Keyed tables

A table is a list of rows no two of which share a key, as a relational table with a primary key.
Rows keep their insertion order. Insertion refuses a key that is present; an update keeps the key
of every row; a deletion only removes rows. The rules below describe membership, lookup by key and
selections after each operation, for any row and key type.
-/

namespace Iq.Library

universe u v

/-- Rows in insertion order, no two of them with one key. -/
structure Table {ρ : Type u} {κ : Type v} (key : ρ → κ) where
  /-- The rows, oldest first. -/
  rows : List ρ
  /-- No two rows share a key. -/
  keyed : (rows.map key).Nodup

namespace Table

variable {ρ : Type u} {κ : Type v} {key : ρ → κ}

/-- The table without rows. -/
def empty : Table key := ⟨[], List.nodup_nil⟩

instance : Membership ρ (Table key) := ⟨fun table row => row ∈ table.rows⟩

/-- The rows of a table are its members. -/
theorem mem_rows {table : Table key} {row : ρ} : row ∈ table.rows ↔ row ∈ table := Iff.rfl

/-- Tables with the same rows are the same. -/
theorem ext_rows {table other : Table key} (same : table.rows = other.rows) : table = other := by
  cases table
  cases other
  exact (mk.injEq ..).mpr same

/-- Two rows of a table with one key are one row. -/
theorem eq_of_key {table : Table key} {row other : ρ} (mem : row ∈ table) (mem' : other ∈ table)
    (same : key row = key other) : row = other :=
  List.inj_on_of_nodup_map table.keyed mem mem' same

/-- The empty table has no row. -/
@[simp] theorem not_mem_empty (row : ρ) : row ∉ (empty : Table key) := List.not_mem_nil

/-! ## Selections -/

/-- `SELECT ... WHERE`: the rows that satisfy a condition, in table order. -/
def select (table : Table key) (chosen : ρ → Bool) : List ρ := table.rows.filter chosen

/-- `EXISTS(SELECT 1 ... WHERE)`. -/
def any (table : Table key) (chosen : ρ → Bool) : Bool := table.rows.any chosen

/-- The number of rows that satisfy a condition. -/
def count (table : Table key) (chosen : ρ → Bool) : Nat := table.rows.countP chosen

/-- The rows that are selected. -/
@[simp] theorem mem_select {table : Table key} {chosen : ρ → Bool} {row : ρ} :
    row ∈ table.select chosen ↔ row ∈ table ∧ chosen row = true := List.mem_filter

/-- Some row is chosen. -/
@[simp] theorem any_eq_true {table : Table key} {chosen : ρ → Bool} :
    table.any chosen = true ↔ ∃ row ∈ table, chosen row = true := List.any_eq_true

/-- No row is chosen. -/
theorem any_eq_false {table : Table key} {chosen : ρ → Bool} :
    table.any chosen = false ↔ ∀ row ∈ table, chosen row = false := by
  simp only [any, List.any_eq_false, Bool.not_eq_true]
  rfl

/-- A count is positive when some row is chosen. -/
theorem count_pos {table : Table key} {chosen : ρ → Bool} :
    0 < table.count chosen ↔ ∃ row ∈ table, chosen row = true := List.countP_pos_iff

/-- A condition that fixes the key holds of at most one row. -/
theorem count_le_one {table : Table key} {chosen : ρ → Bool} (k : κ)
    (fixed : ∀ row, chosen row = true → key row = k) : table.count chosen ≤ 1 := by
  obtain ⟨rows, keyed⟩ := table
  simp only [count]
  induction rows with
  | nil => exact Nat.zero_le 1
  | cons head tail tail_le =>
    rw [List.map_cons, List.nodup_cons] at keyed
    rw [List.countP_cons]
    by_cases hit : chosen head = true
    · have clear : tail.countP chosen = 0 := by
        rw [List.countP_eq_zero]
        intro row mem found
        refine keyed.1 (List.mem_map.mpr ⟨row, mem, ?_⟩)
        rw [fixed row found, fixed head hit]
      have one : tail.countP chosen + (if chosen head = true then 1 else 0) = 1 := by
        rw [clear, if_pos hit]
      exact Nat.le_of_eq one
    · rw [if_neg hit]
      exact tail_le keyed.2

/-- A condition that fixes the key selects exactly one row when it holds of some row. -/
theorem count_eq_one {table : Table key} {chosen : ρ → Bool} (k : κ)
    (fixed : ∀ row, chosen row = true → key row = k) :
    table.count chosen = 1 ↔ ∃ row ∈ table, chosen row = true := by
  rw [← count_pos]
  have bound := table.count_le_one k fixed
  omega

/-! ## Lookup -/

variable [DecidableEq κ]

/-- `SELECT ... WHERE key=?`. -/
def find? (table : Table key) (k : κ) : Option ρ := table.rows.find? (fun row => key row = k)

/-- The row of a key. -/
theorem find?_eq_some {table : Table key} {k : κ} {row : ρ} :
    table.find? k = some row ↔ row ∈ table ∧ key row = k := by
  constructor
  · intro found
    exact ⟨List.mem_of_find?_eq_some found, by simpa using List.find?_some found⟩
  · rintro ⟨mem, rfl⟩
    cases found : table.find? (key row) with
    | none =>
      have missing := List.find?_eq_none.mp found row mem
      simp at missing
    | some other =>
      have mem' : other ∈ table := List.mem_of_find?_eq_some found
      have same : key other = key row := by simpa using List.find?_some found
      rw [eq_of_key mem' mem same]

/-- A key without a row. -/
theorem find?_eq_none {table : Table key} {k : κ} :
    table.find? k = none ↔ ∀ row ∈ table, key row ≠ k := by
  simp only [find?, List.find?_eq_none, decide_eq_true_eq]
  rfl

/-! ## Insertion -/

/-- `INSERT`: refused when the key is present. -/
def insert? (table : Table key) (row : ρ) : Option (Table key) :=
  if fresh : key row ∉ table.rows.map key then
    some ⟨table.rows ++ [row], by
      rw [List.map_append, List.nodup_append]
      refine ⟨table.keyed, List.nodup_singleton _, ?_⟩
      intro k mem k' mem'
      rw [List.map_singleton, List.mem_singleton] at mem'
      rintro rfl
      exact fresh (mem' ▸ mem)⟩
  else
    none

/-- A row is inserted when its key is free. -/
theorem insert?_isSome {table : Table key} {row : ρ} :
    (table.insert? row).isSome = true ↔ ∀ other ∈ table, key other ≠ key row := by
  unfold insert?
  split
  · rename_i fresh
    simp only [Option.isSome_some, true_iff]
    intro other mem same
    exact fresh (List.mem_map.mpr ⟨other, mem, same⟩)
  · rename_i present
    simp only [not_not, List.mem_map] at present
    obtain ⟨other, mem, same⟩ := present
    simp only [Option.isSome_none, Bool.false_eq_true, false_iff]
    intro fresh
    exact fresh other mem same

/-- An inserted row comes last. -/
theorem rows_of_insert? {table later : Table key} {row : ρ} (inserted : table.insert? row = some later) :
    later.rows = table.rows ++ [row] := by
  unfold insert? at inserted
  split at inserted
  · cases inserted
    rfl
  · cases inserted

/-- The rows after an insertion. -/
theorem mem_of_insert? {table later : Table key} {row other : ρ}
    (inserted : table.insert? row = some later) : other ∈ later ↔ other ∈ table ∨ other = row := by
  rw [← mem_rows, rows_of_insert? inserted, List.mem_append, List.mem_singleton, mem_rows]

/-- The key of an inserted row was free. -/
theorem fresh_of_insert? {table later : Table key} {row other : ρ}
    (inserted : table.insert? row = some later) (mem : other ∈ table) : key other ≠ key row :=
  insert?_isSome.mp (by rw [inserted]; rfl) other mem

/-- The row of a key after an insertion. -/
theorem find?_of_insert? {table later : Table key} {row : ρ} (k : κ)
    (inserted : table.insert? row = some later) :
    later.find? k = if key row = k then some row else table.find? k := by
  by_cases same : key row = k
  · rw [if_pos same]
    exact find?_eq_some.mpr ⟨(mem_of_insert? inserted).mpr (.inr rfl), same⟩
  · rw [if_neg same]
    simp only [find?, rows_of_insert? inserted, List.find?_append]
    simp [same]

/-- The selected rows after an insertion. -/
theorem select_of_insert? {table later : Table key} {row : ρ} (chosen : ρ → Bool)
    (inserted : table.insert? row = some later) :
    later.select chosen = table.select chosen ++ if chosen row = true then [row] else [] := by
  simp only [select, rows_of_insert? inserted, List.filter_append]
  by_cases hit : chosen row = true <;> simp [hit]

/-! ## Update -/

/-- The row an update leaves in the place of a row. -/
def rewrite (chosen : ρ → Bool) (change : ρ → ρ) (row : ρ) : ρ :=
  if chosen row = true then change row else row

/-- `UPDATE ... SET ... WHERE`: every chosen row is changed and keeps its key. -/
def update (table : Table key) (chosen : ρ → Bool) (change : ρ → ρ)
    (kept : ∀ row, key (change row) = key row) : Table key where
  rows := table.rows.map (rewrite chosen change)
  keyed := by
    have same : (table.rows.map (rewrite chosen change)).map key = table.rows.map key := by
      rw [List.map_map]
      refine List.map_congr_left fun row _ => ?_
      simp only [Function.comp_apply, rewrite]
      split
      · exact kept row
      · rfl
    rw [same]
    exact table.keyed

variable {chosen : ρ → Bool} {change : ρ → ρ} {kept : ∀ row, key (change row) = key row}

/-- A chosen row is changed. -/
@[simp] theorem rewrite_of_chosen {row : ρ} (hit : chosen row = true) :
    rewrite chosen change row = change row := if_pos hit

/-- Another row stays. -/
@[simp] theorem rewrite_of_not_chosen {row : ρ} (miss : ¬chosen row = true) :
    rewrite chosen change row = row := if_neg miss

section Named

variable [BEq κ] [LawfulBEq κ] {k : κ}

omit [DecidableEq κ] in
/-- An update of the row with a key changes that row. -/
theorem rewrite_of_key {row : ρ} (named : key row = k) :
    rewrite (fun row => key row == k) change row = change row :=
  if_pos (beq_iff_eq.mpr named)

omit [DecidableEq κ] in
/-- An update of the row with a key leaves every other row. -/
theorem rewrite_of_key_ne {row : ρ} (apart : key row ≠ k) :
    rewrite (fun row => key row == k) change row = row :=
  if_neg fun hit => apart (beq_iff_eq.mp hit)

end Named

omit [DecidableEq κ] in
/-- A rewritten row has its key. -/
theorem key_rewrite (kept : ∀ row, key (change row) = key row) (row : ρ) :
    key (rewrite chosen change row) = key row := by
  unfold rewrite
  split
  · exact kept row
  · rfl

omit [DecidableEq κ] in
/-- The rows after an update. -/
theorem mem_update {table : Table key} {row : ρ} :
    row ∈ table.update chosen change kept ↔ ∃ old ∈ table, rewrite chosen change old = row :=
  List.mem_map

/-- The row of a key after an update. -/
theorem find?_update {table : Table key} (k : κ) :
    (table.update chosen change kept).find? k =
      (table.find? k).map (rewrite chosen change) := by
  cases found : table.find? k with
  | none =>
    rw [Option.map_none, find?_eq_none]
    intro row mem
    obtain ⟨old, memOld, rfl⟩ := mem_update.mp mem
    rw [key_rewrite kept]
    exact find?_eq_none.mp found old memOld
  | some row =>
    obtain ⟨mem, named⟩ := find?_eq_some.mp found
    exact find?_eq_some.mpr ⟨mem_update.mpr ⟨row, mem, rfl⟩, by rw [key_rewrite kept]; exact named⟩

/-- An update of the row with a key is found under the key. -/
theorem find?_update_key [BEq κ] [LawfulBEq κ] {table : Table key} {k : κ} {row : ρ}
    (change : ρ → ρ) (kept : ∀ row, key (change row) = key row) (found : table.find? k = some row) :
    (table.update (fun row => key row == k) change kept).find? k = some (change row) := by
  rw [find?_update, found, Option.map_some, rewrite_of_key (find?_eq_some.mp found).2]

/-- The rows after an update of the row with a key: the changed row, and the others. -/
theorem mem_update_key [BEq κ] [LawfulBEq κ] {table : Table key} {k : κ} {row other : ρ}
    (found : table.find? k = some row)
    (mem : other ∈ table.update (fun row => key row == k) change kept) :
    other = change row ∨ (other ∈ table ∧ key other ≠ k) := by
  obtain ⟨stored, named⟩ := find?_eq_some.mp found
  obtain ⟨old, memOld, rfl⟩ := mem_update.mp mem
  by_cases hit : key old = k
  · have same : old = row := eq_of_key memOld stored (hit.trans named.symm)
    exact .inl (by rw [rewrite_of_key hit, same])
  · rw [rewrite_of_key_ne hit]
    exact .inr ⟨memOld, hit⟩

omit [DecidableEq κ] in
/-- A selection that neither gains nor loses rows by an update is rewritten row by row. -/
theorem select_update {table : Table key} (wanted : ρ → Bool)
    (stable : ∀ row, wanted (change row) = wanted row) :
    (table.update chosen change kept).select wanted =
      (table.select wanted).map (rewrite chosen change) := by
  have same : (wanted ∘ rewrite chosen change) = wanted := by
    funext row
    simp only [Function.comp_apply, rewrite]
    split
    · exact stable row
    · rfl
  simp only [select, update, List.filter_map, same]

/-! ## Deletion -/

/-- `DELETE ... WHERE`. -/
def delete (table : Table key) (dropped : ρ → Bool) : Table key where
  rows := table.rows.filter (fun row => !dropped row)
  keyed := (List.filter_sublist.map key).nodup table.keyed

omit [DecidableEq κ] in
/-- The rows after a deletion. -/
theorem mem_delete {table : Table key} {dropped : ρ → Bool} {row : ρ} :
    row ∈ table.delete dropped ↔ row ∈ table ∧ dropped row = false := by
  rw [← mem_rows, delete, List.mem_filter, Bool.not_eq_true', mem_rows]

/-- The row of a key after a deletion. -/
theorem find?_delete {table : Table key} {dropped : ρ → Bool} (k : κ) :
    (table.delete dropped).find? k = (table.find? k).filter (fun row => !dropped row) := by
  cases found : table.find? k with
  | none =>
    rw [Option.filter_none, find?_eq_none]
    intro row mem
    exact find?_eq_none.mp found row (mem_delete.mp mem).1
  | some row =>
    obtain ⟨mem, named⟩ := find?_eq_some.mp found
    cases gone : dropped row with
    | false =>
      have kept : (some row).filter (fun row => !dropped row) = some row := by simp [gone]
      rw [kept, find?_eq_some]
      exact ⟨mem_delete.mpr ⟨mem, gone⟩, named⟩
    | true =>
      have cleared : (some row).filter (fun row => !dropped row) = none := by simp [gone]
      rw [cleared, find?_eq_none]
      intro other memOther same
      obtain ⟨inTable, stays⟩ := mem_delete.mp memOther
      rw [eq_of_key inTable mem (same.trans named.symm)] at stays
      rw [gone] at stays
      cases stays

/-! ## Upsert -/

/-- `INSERT ... ON CONFLICT DO UPDATE`: the row replaces the one with its key. -/
def put (table : Table key) (row : ρ) : Table key :=
  ((table.delete fun other => key other = key row).insert? row).getD table

/-- A row with a fresh key comes last. -/
theorem rows_put_of_fresh {table : Table key} {row : ρ}
    (fresh : ∀ other ∈ table, key other ≠ key row) : (table.put row).rows = table.rows ++ [row] := by
  have kept : (table.delete fun other => key other = key row).rows = table.rows := by
    refine List.filter_eq_self.mpr fun other mem => ?_
    simpa using fresh other mem
  have inserted : ((table.delete fun other => key other = key row).insert? row).isSome = true := by
    refine insert?_isSome.mpr fun other mem => fresh other ?_
    rw [← mem_rows, kept] at mem
    exact mem
  rcases Option.isSome_iff_exists.mp inserted with ⟨later, inserted⟩
  rw [put, inserted, Option.getD_some, rows_of_insert? inserted, kept]

/-- The row of a key after a row was put. -/
theorem find?_put {table : Table key} {row : ρ} (k : κ) :
    (table.put row).find? k = if key row = k then some row else table.find? k := by
  have fresh : ((table.delete fun other => key other = key row).insert? row).isSome = true := by
    apply insert?_isSome.mpr
    intro other mem
    simpa using (mem_delete.mp mem).2
  rcases Option.isSome_iff_exists.mp fresh with ⟨later, inserted⟩
  rw [put, inserted, Option.getD_some, find?_of_insert? k inserted]
  by_cases same : key row = k
  · rw [if_pos same, if_pos same]
  · rw [if_neg same, if_neg same, find?_delete]
    cases found : table.find? k with
    | none => rfl
    | some other =>
      have apart : key other ≠ key row := by
        rw [(find?_eq_some.mp found).2]
        exact Ne.symm same
      simp [apart]

end Table

end Iq.Library
