import Mathlib.Algebra.Order.BigOperators.Group.List
import Mathlib.Algebra.Order.Ring.Nat
import Mathlib.Data.List.Nodup

/-!
# Tables with a primary key

The rows of a table in the order they were inserted, no two of them with one key.  A row is
inserted only under a key that no row has, and an update changes the selected rows but not
their keys.
-/

namespace Sastsimi.Lib

/-- The rows of a table, and that no two have one key. -/
structure Table {ρ κ : Type} (key : ρ → κ) where
  rows : List ρ
  unique : (rows.map key).Nodup

namespace Table

variable {ρ κ : Type} {key : ρ → κ}

/-- A table without rows. -/
def empty : Table key := ⟨[], List.nodup_nil⟩

/-- What a change keeps of every row is as before. -/
theorem map_changed {α : Type} {rows : List ρ} {selects : ρ → Bool} {change : ρ → ρ}
    {part : ρ → α} (keeps : ∀ row, part (change row) = part row) :
    (rows.map fun row => if selects row then change row else row).map part = rows.map part := by
  rw [List.map_map]
  apply List.map_congr_left
  intro row _
  rw [Function.comp_apply]
  split
  · exact keeps row
  · rfl

/-- Change the selected rows. -/
def update (table : Table key) (selects : ρ → Bool) (change : ρ → ρ)
    (keeps : ∀ row, key (change row) = key row) : Table key where
  rows := table.rows.map fun row => if selects row then change row else row
  unique := by
    rw [map_changed keeps]
    exact table.unique

/-- What a change keeps of the selected rows stays the same of all rows. -/
theorem map_update {α : Type} {table : Table key} {selects : ρ → Bool} {change : ρ → ρ}
    (keeps : ∀ row, key (change row) = key row) {shown : ρ → α}
    (same : ∀ row ∈ table.rows, selects row = true → shown (change row) = shown row) :
    (table.update selects change keeps).rows.map shown = table.rows.map shown := by
  rw [update, List.map_map]
  apply List.map_congr_left
  intro row member
  rw [Function.comp_apply]
  split
  · rename_i selected
    exact same row member selected
  · rfl

section Lookup

variable [DecidableEq κ]

/-- The row under a key. -/
def find (table : Table key) (value : κ) : Option ρ :=
  table.rows.find? fun row => key row = value

/-- Insert a row under a new key. -/
def insert (table : Table key) (row : ρ) : Option (Table key) :=
  if fresh : key row ∈ table.rows.map key then none
  else
    some
      { rows := table.rows ++ [row]
        unique := by
          rw [List.map_append, List.nodup_append]
          refine ⟨table.unique, by simp, ?_⟩
          intro left member right last equal
          rw [List.map_singleton, List.mem_singleton] at last
          exact fresh (last ▸ equal ▸ member) }

end Lookup

/-! ## Deletion -/

/-- The keys of a selection are distinct. -/
theorem filter_keys_nodup (table : Table key) (selects : ρ → Bool) :
    ((table.rows.filter selects).map key).Nodup :=
  table.unique.sublist (List.filter_sublist.map key)

/-- Delete the selected rows. -/
def delete (table : Table key) (selects : ρ → Bool) : Table key where
  rows := table.rows.filter fun row => !selects row
  unique := table.filter_keys_nodup _

@[simp] theorem mem_delete {table : Table key} {selects : ρ → Bool} {row : ρ} :
    row ∈ (table.delete selects).rows ↔ row ∈ table.rows ∧ ¬ selects row = true := by
  simp [delete]

/-- What one deletion after another leaves. -/
theorem mem_foldl_delete {α : Type} {table : Table key} {selects : α → ρ → Bool}
    {items : List α} {row : ρ} :
    row ∈ (items.foldl (fun table item => table.delete (selects item)) table).rows ↔
      row ∈ table.rows ∧ ∀ item ∈ items, ¬ selects item row = true := by
  induction items generalizing table with
  | nil => simp
  | cons item rest ih =>
      rw [List.foldl_cons, ih, mem_delete, List.forall_mem_cons, and_assoc]

/-- Insert a row, or replace the row of its key. -/
def put [DecidableEq κ] (table : Table key) (row : ρ) : Table key where
  rows := (table.delete fun other => decide (key other = key row)).rows ++ [row]
  unique := by
    rw [List.map_append, List.nodup_append]
    refine ⟨Table.unique _, by simp, ?_⟩
    intro left member right last same
    obtain ⟨other, stored, rfl⟩ := List.mem_map.1 member
    rw [List.map_singleton, List.mem_singleton] at last
    exact (mem_delete.1 stored).2 (decide_eq_true (same.trans last))

theorem mem_put [DecidableEq κ] {table : Table key} {row other : ρ} :
    other ∈ (table.put row).rows ↔ other ∈ table.rows ∧ key other ≠ key row ∨ other = row := by
  simp [put]

/-! ## Lookup -/

variable [DecidableEq κ] {table after : Table key} {row : ρ} {value : κ}

omit [DecidableEq κ] in
/-- Two rows of one key are one row. -/
theorem eq_of_key {left right : ρ} (first : left ∈ table.rows) (second : right ∈ table.rows)
    (same : key left = key right) : left = right :=
  List.inj_on_of_nodup_map table.unique first second same

theorem find_eq_some : table.find value = some row ↔ row ∈ table.rows ∧ key row = value := by
  constructor
  · intro found
    exact ⟨List.mem_of_find?_eq_some found, by simpa using List.find?_some found⟩
  · rintro ⟨member, rfl⟩
    cases found : table.find (key row) with
    | none =>
        have other : ¬ key row = key row := by simpa using List.find?_eq_none.1 found row member
        exact absurd rfl other
    | some other =>
        have same : key other = key row := by simpa using List.find?_some found
        rw [eq_of_key (List.mem_of_find?_eq_some found) member same]

theorem find_eq_none : table.find value = none ↔ ∀ row ∈ table.rows, key row ≠ value := by
  rw [find, List.find?_eq_none]
  simp

/-- A row is inserted exactly when its key is new. -/
theorem insert_eq_some :
    table.insert row = some after ↔
      table.find (key row) = none ∧ after.rows = table.rows ++ [row] := by
  rw [insert, find_eq_none]
  cases after
  split
  · rename_i taken
    obtain ⟨other, member, same⟩ := List.mem_map.1 taken
    simp only [reduceCtorEq, false_iff, not_and]
    exact fun free => absurd same (free other member)
  · rename_i free
    simp only [Option.some.injEq, mk.injEq]
    constructor
    · rintro rfl
      exact ⟨fun other member same => free (List.mem_map.2 ⟨other, member, same⟩), rfl⟩
    · exact fun inserted => inserted.2.symm

theorem insert_eq_none : table.insert row = none ↔ table.find (key row) ≠ none := by
  rw [insert, Ne, find_eq_none]
  split
  · rename_i taken
    obtain ⟨other, member, same⟩ := List.mem_map.1 taken
    simp only [true_iff]
    exact fun free => free other member same
  · rename_i free
    simp only [reduceCtorEq, false_iff, not_not]
    exact fun other member same => free (List.mem_map.2 ⟨other, member, same⟩)

/-- An inserted row is found under its key, and the others as before. -/
theorem find_insert (inserted : table.insert row = some after) :
    after.find value = if value = key row then some row else table.find value := by
  obtain ⟨fresh, rows⟩ := insert_eq_some.1 inserted
  rw [find, rows, List.find?_append]
  split
  · rename_i same
    subst same
    have missing : table.rows.find? (fun found => key found = key row) = none := fresh
    simp [missing]
  · rename_i other
    have differs : key row ≠ value := Ne.symm other
    simp [find, differs]

/-- A row of a selection is found under its key. -/
theorem filter_find_isSome {selects : ρ → Bool} :
    ((table.find value).filter selects).isSome = true ↔
      value ∈ (table.rows.filter selects).map key := by
  rw [Option.isSome_iff_exists, List.mem_map]
  constructor
  · rintro ⟨row, found⟩
    obtain ⟨found, selected⟩ := Option.filter_eq_some_iff.1 found
    obtain ⟨member, same⟩ := find_eq_some.1 found
    exact ⟨row, List.mem_filter.2 ⟨member, selected⟩, same⟩
  · rintro ⟨row, member, same⟩
    obtain ⟨member, selected⟩ := List.mem_filter.1 member
    exact ⟨row, Option.filter_eq_some_iff.2 ⟨find_eq_some.2 ⟨member, same⟩, selected⟩⟩

/-- A changed row is found under its key. -/
theorem find_update {selects : ρ → Bool} {change : ρ → ρ}
    {keeps : ∀ row, key (change row) = key row} :
    (table.update selects change keeps).find value =
      (table.find value).map fun row => if selects row then change row else row := by
  have same : ((fun row => decide (key row = value))
      ∘ fun row => if selects row then change row else row) = fun row => decide (key row = value) := by
    funext row
    rw [Function.comp_apply]
    split
    · rw [keeps]
    · rfl
  rw [find, update, List.find?_map, same]
  rfl

/-- Changing the selected row of one key leaves the other rows as they were. -/
theorem find_update_one {selects : ρ → Bool} {change : ρ → ρ}
    {keeps : ∀ row, key (change row) = key row}
    (keyed : ∀ row, selects row = true → key row = value) (found : table.find value = some row)
    (selected : selects row = true) (other : κ) :
    (table.update selects change keeps).find other =
      if other = value then some (change row) else table.find other := by
  rw [find_update]
  split
  · rename_i same
    rw [same, found, Option.map_some, if_pos selected]
  · rename_i differs
    cases stored : table.find other with
    | none => rfl
    | some kept =>
        have unselected : ¬ selects kept = true := by
          intro chosen
          exact differs ((find_eq_some.1 stored).2.symm.trans (keyed kept chosen))
        rw [Option.map_some, if_neg unselected]

/-- Changing the row of one key leaves the other rows as they were. -/
theorem find_update_key {change : ρ → ρ} {keeps : ∀ row, key (change row) = key row}
    (found : table.find value = some row) (other : κ) :
    (table.update (fun row => decide (key row = value)) change keeps).find other =
      if other = value then some (change row) else table.find other :=
  find_update_one (fun _ chosen => of_decide_eq_true chosen) found
    (decide_eq_true (find_eq_some.1 found).2) other

/-! ## Counting rows -/

/-- The number of selected rows: `rowcount` of an update. -/
def count (table : Table key) (selects : ρ → Bool) : Nat := table.rows.countP selects

omit [DecidableEq κ] in
/-- A selection of which no two rows differ is one row or none. -/
theorem count_le_one {selects : ρ → Bool}
    (same : ∀ left ∈ table.rows, ∀ right ∈ table.rows, selects left = true →
      selects right = true → left = right) : table.count selects ≤ 1 := by
  have distinct : (table.rows.filter selects).Nodup :=
    (List.Nodup.of_map key table.unique).filter selects
  have equal : ∀ left ∈ table.rows.filter selects, ∀ right ∈ table.rows.filter selects,
      left = right := by
    intro left first right second
    obtain ⟨first, leftSelected⟩ := List.mem_filter.1 first
    obtain ⟨second, rightSelected⟩ := List.mem_filter.1 second
    exact same left first right second leftSelected rightSelected
  rw [count, List.countP_eq_length_filter]
  match filtered : table.rows.filter selects with
  | [] => exact Nat.zero_le 1
  | [_] => exact Nat.le_refl 1
  | first :: second :: rest =>
      rw [filtered] at distinct equal
      have repeated : first = second := equal first (by simp) second (by simp)
      simp [repeated] at distinct

/-- A selection within one key is the row of that key, if it is selected. -/
theorem count_eq_one {selects : ρ → Bool} (keyed : ∀ row, selects row = true → key row = value) :
    table.count selects = 1 ↔ ∃ row, table.find value = some row ∧ selects row = true := by
  have one : table.count selects ≤ 1 := by
    apply count_le_one
    intro left first right second leftSelected rightSelected
    exact eq_of_key first second ((keyed left leftSelected).trans (keyed right rightSelected).symm)
  have chosen : 0 < table.count selects ↔ ∃ row ∈ table.rows, selects row = true :=
    List.countP_pos_iff
  constructor
  · intro single
    obtain ⟨row, member, selected⟩ := chosen.1 (by omega)
    exact ⟨row, find_eq_some.2 ⟨member, keyed row selected⟩, selected⟩
  · rintro ⟨row, found, selected⟩
    have positive := chosen.2 ⟨row, (find_eq_some.1 found).1, selected⟩
    omega

/-! ## Totals -/

/-- The sum of the weights of the rows. -/
def total (table : Table key) (weight : ρ → Nat) : Nat := (table.rows.map weight).sum

omit [DecidableEq κ] in
/-- Tables with the same weights of their rows have the same total. -/
theorem total_congr {first second : ρ → Nat}
    (same : ∀ row ∈ table.rows, first row = second row) :
    table.total first = table.total second := by
  rw [total, total, List.map_congr_left same]

omit [DecidableEq κ] in
/-- A larger weight of every row has a larger total. -/
theorem total_mono {first second : ρ → Nat}
    (less : ∀ row ∈ table.rows, first row ≤ second row) :
    table.total first ≤ table.total second :=
  List.sum_le_sum less

omit [DecidableEq κ] in
theorem total_add (first second : ρ → Nat) :
    table.total (fun row => first row + second row) = table.total first + table.total second :=
  List.sum_map_add

omit [DecidableEq κ] in
@[simp] theorem total_zero : table.total (fun _ => 0) = 0 := by
  simp [total]

/-- An inserted row adds its weight. -/
theorem total_insert (inserted : table.insert row = some after) (weight : ρ → Nat) :
    after.total weight = table.total weight + weight row := by
  rw [total, (insert_eq_some.1 inserted).2, List.map_append, List.sum_append]
  simp [total]

/-- A change of one row replaces its weight. -/
theorem total_update_one {selects : ρ → Bool} {change : ρ → ρ}
    {keeps : ∀ row, key (change row) = key row} (found : table.find value = some row)
    (selected : ∀ other ∈ table.rows, selects other = true ↔ key other = value)
    (weight : ρ → Nat) :
    (table.update selects change keeps).total weight + weight row
      = table.total weight + weight (change row) := by
  obtain ⟨member, keyed⟩ := find_eq_some.1 found
  obtain ⟨before, behind, split⟩ := List.append_of_mem member
  have distinct := table.unique
  rw [split, List.map_append, List.map_cons, List.nodup_append, List.nodup_cons] at distinct
  have unselected : ∀ other ∈ table.rows, key other ≠ value → ¬ selects other = true :=
    fun other stored differs chosen => differs ((selected other stored).1 chosen)
  have first : ∀ other ∈ before, (if selects other then change other else other) = other := by
    intro other stored
    refine if_neg (unselected other (by simp [split, stored]) ?_)
    intro same
    exact distinct.2.2 (key other) (List.mem_map_of_mem stored) (key row) List.mem_cons_self
      (same.trans keyed.symm)
  have second : ∀ other ∈ behind, (if selects other then change other else other) = other := by
    intro other stored
    refine if_neg (unselected other (by simp [split, stored]) ?_)
    intro same
    exact distinct.2.1.1 (List.mem_map.2 ⟨other, stored, same.trans keyed.symm⟩)
  have middle : (if selects row then change row else row) = change row :=
    if_pos ((selected row member).2 keyed)
  have changed : (table.update selects change keeps).rows
      = table.rows.map fun other => if selects other then change other else other := rfl
  rw [total, total, changed, split, List.map_append, List.map_cons, middle,
    List.map_congr_left first, List.map_congr_left second]
  simp only [List.map_id', List.map_append, List.map_cons, List.sum_append, List.sum_cons]
  omega

omit [DecidableEq κ] in
/-- A change that keeps every weight keeps the total. -/
theorem total_update {selects : ρ → Bool} {change : ρ → ρ}
    {keeps : ∀ row, key (change row) = key row} {weight : ρ → Nat}
    (same : ∀ row ∈ table.rows, selects row = true → weight (change row) = weight row) :
    (table.update selects change keeps).total weight = table.total weight := by
  rw [total, total, update, List.map_map]
  congr 1
  apply List.map_congr_left
  intro row member
  rw [Function.comp_apply]
  split
  · rename_i chosen
    exact same row member chosen
  · rfl

end Table

/-- The sum over a selection counts the other rows as nothing. -/
theorem sum_filter {ρ : Type} (rows : List ρ) (selects : ρ → Bool) (weight : ρ → Nat) :
    ((rows.filter selects).map weight).sum
      = (rows.map fun row => if selects row then weight row else 0).sum := by
  induction rows with
  | nil => rfl
  | cons row rest ih =>
      rw [List.filter_cons, List.map_cons, List.sum_cons]
      split
      · rw [List.map_cons, List.sum_cons, ih]
      · rw [ih, Nat.zero_add]

/-! ## Matched rows -/

/-- Two keyed lists have as many rows with a counterpart in the other. -/
theorem countP_matched {ρ σ κ : Type} [DecidableEq κ] {left : List ρ} {right : List σ}
    {key : ρ → κ} {other : σ → κ} (leftKeys : (left.map key).Nodup)
    (rightKeys : (right.map other).Nodup) :
    (left.countP fun row => key row ∈ right.map other) =
      right.countP fun row => other row ∈ left.map key := by
  have counted : ∀ {α β : Type} {rows : List α} {others : List β} {first : α → κ} {second : β → κ},
      (rows.countP fun row => first row ∈ others.map second)
        = ((rows.map first).filter fun value => value ∈ others.map second).length := by
    intro α β rows others first second
    rw [List.filter_map, List.length_map, List.countP_eq_length_filter]
    rfl
  rw [counted, counted]
  apply List.Perm.length_eq
  rw [List.perm_ext_iff_of_nodup (leftKeys.filter _) (rightKeys.filter _)]
  intro value
  simp only [List.mem_filter, decide_eq_true_eq]
  exact And.comm

end Sastsimi.Lib
