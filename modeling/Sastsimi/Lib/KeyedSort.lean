import Mathlib.Data.List.Perm.Basic
import Mathlib.Data.List.Sort
import Mathlib.Order.Basic

/-!
# Sorting by key

Items in the order of a key.  Where the keys are distinct the order is strict, so it is the same
for every list of the same items; sorting commutes with a test of the items and with a change that
keeps their keys.
-/

namespace Sastsimi.Lib

variable {α β γ : Type}

/-- A list with the values of another in some order has the values of the other reordered. -/
theorem exists_reorder {compute : α → β} {values : List β} {items : List α}
    (same : values.Perm (items.map compute)) :
    ∃ order : List α, values = order.map compute ∧ order.Perm items := by
  have composed : Relation.Comp (· = List.map compute ·) List.Perm values items := by
    rw [List.eq_map_comp_perm]
    exact same
  exact composed

variable [LinearOrder γ] {key : α → γ} {items others : List α}

/-- Items with distinct keys come in the strict order of their keys. -/
theorem insertionSort_strict (distinct : (items.map key).Nodup) :
    (items.insertionSort fun left right => key left ≤ key right).Pairwise
      fun first second => key first < key second := by
  have sorted := List.pairwise_insertionSort (fun left right => key left ≤ key right) items
  have different : ((items.insertionSort fun left right => key left ≤ key right).map key).Nodup :=
    ((List.perm_insertionSort _ items).map key).nodup_iff.2 distinct
  rw [List.Nodup, List.pairwise_map] at different
  exact sorted.imp₂ (fun _ _ below apart => lt_of_le_of_ne below apart) different

/-- Two strict orders of the same items are one. -/
theorem eq_of_strict (strict : items.Pairwise fun first second => key first < key second)
    (strict' : others.Pairwise fun first second => key first < key second)
    (same : items.Perm others) : items = others := by
  apply List.Perm.eq_of_pairwise _ strict strict' same
  intro left right _ _ below above
  exact absurd above below.asymm

/-- The items that pass come in the order of all items. -/
theorem filter_insertionSort (distinct : (items.map key).Nodup) (passes : α → Bool) :
    (items.filter passes).insertionSort (fun left right => key left ≤ key right) =
      (items.insertionSort fun left right => key left ≤ key right).filter passes := by
  have distinctPassing : ((items.filter passes).map key).Nodup :=
    distinct.sublist (List.filter_sublist.map key)
  have same : ((items.filter passes).insertionSort fun left right => key left ≤ key right).Perm
      ((items.insertionSort fun left right => key left ≤ key right).filter passes) :=
    (List.perm_insertionSort _ _).trans ((List.perm_insertionSort _ _).symm.filter passes)
  exact eq_of_strict (insertionSort_strict distinctPassing)
    ((insertionSort_strict distinct).filter passes) same

/-- Items with distinct keys are sorted alike in every order. -/
theorem insertionSort_perm (distinct : (items.map key).Nodup) (same : others.Perm items) :
    others.insertionSort (fun left right => key left ≤ key right) =
      items.insertionSort fun left right => key left ≤ key right := by
  have distinct' : (others.map key).Nodup := (same.map key).nodup_iff.2 distinct
  have sorted : (others.insertionSort fun left right => key left ≤ key right).Perm
      (items.insertionSort fun left right => key left ≤ key right) :=
    (List.perm_insertionSort _ _).trans (same.trans (List.perm_insertionSort _ _).symm)
  exact eq_of_strict (insertionSort_strict distinct') (insertionSort_strict distinct) sorted

/-- Sorting commutes with a change that keeps the keys. -/
theorem map_insertionSort (key : α → γ) (change : α → β) (changed : β → γ) (items : List α)
    (keeps : ∀ item ∈ items, changed (change item) = key item) :
    (items.insertionSort fun left right => key left ≤ key right).map change =
      (items.map change).insertionSort fun left right => changed left ≤ changed right := by
  apply List.map_insertionSort
  intro left member right member'
  rw [keeps left member, keeps right member']

/-- A sorted list stays as it is. -/
theorem insertionSort_again (items : List α) :
    (items.insertionSort fun left right => key left ≤ key right).insertionSort
        (fun left right => key left ≤ key right) =
      items.insertionSort fun left right => key left ≤ key right :=
  (List.pairwise_insertionSort (fun left right => key left ≤ key right) items).insertionSort_eq

end Sastsimi.Lib
