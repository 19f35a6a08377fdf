import Mathlib.Data.String.Basic
import Sastsimi.Lib.JsonUnique
import Sastsimi.Lib.KeyedSort

/-!
# Forms of JSON values

Induction over the parts of a value, values whose objects are dictionaries, and the form that
lists the fields of every object by key: sorting a form again changes nothing, and values with
one text have one form.
-/

namespace Sastsimi.Lib

namespace Json

/-! ## Parts -/

/-- What holds of a value if it holds of its items and fields holds of every value. -/
theorem byParts {motive : Json → Prop} (null : motive .null) (bool : ∀ value, motive (.bool value))
    (int : ∀ number, motive (.int number)) (float : ∀ digits, motive (.float digits))
    (str : ∀ text, motive (.str text))
    (arr : ∀ items : List Json, (∀ item ∈ items, motive item) → motive (.arr items))
    (obj : ∀ fields : List (String × Json), (∀ field ∈ fields, motive field.2) →
      motive (.obj fields)) (value : Json) : motive value := by
  refine @Json.rec motive (fun items => ∀ item ∈ items, motive item)
    (fun fields => ∀ field ∈ fields, motive field.2) (fun field => motive field.2)
    null bool int float str arr obj ?noItem ?item ?noField ?field (fun _ _ content => content) value
  case noItem | noField => exact fun _ member => absurd member List.not_mem_nil
  case item | field =>
    intro first rest head tail item member
    rcases List.mem_cons.1 member with rfl | later
    · exact head
    · exact tail item later

theorem sortedItems_eq_map (items : List Json) : sortedItems items = items.map sorted := by
  induction items with
  | nil => rfl
  | cons item rest ih => rw [sortedItems, List.map_cons, ih]

theorem sortedFields_eq_map (fields : List (String × Json)) :
    sortedFields fields = fields.map fun field => (field.1, field.2.sorted) := by
  induction fields with
  | nil => rfl
  | cons field rest ih => rw [sortedFields, List.map_cons, ih]

/-! ## Dictionaries -/

mutual

/-- The keys of every object are distinct. -/
def uniqueKeys : Json → Bool
  | .arr items => uniqueItems items
  | .obj fields => decide (fields.map Prod.fst).Nodup && uniqueFields fields
  | _ => true

def uniqueItems : List Json → Bool
  | [] => true
  | item :: rest => item.uniqueKeys && uniqueItems rest

def uniqueFields : List (String × Json) → Bool
  | [] => true
  | (_, value) :: rest => value.uniqueKeys && uniqueFields rest

end

theorem uniqueItems_eq (items : List Json) : uniqueItems items = items.all uniqueKeys := by
  induction items with
  | nil => rfl
  | cons item rest ih => rw [uniqueItems, List.all_cons, ih]

theorem uniqueFields_eq (fields : List (String × Json)) :
    uniqueFields fields = fields.all fun field => field.2.uniqueKeys := by
  induction fields with
  | nil => rfl
  | cons field rest ih => rw [uniqueFields, List.all_cons, ih]

@[simp] theorem uniqueKeys_arr {items : List Json} :
    (Json.arr items).uniqueKeys = true ↔ ∀ item ∈ items, item.uniqueKeys = true := by
  rw [uniqueKeys, uniqueItems_eq, List.all_eq_true]

@[simp] theorem uniqueKeys_obj {fields : List (String × Json)} :
    (Json.obj fields).uniqueKeys = true ↔
      (fields.map Prod.fst).Nodup ∧ ∀ field ∈ fields, field.2.uniqueKeys = true := by
  rw [uniqueKeys, uniqueFields_eq, Bool.and_eq_true, decide_eq_true_eq, List.all_eq_true]

@[simp] theorem integral_arr {items : List Json} :
    (Json.arr items).integral = true ↔ ∀ item ∈ items, item.integral = true := by
  rw [integral, integralItems_eq, List.all_eq_true]

@[simp] theorem integral_obj {fields : List (String × Json)} :
    (Json.obj fields).integral = true ↔ ∀ field ∈ fields, field.2.integral = true := by
  rw [integral, integralFields_eq, List.all_eq_true]

theorem numberedItems_eq (items : List Json) : numberedItems items = items.all numbered := by
  induction items with
  | nil => rfl
  | cons item rest ih => rw [numberedItems, List.all_cons, ih]

theorem numberedFields_eq (fields : List (String × Json)) :
    numberedFields fields = fields.all fun field => field.2.numbered := by
  induction fields with
  | nil => rfl
  | cons field rest ih => rw [numberedFields, List.all_cons, ih]

@[simp] theorem numbered_arr {items : List Json} :
    (Json.arr items).numbered = true ↔ ∀ item ∈ items, item.numbered = true := by
  rw [numbered, numberedItems_eq, List.all_eq_true]

@[simp] theorem numbered_obj {fields : List (String × Json)} :
    (Json.obj fields).numbered = true ↔ ∀ field ∈ fields, field.2.numbered = true := by
  rw [numbered, numberedFields_eq, List.all_eq_true]

/-! ## Sorted forms -/

/-- The sorted form of an object. -/
theorem sorted_obj (fields : List (String × Json)) :
    (Json.obj fields).sorted =
      .obj ((fields.map fun field => (field.1, field.2.sorted)).insertionSort
        fun left right => left.1 ≤ right.1) := by
  rw [sorted, sortedFields_eq_map]

theorem sorted_arr (items : List Json) : (Json.arr items).sorted = .arr (items.map sorted) := by
  rw [sorted, sortedItems_eq_map]

/-- Sorting a form again changes nothing. -/
@[simp] theorem sorted_sorted (value : Json) : value.sorted.sorted = value.sorted := by
  induction value using byParts with
  | arr items ih =>
      rw [sorted_arr, sorted_arr, List.map_map]
      exact congrArg Json.arr (List.map_congr_left ih)
  | obj fields ih =>
      have same : (fields.map fun field => (field.1, field.2.sorted)).map
          (fun field => (field.1, field.2.sorted)) =
          fields.map fun field => (field.1, field.2.sorted) := by
        rw [List.map_map]
        exact List.map_congr_left fun field member => congrArg (Prod.mk field.1) (ih field member)
      rw [sorted_obj, sorted_obj]
      have moved := map_insertionSort Prod.fst
        (fun field : String × Json => (field.1, field.2.sorted)) Prod.fst
        (fields.map fun field => (field.1, field.2.sorted)) fun _ _ => rfl
      rw [moved, same]
      exact congrArg Json.obj (insertionSort_again _)
  | _ => rfl

/-- Sorting keeps the numbers of a value. -/
theorem numbered_sorted (value : Json) : value.sorted.numbered = true ↔ value.numbered = true := by
  induction value using byParts with
  | arr items ih =>
      rw [sorted_arr, numbered_arr, numbered_arr, List.forall_mem_map]
      exact forall₂_congr ih
  | obj fields ih =>
      have inOrder := List.perm_insertionSort (fun left right : String × Json => left.1 ≤ right.1)
        (fields.map fun field => (field.1, field.2.sorted))
      simp only [sorted_obj, numbered_obj, inOrder.mem_iff, List.forall_mem_map]
      exact forall₂_congr ih
  | _ => rfl

/-- Values with one text have one sorted form. -/
theorem sorted_text_inj {value other : Json} (numbered : value.numbered = true)
    (numbered' : other.numbered = true) (same : value.sorted.text = other.sorted.text) :
    value.sorted = other.sorted :=
  (text_inj _ _ [] [] ((numbered_sorted value).2 numbered) ((numbered_sorted other).2 numbered')
    rfl rfl (congrArg (· ++ []) same)).1

end Json

end Sastsimi.Lib
