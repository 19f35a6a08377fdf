import Mathlib.Data.List.Basic

/-!
# JSON values

Dictionaries as lists of entries, and the values that a JSON decoder returns.  A number
written without fraction and exponent is an integer; every other number is kept as text.
-/

namespace Sastsimi.Lib

/-! ## Dictionaries -/

section Dictionary

variable {β : Type} {key : String} {value : β} {fields : List (String × β)}

/-- Replace the value of a key where it stands, or add the key at the end. -/
def assign (key : String) (value : β) : List (String × β) → List (String × β)
  | [] => [(key, value)]
  | (found, old) :: rest =>
      if found = key then (key, value) :: rest else (found, old) :: assign key value rest

theorem lookup_assign_same : (assign key value fields).lookup key = some value := by
  induction fields with
  | nil => simp [assign]
  | cons field rest ih =>
      rw [assign]
      split
      · simp
      · rename_i other
        have differs : (key == field.1) = false := by simpa using Ne.symm other
        rw [List.lookup_cons, differs, ih]

theorem lookup_assign_other {other : String} (differs : other ≠ key) :
    (assign key value fields).lookup other = fields.lookup other := by
  have unequal : (other == key) = false := by simpa using differs
  induction fields with
  | nil => simp [assign, List.lookup_cons, unequal]
  | cons field rest ih =>
      rw [assign]
      split
      · rename_i same
        rw [List.lookup_cons, List.lookup_cons, ← same, same, unequal]
      · rw [List.lookup_cons, List.lookup_cons, ih]

theorem mem_assign {entry : String × β} (member : entry ∈ assign key value fields) :
    entry = (key, value) ∨ entry ∈ fields := by
  induction fields with
  | nil => exact .inl (List.mem_singleton.1 member)
  | cons field rest ih =>
      rw [assign] at member
      split at member
      · rcases List.mem_cons.1 member with rfl | old
        · exact .inl rfl
        · exact .inr (List.mem_cons_of_mem _ old)
      · rcases List.mem_cons.1 member with rfl | later
        · exact .inr List.mem_cons_self
        · exact (ih later).imp_right (List.mem_cons_of_mem _)

/-- Assigning keeps the keys of a dictionary distinct. -/
theorem keys_assign_nodup (distinct : (fields.map Prod.fst).Nodup) :
    ((assign key value fields).map Prod.fst).Nodup := by
  induction fields with
  | nil => simp [assign]
  | cons field rest ih =>
      rw [List.map_cons, List.nodup_cons] at distinct
      rw [assign]
      split
      · rename_i same
        rw [List.map_cons, List.nodup_cons]
        exact ⟨same ▸ distinct.1, distinct.2⟩
      · rename_i other
        rw [List.map_cons, List.nodup_cons]
        refine ⟨fun repeated => ?_, ih distinct.2⟩
        obtain ⟨entry, member, sameKey⟩ := List.mem_map.1 repeated
        rcases mem_assign member with rfl | old
        · exact other sameKey.symm
        · exact distinct.1 (sameKey ▸ List.mem_map_of_mem old)

/-- Assigning a known key keeps the keys of a dictionary. -/
theorem keys_assign (known : key ∈ fields.map Prod.fst) :
    (assign key value fields).map Prod.fst = fields.map Prod.fst := by
  induction fields with
  | nil => cases known
  | cons field rest ih =>
      rw [assign]
      split
      · rename_i same
        rw [List.map_cons, List.map_cons, same]
      · rename_i other
        rw [List.map_cons, List.mem_cons] at known
        rw [List.map_cons, List.map_cons, ih (known.resolve_left (Ne.symm other))]

/-- After assigning a known key the dictionary holds the new value and the other entries. -/
theorem mem_assign_iff (distinct : (fields.map Prod.fst).Nodup) (known : key ∈ fields.map Prod.fst)
    {entry : String × β} :
    entry ∈ assign key value fields ↔ entry = (key, value) ∨ (entry ∈ fields ∧ entry.1 ≠ key) := by
  induction fields with
  | nil => cases known
  | cons field rest ih =>
      rw [List.map_cons, List.nodup_cons] at distinct
      rw [List.map_cons, List.mem_cons] at known
      rw [assign]
      split
      · rename_i same
        have others : ∀ entry ∈ rest, entry.1 ≠ key := by
          intro entry member isKey
          exact distinct.1 (same ▸ isKey ▸ List.mem_map_of_mem member)
        rw [List.mem_cons, List.mem_cons]
        constructor
        · rintro (rfl | later)
          · exact .inl rfl
          · exact .inr ⟨.inr later, others entry later⟩
        · rintro (rfl | ⟨rfl | later, different⟩)
          · exact .inl rfl
          · exact absurd same different
          · exact .inr later
      · rename_i other
        rw [List.mem_cons, List.mem_cons, ih distinct.2 (known.resolve_left (Ne.symm other))]
        constructor
        · rintro (rfl | rfl | ⟨later, different⟩)
          · exact .inr ⟨.inl rfl, other⟩
          · exact .inl rfl
          · exact .inr ⟨.inr later, different⟩
        · rintro (rfl | ⟨rfl | later, different⟩)
          · exact .inr (.inl rfl)
          · exact .inl rfl
          · exact .inr (.inr ⟨later, different⟩)

/-- A key has a value where it is one of the keys. -/
theorem lookup_isSome_iff : (fields.lookup key).isSome = true ↔ key ∈ fields.map Prod.fst := by
  induction fields with
  | nil => simp
  | cons field rest ih =>
      rw [List.lookup_cons, List.map_cons, List.mem_cons]
      by_cases same : key = field.1
      · simp [same]
      · have differs : (key == field.1) = false := by simpa using same
        rw [differs, ih]
        simp [same]

/-- A value that is looked up is stored under its key. -/
theorem mem_of_lookup (found : fields.lookup key = some value) : (key, value) ∈ fields := by
  induction fields with
  | nil => cases found
  | cons field rest ih =>
      rw [List.lookup_cons] at found
      split at found
      · rename_i same
        have same : key = field.1 := by simpa using same
        cases found
        rw [same]
        exact List.mem_cons_self
      · exact List.mem_cons_of_mem _ (ih found)

end Dictionary

/-! ## Values -/

/-- A decoded JSON value; an object lists its fields in the order of the text. -/
inductive Json where
  | null
  | bool (value : Bool)
  | int (value : Int)
  | float (text : String)
  | str (value : String)
  | arr (items : List Json)
  | obj (fields : List (String × Json))
  deriving BEq

namespace Json

/-- The value under a key; nothing for a value that is not an object. -/
def get? : Json → String → Option Json
  | .obj fields, key => fields.lookup key
  | _, _ => none

/-- The value under a key, or a default. -/
def getD (value : Json) (key : String) (default : Json) : Json := (value.get? key).getD default

def isObj : Json → Bool
  | .obj _ => true
  | _ => false

def str? : Json → Option String
  | .str value => some value
  | _ => none

def int? : Json → Option Int
  | .int value => some value
  | _ => none

def arr? : Json → Option (List Json)
  | .arr items => some items
  | _ => none

/-- Assign a key of an object. -/
def set : Json → String → Json → Json
  | .obj fields, key, value => .obj (assign key value fields)
  | other, _, _ => other

/-- An assigned key of an object has the assigned value. -/
@[simp] theorem get?_set_same {key : String} {value object : Json} (isObject : object.isObj) :
    (object.set key value).get? key = some value := by
  cases object with
  | obj fields => exact lookup_assign_same
  | _ => cases isObject

/-- Assigning one key leaves every other key as it was. -/
@[simp] theorem get?_set_other {key other : String} {value object : Json} (differs : other ≠ key) :
    (object.set key value).get? other = object.get? other := by
  cases object with
  | obj fields => exact lookup_assign_other differs
  | _ => rfl

@[simp] theorem isObj_set {key : String} {value object : Json} :
    (object.set key value).isObj = object.isObj := by
  cases object <;> rfl

theorem str?_eq_some {value : Json} {text : String} : value.str? = some text ↔ value = .str text := by
  cases value <;> simp [str?]

theorem arr?_eq_some {value : Json} {items : List Json} :
    value.arr? = some items ↔ value = .arr items := by
  cases value <;> simp [arr?]

end Json

end Sastsimi.Lib
