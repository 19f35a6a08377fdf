import Mathlib.Data.List.Sort
import Sastsimi.Lib.Json
import Sastsimi.Lib.JsonText

/-!
# Encoded JSON values

The text of a JSON value without spaces, and the canonical form of a value, which lists the
fields of every object by key.
-/

namespace Sastsimi.Lib

/-- The characters between the quotes of an encoded string. -/
def escaped (text : List Char) : List Char := text.flatMap fun character => (escapeChar character).toList

@[simp] theorem escaped_nil : escaped [] = [] := rfl

@[simp] theorem escaped_cons (character : Char) (rest : List Char) :
    escaped (character :: rest) = (escapeChar character).toList ++ escaped rest := rfl

@[simp] theorem escaped_append (front back : List Char) :
    escaped (front ++ back) = escaped front ++ escaped back := List.flatMap_append

/-- An encoded string with its quotes. -/
def quoted (text : String) : List Char := '"' :: (escaped text.toList ++ ['"'])

/-! ## Escapes -/

/-- A control character, whose escape ends in letters or digits. -/
def isControl (character : Char) : Bool := decide (character.toNat < 32)

/-- A character that an encoded string holds as it is. -/
def isPlain (character : Char) : Bool :=
  !isControl character && character != '"' && character != '\\'

section Escapes

variable {text : List Char} {character : Char}

theorem escapeChar_plain (plain : isPlain character = true) :
    (escapeChar character).toList = [character] := by
  have quote : character.toNat ≠ 34 := by
    intro code
    rw [← Char.ofNat_toNat character, code] at plain
    exact absurd plain (by decide)
  have backslash : character.toNat ≠ 92 := by
    intro code
    rw [← Char.ofNat_toNat character, code] at plain
    exact absurd plain (by decide)
  have large : ¬ character.toNat < 32 := by
    intro small
    simp [isPlain, isControl, small] at plain
  rw [escapeChar.eq_def]
  split <;> first | omega | simp [large]

theorem special_cases (special : isPlain character = false) :
    isControl character = true ∨
      (isControl character = false ∧ (character = '"' ∨ character = '\\')) := by
  cases control : isControl character with
  | true => exact .inl rfl
  | false =>
      refine .inr ⟨rfl, ?_⟩
      have other : ¬ character = '"' → character = '\\' := by
        simpa [isPlain, control] using special
      exact or_iff_not_imp_left.2 other

theorem escaped_plain (plain : text.all isPlain = true) : escaped text = text := by
  induction text with
  | nil => rfl
  | cons character rest ih =>
      rw [List.all_cons, Bool.and_eq_true] at plain
      rw [escaped_cons, escapeChar_plain plain.1, ih plain.2, List.singleton_append]

end Escapes

namespace Json

/-! ## Text -/

mutual

/-- The text of a value. -/
def text : Json → List Char
  | .null => "null".toList
  | .bool true => "true".toList
  | .bool false => "false".toList
  | .int value => (toString value).toList
  | .float digits => digits.toList
  | .str value => quoted value
  | .arr [] => "[]".toList
  | .arr (first :: rest) => '[' :: (first.text ++ (itemsText rest ++ [']']))
  | .obj [] => "\x7b\x7d".toList
  | .obj ((key, value) :: rest) =>
      '\x7b' :: (quoted key ++ ':' :: (value.text ++ (fieldsText rest ++ ['\x7d'])))

/-- The later items of an array. -/
def itemsText : List Json → List Char
  | [] => []
  | value :: rest => ',' :: (value.text ++ itemsText rest)

/-- The later fields of an object. -/
def fieldsText : List (String × Json) → List Char
  | [] => []
  | (key, value) :: rest => ',' :: (quoted key ++ ':' :: (value.text ++ fieldsText rest))

end

/-! ## Strings -/

mutual

/-- The keys and the string values of a value, in the order of its text. -/
def strings : Json → List String
  | .str value => [value]
  | .arr items => itemStrings items
  | .obj fields => fieldStrings fields
  | _ => []

def itemStrings : List Json → List String
  | [] => []
  | value :: rest => value.strings ++ itemStrings rest

def fieldStrings : List (String × Json) → List String
  | [] => []
  | (key, value) :: rest => key :: (value.strings ++ fieldStrings rest)

end

/-! ## Canonical form -/

mutual

/-- The value with the fields of every object sorted by key. -/
def sorted : Json → Json
  | .arr items => .arr (sortedItems items)
  | .obj fields => .obj ((sortedFields fields).insertionSort fun left right => left.1 ≤ right.1)
  | value => value

def sortedItems : List Json → List Json
  | [] => []
  | value :: rest => value.sorted :: sortedItems rest

def sortedFields : List (String × Json) → List (String × Json)
  | [] => []
  | (key, value) :: rest => (key, value.sorted) :: sortedFields rest

end

mutual

/-- Every number of the value is an integer. -/
def integral : Json → Bool
  | .float _ => false
  | .arr items => integralItems items
  | .obj fields => integralFields fields
  | _ => true

def integralItems : List Json → Bool
  | [] => true
  | value :: rest => value.integral && integralItems rest

def integralFields : List (String × Json) → Bool
  | [] => true
  | (_, value) :: rest => value.integral && integralFields rest

end

theorem integralItems_eq (items : List Json) : integralItems items = items.all integral := by
  induction items with
  | nil => rfl
  | cons value rest ih => rw [integralItems, List.all_cons, ih]

theorem integralFields_eq (fields : List (String × Json)) :
    integralFields fields = fields.all fun field => field.2.integral := by
  induction fields with
  | nil => rfl
  | cons field rest ih => rw [integralFields, List.all_cons, ih]

mutual

/-- Sorting the fields of its objects keeps the numbers of a value. -/
theorem integral_sorted : ∀ value : Json, value.sorted.integral = value.integral
  | .null => rfl
  | .bool _ => rfl
  | .int _ => rfl
  | .float _ => rfl
  | .str _ => rfl
  | .arr items => by rw [sorted, integral, integral, integral_sortedItems items]
  | .obj fields => by
      rw [sorted, integral, integral, ← integral_sortedFields fields, integralFields_eq,
        integralFields_eq]
      exact (List.perm_insertionSort _ _).all_eq

theorem integral_sortedItems : ∀ items : List Json,
    integralItems (sortedItems items) = integralItems items
  | [] => rfl
  | value :: rest => by
      rw [sortedItems, integralItems, integralItems, integral_sorted value,
        integral_sortedItems rest]

theorem integral_sortedFields : ∀ fields : List (String × Json),
    integralFields (sortedFields fields) = integralFields fields
  | [] => rfl
  | (_, value) :: rest => by
      rw [sortedFields, integralFields, integralFields, integral_sorted value,
        integral_sortedFields rest]

end

/-- The canonical text; a number that is no integer has none. -/
def canonical (value : Json) : Option (List Char) :=
  if value.integral then some value.sorted.text else none

end Json

end Sastsimi.Lib
