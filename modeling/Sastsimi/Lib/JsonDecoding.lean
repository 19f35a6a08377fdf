import Sastsimi.Lib.JsonForms
import Sastsimi.Lib.JsonGrammar

/-!
# Decoded values

`json.loads` with the values of the interpreter.  The members of an object become a dictionary, in
which a later value replaces an earlier one of its key where that stands; a number without fraction
and exponent becomes an integer.  What the encoder writes is decoded to the value it was written
from.
-/

namespace Sastsimi.Lib.Grammar

/-! ## Decoding -/

/-- The text of code points; there is none for half of a surrogate pair. -/
def textOf (codes : List Nat) : Option String :=
  if ∀ code ∈ codes, code.isValidChar then some (String.ofList (codes.map Char.ofNat)) else none

/-- The integer of a literal. -/
def integerOf : List Char → Int
  | '-' :: digits => -(Nat.ofDigitChars 10 digits 0 : Int)
  | digits => Nat.ofDigitChars 10 digits 0

/-- The number of a literal. -/
def numberOf (literal : List Char) : Json :=
  if literal.all fun character => character.isDigit || character == '-' then
    .int (integerOf literal)
  else .float (String.ofList literal)

mutual

/-- The value as the interpreter keeps it. -/
def Value.json? : Value → Option Json
  | .null => some .null
  | .bool value => some (.bool value)
  | .number literal => some (numberOf literal)
  | .str codes => (textOf codes).map Json.str
  | .arr items => (itemsJson? items).map Json.arr
  | .obj fields => (fieldsJson? [] fields).map Json.obj

def itemsJson? : List Value → Option (List Json)
  | [] => some []
  | item :: rest => do
      let value ← item.json?
      let values ← itemsJson? rest
      return value :: values

def fieldsJson? (built : List (String × Json)) : List (List Nat × Value) →
    Option (List (String × Json))
  | [] => some built
  | (codes, content) :: rest => do
      let key ← textOf codes
      let value ← content.json?
      fieldsJson? (assign key value built) rest

end

/-- `json.loads`, with dictionaries. -/
def decode (limits : Limits) (text : List Char) : Option Json :=
  (loads limits text).bind Value.json?

end Sastsimi.Lib.Grammar

namespace Sastsimi.Lib.Json

open Sastsimi.Lib.Grammar

/-! ## Written values -/

mutual

/-- The value that a text of a value spells. -/
def written : Json → Value
  | .null => .null
  | .bool value => .bool value
  | .int value => .number (toString value).toList
  | .float literal => .number literal.toList
  | .str value => .str (value.toList.map Char.toNat)
  | .arr items => .arr (writtenItems items)
  | .obj fields => .obj (writtenFields fields)

def writtenItems : List Json → List Value
  | [] => []
  | item :: rest => item.written :: writtenItems rest

def writtenFields : List (String × Json) → List (List Nat × Value)
  | [] => []
  | (key, value) :: rest => (key.toList.map Char.toNat, value.written) :: writtenFields rest

end

mutual

/-- Every number of the value is an integer that the interpreter converts. -/
def readable (limits : Limits) : Json → Bool
  | .int value => limits.converts (toString value).toList
  | .float _ => false
  | .arr items => readableItems limits items
  | .obj fields => readableFields limits fields
  | _ => true

def readableItems (limits : Limits) : List Json → Bool
  | [] => true
  | item :: rest => item.readable limits && readableItems limits rest

def readableFields (limits : Limits) : List (String × Json) → Bool
  | [] => true
  | (_, value) :: rest => value.readable limits && readableFields limits rest

end

section Written

variable {limits : Limits} {items : List Json} {fields : List (String × Json)}

@[simp] theorem writtenItems_eq (items : List Json) : writtenItems items = items.map written := by
  induction items with
  | nil => rfl
  | cons item rest ih => rw [writtenItems, List.map_cons, ih]

@[simp] theorem writtenFields_eq (fields : List (String × Json)) :
    writtenFields fields =
      fields.map fun field => (field.1.toList.map Char.toNat, field.2.written) := by
  induction fields with
  | nil => rfl
  | cons field rest ih => rw [writtenFields, List.map_cons, ih]

@[simp] theorem readable_arr :
    (Json.arr items).readable limits = true ↔ ∀ item ∈ items, item.readable limits = true := by
  have all : readableItems limits items = items.all fun item => item.readable limits := by
    induction items with
    | nil => rfl
    | cons item rest ih => rw [readableItems, List.all_cons, ih]
  rw [readable, all, List.all_eq_true]

@[simp] theorem readable_obj :
    (Json.obj fields).readable limits = true ↔
      ∀ field ∈ fields, field.2.readable limits = true := by
  have all : readableFields limits fields = fields.all fun field => field.2.readable limits := by
    induction fields with
    | nil => rfl
    | cons field rest ih => rw [readableFields, List.all_cons, ih]
  rw [readable, all, List.all_eq_true]

end Written

/-! ## Texts of written values -/

section Texts

variable {limits : Limits}

/-- An escape is a short one or one of four digits. -/
def spellsUnit (raw : List Char) (unit : Nat) : Bool :=
  match raw with
  | ['\\', escaped] => simpleEscape escaped = some unit
  | ['\\', 'u', first, second, third, fourth] => hexUnit first second third fourth = some unit
  | _ => false

theorem spells_control : ∀ code < 32,
    spellsUnit (escapeChar (Char.ofNat code)).toList code = true := by decide

theorem spells_special {character : Char} (special : isPlain character = false) :
    spellsUnit (escapeChar character).toList character.toNat = true := by
  rcases special_cases special with control | ⟨_, rfl | rfl⟩
  · have small : character.toNat < 32 := by simpa [isControl] using control
    have spelled := spells_control _ small
    rwa [Char.ofNat_toNat] at spelled
  · decide
  · decide

theorem stringText_spelled {raw rest : List Char} {unit : Nat} {units : List Nat}
    (spelled : spellsUnit raw unit = true) (behind : StringText rest units) :
    StringText (raw ++ rest) (unit :: units) := by
  unfold spellsUnit at spelled
  split at spelled
  · exact .escape (of_decide_eq_true spelled) behind
  · exact .unicode (of_decide_eq_true spelled) behind
  · cases spelled

/-- The escaped characters of a string spell its code points. -/
theorem stringText_escaped (text : List Char) :
    StringText (escaped text) (text.map Char.toNat) := by
  induction text with
  | nil => exact .nil
  | cons character rest ih =>
      rw [escaped_cons, List.map_cons]
      cases plain : isPlain character with
      | false => exact stringText_spelled (spells_special plain) ih
      | true =>
          rw [escapeChar_plain plain, List.singleton_append]
          simp only [isPlain, isControl, Bool.and_eq_true, Bool.not_eq_true',
            decide_eq_false_iff_not, bne_iff_ne, ne_eq] at plain
          exact .plain plain.1.2 plain.2 (Nat.not_lt.1 plain.1.1) ih

/-- No character is half of a surrogate pair. -/
theorem joinSurrogates_codes (text : List Char) :
    joinSurrogates (text.map Char.toNat) = text.map Char.toNat := by
  induction text with
  | nil => rfl
  | cons first rest ih =>
      cases rest with
      | nil => rfl
      | cons second later =>
          have apart : ¬ (0xD800 ≤ first.toNat ∧ first.toNat < 0xDC00) := by
            have valid := first.valid
            simp only [UInt32.isValidChar, Nat.isValidChar, Char.toNat] at valid ⊢
            omega
          rw [List.map_cons, List.map_cons, joinSurrogates, if_neg fun both => apart both.1]
          exact congrArg _ ih

theorem text_str (value : String) :
    Text limits (.str (value.toList.map Char.toNat)) (quoted value) := by
  have isText : Text limits (.str (joinSurrogates (value.toList.map Char.toNat))) (quoted value) :=
    .str (stringText_escaped value.toList)
  rwa [joinSurrogates_codes] at isText

theorem digitChar_first : ∀ digit < 10, 0 < digit →
    digit.digitChar ≠ '0' ∧ digit.digitChar.isDigit = true := by decide

/-- The notation of a positive number starts with a digit other than zero. -/
theorem repr_first (number : Nat) (positive : 0 < number) :
    ∃ digit rest, number.repr.toList = digit :: rest ∧ digit ≠ '0' ∧ digit.isDigit = true := by
  induction number using Nat.strongRecOn with
  | ind number ih =>
      by_cases small : number < 10
      · refine ⟨number.digitChar, [], ?_, digitChar_first number small positive⟩
        rw [Nat.repr_of_lt small, String.toList_singleton]
      · obtain ⟨digit, rest, front, first⟩ := ih (number / 10) (by omega) (by omega)
        refine ⟨digit, rest ++ [(number % 10).digitChar], ?_, first⟩
        rw [Nat.repr_of_ge (Nat.not_lt.1 small), String.toList_append, front,
          String.toList_singleton, List.cons_append]

/-- A decimal number, with or without a sign, is the whole part of a number literal. -/
theorem wholePart_repr (number : Nat) {sign : List Char} (signed : sign = [] ∨ sign = ['-']) :
    wholePart (sign ++ number.repr.toList) = some (sign ++ number.repr.toList, []) := by
  have split {first : Char} {rest : List Char} (isDigit : first.isDigit = true) :
      splitSign ['-'] (sign ++ first :: rest) = (sign, first :: rest) := by
    have other : first ∉ ['-'] := by
      rintro listed
      rw [List.mem_singleton.1 listed] at isDigit
      exact absurd isDigit (by decide)
    rcases signed with rfl | rfl
    · rw [List.nil_append, splitSign, if_neg other]
    · rfl
  rcases Nat.eq_zero_or_pos number with rfl | positive
  · rcases signed with rfl | rfl <;> rfl
  · obtain ⟨digit, rest, whole, notZero, isDigit⟩ := repr_first number positive
    have digits : ∀ character ∈ rest, character.isDigit = true := by
      intro character member
      have all := List.all_eq_true.1 (repr_digits number)
      rw [whole] at all
      exact all character (List.mem_cons_of_mem _ member)
    have taken : rest.takeWhile Char.isDigit = rest := List.takeWhile_eq_self_iff.2 digits
    have dropped : rest.dropWhile Char.isDigit = [] := List.dropWhile_eq_nil_iff.2 digits
    rw [whole, wholePart, split isDigit]
    simp [notZero, isDigit, taken, dropped]

/-- A decimal number is a number literal. -/
theorem matchNumber_int (value : Int) :
    matchNumber (toString value).toList = some ((toString value).toList, []) := by
  have whole : wholePart (toString value).toList = some ((toString value).toList, []) := by
    cases value with
    | ofNat number => exact wholePart_repr number (.inl rfl)
    | negSucc number =>
        rw [toString_negSucc]
        exact wholePart_repr (number + 1) (.inr rfl)
  rw [matchNumber, whole]
  simp [fractionPart, exponentPart]

theorem text_int {value : Int} (converts : limits.converts (toString value).toList = true) :
    Text limits (.number (toString value).toList) (toString value).toList := by
  have numeric : ∀ character ∈ (toString value).toList, isNumeric character = true := by
    intro character member
    have shape := List.all_eq_true.1 (toString_digits value) character member
    rcases Bool.or_eq_true_iff.1 shape with digit | minus
    · exact isNumeric_of_digit digit
    · rw [beq_iff_eq.1 minus]
      rfl
  have filled : (toString value).toList ≠ [] := by
    cases value with
    | ofNat number =>
        obtain ⟨digit, rest, whole, -⟩ := repr_head number
        rw [toString_ofNat, whole]
        exact List.cons_ne_nil _ _
    | negSucc number =>
        rw [toString_negSucc]
        exact List.cons_ne_nil _ _
  have noConstant := constantOf_numeric filled numeric Delimited.nil
  rw [List.append_nil] at noConstant
  refine .scalar ?_
  simp only [scanScalar, noConstant, matchNumber_int, converts, if_true]

theorem spaces_nil : Spaces [] := fun _ member => absurd member List.not_mem_nil

theorem elements_items {first : Json} {rest : List Json}
    (texts : ∀ item ∈ first :: rest, Text limits item.written item.text) :
    Elements (Text limits) ']' ((first :: rest).map written)
      (first.text ++ (itemsText rest ++ [']'])) := by
  induction rest generalizing first with
  | nil => exact .last spaces_nil (texts first List.mem_cons_self) spaces_nil
  | cons second later ih =>
      have behind := ih fun item member => texts item (List.mem_cons_of_mem _ member)
      have whole : itemsText (second :: later) ++ [']'] =
          ',' :: (second.text ++ (itemsText later ++ [']'])) := by
        rw [itemsText, List.cons_append, List.append_assoc]
      rw [whole]
      exact .more spaces_nil (texts first List.mem_cons_self) spaces_nil behind

theorem member_field {key : String} {value : Json} (isText : Text limits value.written value.text) :
    Member (Text limits) (key.toList.map Char.toNat, value.written)
      (quoted key ++ ':' :: value.text) := by
  have spelled := Member.mk (stringText_escaped key.toList) spaces_nil spaces_nil isText
  rw [joinSurrogates_codes] at spelled
  simpa [quoted] using spelled

theorem elements_fields {key : String} {value : Json} {rest : List (String × Json)}
    (texts : ∀ field ∈ (key, value) :: rest, Text limits field.2.written field.2.text) :
    Elements (Member (Text limits)) '\x7d'
      (((key, value) :: rest).map fun field => (field.1.toList.map Char.toNat, field.2.written))
      (quoted key ++ ':' :: (value.text ++ (fieldsText rest ++ ['\x7d']))) := by
  have here : Member (Text limits) (key.toList.map Char.toNat, value.written)
      (quoted key ++ ':' :: value.text) := member_field (texts _ List.mem_cons_self)
  induction rest generalizing key value with
  | nil =>
      have last : Elements (Member (Text limits)) '\x7d' _ _ :=
        .last spaces_nil here spaces_nil
      simpa [fieldsText] using last
  | cons second later ih =>
      have texts' := fun field member => texts field (List.mem_cons_of_mem _ member)
      have behind := ih texts' (member_field (texts' _ List.mem_cons_self))
      have more : Elements (Member (Text limits)) '\x7d' _ _ :=
        .more spaces_nil here spaces_nil behind
      simpa [fieldsText] using more

/-- The text of a value is a text of what it spells. -/
theorem text_written {value : Json} (readable : value.readable limits = true) :
    Text limits value.written value.text := by
  induction value using byParts with
  | null => exact .scalar rfl
  | bool value => cases value <;> exact .scalar rfl
  | int value => exact text_int readable
  | float literal => cases readable
  | str value => exact text_str value
  | arr items ih =>
      rw [readable_arr] at readable
      cases items with
      | nil => exact .emptyArr spaces_nil
      | cons first rest =>
          rw [written, writtenItems_eq, text]
          exact .arr (elements_items fun item member => ih item member (readable item member))
  | obj fields ih =>
      rw [readable_obj] at readable
      cases fields with
      | nil => exact .emptyObj spaces_nil
      | cons field rest =>
          rw [written, writtenFields_eq, text]
          exact .obj (elements_fields fun field member => ih field member (readable field member))

end Texts

/-! ## Round trip -/

section RoundTrip

variable {limits : Limits} {built fields : List (String × Json)}

theorem textOf_codes (value : String) : textOf (value.toList.map Char.toNat) = some value := by
  have valid : ∀ code ∈ value.toList.map Char.toNat, code.isValidChar := by
    intro code member
    obtain ⟨character, _, rfl⟩ := List.mem_map.1 member
    exact character.valid
  have codes : (value.toList.map Char.toNat).map Char.ofNat = value.toList := by
    rw [List.map_map]
    exact List.map_id'' Char.ofNat_toNat _
  rw [textOf, if_pos valid, codes, String.ofList_toList]

theorem integerOf_repr (number : Nat) : integerOf number.repr.toList = number := by
  obtain ⟨digit, rest, whole, isDigit⟩ := repr_head number
  have plain : digit ≠ '-' := by
    rintro rfl
    exact absurd isDigit (by decide)
  have digits : Nat.ofDigitChars 10 number.repr.toList 0 = number := by
    rw [Nat.toList_repr, Nat.ofDigitChars_ten_toDigits]
  rw [whole] at digits ⊢
  unfold integerOf
  split
  · rename_i same
    exact absurd (List.cons.inj same).1 plain
  · rw [digits]

theorem numberOf_int (value : Int) : numberOf (toString value).toList = .int value := by
  rw [numberOf, if_pos (toString_digits value)]
  cases value with
  | ofNat number => exact congrArg _ (integerOf_repr number)
  | negSucc number =>
      have digits : Nat.ofDigitChars 10 (number + 1).repr.toList 0 = number + 1 := by
        rw [Nat.toList_repr, Nat.ofDigitChars_ten_toDigits]
      rw [toString_negSucc, integerOf, digits]
      rfl

/-- Assigning a new key adds it at the end. -/
theorem assign_new {key : String} {value : Json} (new : key ∉ fields.map Prod.fst) :
    assign key value fields = fields ++ [(key, value)] := by
  induction fields with
  | nil => rfl
  | cons field rest ih =>
      rw [List.map_cons, List.mem_cons, not_or] at new
      rw [assign, if_neg (Ne.symm new.1), ih new.2, List.cons_append]

/-- A dictionary is built by adding its members one after the other. -/
theorem fieldsJson?_append (distinct : ((built ++ fields).map Prod.fst).Nodup)
    (contents : ∀ field ∈ fields, field.2.written.json? = some field.2) :
    fieldsJson? built
      (fields.map fun field => (field.1.toList.map Char.toNat, field.2.written)) =
        some (built ++ fields) := by
  induction fields generalizing built with
  | nil => rw [List.map_nil, fieldsJson?, List.append_nil]
  | cons field rest ih =>
      have new : field.1 ∉ built.map Prod.fst := by
        rw [List.map_append, List.nodup_append'] at distinct
        exact fun earlier => distinct.2.2 earlier (List.mem_map_of_mem List.mem_cons_self)
      have moved : built ++ field :: rest = built ++ [(field.1, field.2)] ++ rest := by simp
      obtain ⟨here, later⟩ := List.forall_mem_cons.1 contents
      rw [moved] at distinct ⊢
      rw [List.map_cons, fieldsJson?, textOf_codes, here, Option.bind_eq_bind, Option.bind_some,
        Option.bind_eq_bind, Option.bind_some, assign_new new]
      exact ih distinct later

theorem itemsJson?_written {items : List Json}
    (contents : ∀ item ∈ items, item.written.json? = some item) :
    itemsJson? (items.map written) = some items := by
  induction items with
  | nil => rfl
  | cons item rest ih =>
      obtain ⟨here, later⟩ := List.forall_mem_cons.1 contents
      rw [List.map_cons, itemsJson?, here, ih later]
      rfl

/-- A value is what its spelling is kept as. -/
theorem json?_written {value : Json} (readable : value.readable limits = true)
    (unique : value.uniqueKeys = true) : value.written.json? = some value := by
  induction value using byParts with
  | null => rfl
  | bool value => rfl
  | int value => exact congrArg some (numberOf_int value)
  | float literal => cases readable
  | str value => rw [written, Value.json?, textOf_codes, Option.map_some]
  | arr items ih =>
      rw [readable_arr] at readable
      rw [uniqueKeys_arr] at unique
      rw [written, writtenItems_eq, Value.json?, itemsJson?_written, Option.map_some]
      exact fun item member => ih item member (readable item member) (unique item member)
  | obj fields ih =>
      rw [readable_obj] at readable
      rw [uniqueKeys_obj] at unique
      rw [written, writtenFields_eq, Value.json?, fieldsJson?_append, List.nil_append,
        Option.map_some]
      · exact unique.1
      · exact fun field member =>
          ih field member (readable field member) (unique.2 field member)

/-- What the encoder writes is decoded to the value it was written from. -/
theorem decode_text {value : Json} (readable : value.readable limits = true)
    (unique : value.uniqueKeys = true) (within : value.written.nesting ≤ limits.nesting) :
    decode limits value.text = some value := by
  rw [decode, loads_text (text_written readable) within]
  exact json?_written readable unique

/-! ### Sorted values -/

theorem readable_sorted {value : Json} (readable : value.readable limits = true) :
    value.sorted.readable limits = true := by
  induction value using byParts with
  | arr items ih =>
      rw [readable_arr] at readable
      rw [sorted_arr, readable_arr, List.forall_mem_map]
      exact fun item member => ih item member (readable item member)
  | obj fields ih =>
      rw [readable_obj] at readable
      rw [sorted_obj, readable_obj]
      intro field member
      obtain ⟨before, inside, rfl⟩ := List.mem_map.1 ((List.mem_insertionSort _).1 member)
      exact ih before inside (readable before inside)
  | _ => exact readable

theorem uniqueKeys_sorted {value : Json} (unique : value.uniqueKeys = true) :
    value.sorted.uniqueKeys = true := by
  induction value using byParts with
  | arr items ih =>
      rw [uniqueKeys_arr] at unique
      rw [sorted_arr, uniqueKeys_arr, List.forall_mem_map]
      exact fun item member => ih item member (unique item member)
  | obj fields ih =>
      rw [uniqueKeys_obj] at unique
      rw [sorted_obj, uniqueKeys_obj]
      constructor
      · have keys := ((List.perm_insertionSort (fun left right => left.1 ≤ right.1)
          (fields.map fun field => (field.1, field.2.sorted))).map Prod.fst).nodup_iff
        rw [keys, List.map_map]
        exact unique.1
      · intro field member
        obtain ⟨before, inside, rfl⟩ := List.mem_map.1 ((List.mem_insertionSort _).1 member)
        exact ih before inside (unique.2 before inside)
  | _ => exact unique

theorem nesting_sorted {value : Json} {bound : Nat} (within : value.written.nesting ≤ bound) :
    value.sorted.written.nesting ≤ bound := by
  induction value using byParts generalizing bound with
  | arr items ih =>
      rw [written, writtenItems_eq, Value.nesting] at within
      obtain ⟨inner, rfl⟩ := Nat.exists_eq_succ_of_ne_zero (Nat.ne_of_gt (Nat.zero_lt_of_lt within))
      have each := nestingItems_le.1 (Nat.le_of_succ_le_succ within)
      rw [List.forall_mem_map] at each
      rw [sorted_arr, written, writtenItems_eq, Value.nesting]
      refine Nat.succ_le_succ (nestingItems_le.2 ?_)
      rw [List.map_map, List.forall_mem_map]
      exact fun item member => ih item member (each item member)
  | obj fields ih =>
      rw [written, writtenFields_eq, Value.nesting] at within
      obtain ⟨inner, rfl⟩ := Nat.exists_eq_succ_of_ne_zero (Nat.ne_of_gt (Nat.zero_lt_of_lt within))
      have each := nestingFields_le.1 (Nat.le_of_succ_le_succ within)
      rw [List.forall_mem_map] at each
      rw [sorted_obj, written, writtenFields_eq, Value.nesting]
      refine Nat.succ_le_succ (nestingFields_le.2 ?_)
      rw [List.forall_mem_map]
      intro field member
      obtain ⟨before, inside, rfl⟩ := List.mem_map.1 ((List.mem_insertionSort _).1 member)
      exact ih before inside (each before inside)
  | _ => exact within

/-- The canonical text of a value is decoded to the value with sorted members. -/
theorem decode_sorted {value : Json} (readable : value.readable limits = true)
    (unique : value.uniqueKeys = true) (within : value.written.nesting ≤ limits.nesting) :
    decode limits value.sorted.text = some value.sorted :=
  decode_text (readable_sorted readable) (uniqueKeys_sorted unique) (nesting_sorted within)

end RoundTrip

end Sastsimi.Lib.Json
