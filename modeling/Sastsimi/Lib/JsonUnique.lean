import Sastsimi.Lib.JsonEncoding

/-!
# Unique reading of encoded values

The text of a JSON value whose numbers are integers determines the value: two values with the
same text, each followed by a text that continues no number, are equal, and so is what follows.
-/

namespace Sastsimi.Lib

/-! ## Strings -/

/-- The codes of the characters that an encoded string escapes. -/
def specialCodes : List Nat := List.range 32 ++ [34, 92]

section Strings

variable {first second : Char} {front back text other : List Char}

theorem special_code (special : isPlain first = false) : first.toNat ∈ specialCodes := by
  rcases special_cases special with control | ⟨-, rfl | rfl⟩
  · have small : first.toNat < 32 := by simpa [isControl] using control
    exact List.mem_append_left _ (List.mem_range.2 small)
  all_goals decide

theorem special_head (special : isPlain first = false) :
    ∃ rest, (escapeChar first).toList = '\\' :: rest := by
  have every : ∀ code ∈ specialCodes,
      (escapeChar (Char.ofNat code)).toList.head? = some '\\' := by
    decide +kernel
  have here := every first.toNat (special_code special)
  rw [Char.ofNat_toNat] at here
  cases whole : (escapeChar first).toList with
  | nil => simp [whole] at here
  | cons head rest => exact ⟨rest, by simpa [whole] using here⟩

/-- No escape is the front of another one. -/
theorem escapes_apart :
    ∀ code ∈ specialCodes, ∀ other ∈ specialCodes,
      (escapeChar (Char.ofNat code)).toList.isPrefixOf (escapeChar (Char.ofNat other)).toList =
        true → code = other := by
  decide +kernel

theorem escapes_head (special : isPlain first = false) (other : isPlain second = false)
    (isPrefix : (escapeChar first).toList <+: (escapeChar second).toList) : first = second := by
  have codes := escapes_apart first.toNat (special_code special) second.toNat (special_code other)
  rw [Char.ofNat_toNat, Char.ofNat_toNat] at codes
  exact Char.toNat_inj.1 (codes (List.isPrefixOf_iff_prefix.2 isPrefix))

theorem plain_apart (plain : isPlain first = true) (special : isPlain second = false) :
    (escapeChar first).toList ++ front ≠ (escapeChar second).toList ++ back := by
  intro same
  obtain ⟨rest, escape⟩ := special_head special
  rw [escapeChar_plain plain, escape] at same
  have backslash : first = '\\' := (List.cons.inj same).1
  rw [backslash] at plain
  exact absurd plain (by decide)

/-- The escapes of two characters, whatever follows, are equal only for one character. -/
theorem escapeChar_inj
    (same : (escapeChar first).toList ++ front = (escapeChar second).toList ++ back) :
    first = second ∧ front = back := by
  have equal : first = second := by
    cases plain : isPlain first with
    | true =>
        cases other : isPlain second with
        | true =>
            rw [escapeChar_plain plain, escapeChar_plain other] at same
            exact (List.cons.inj same).1
        | false => exact absurd same (plain_apart plain other)
    | false =>
        cases other : isPlain second with
        | true => exact absurd same.symm (plain_apart other plain)
        | false =>
            rcases List.prefix_or_prefix_of_prefix (List.prefix_append _ front)
              (same ▸ List.prefix_append _ back) with isPrefix | isPrefix
            · exact escapes_head plain other isPrefix
            · exact (escapes_head other plain isPrefix).symm
  subst equal
  exact ⟨rfl, List.append_cancel_left same⟩

theorem escapeChar_not_quote {rest : List Char} :
    '"' :: rest ≠ (escapeChar first).toList ++ front := by
  intro same
  cases plain : isPlain first with
  | true =>
      rw [escapeChar_plain plain] at same
      rw [← (List.cons.inj same).1] at plain
      exact absurd plain (by decide)
  | false =>
      obtain ⟨tail, escape⟩ := special_head plain
      rw [escape] at same
      exact absurd (List.cons.inj same).1 (by decide)

theorem escaped_inj (same : escaped text ++ '"' :: front = escaped other ++ '"' :: back) :
    text = other ∧ front = back := by
  induction text generalizing other with
  | nil =>
      cases other with
      | nil => exact ⟨rfl, (List.cons.inj same).2⟩
      | cons character rest =>
          rw [escaped_cons, List.append_assoc] at same
          exact absurd same escapeChar_not_quote
  | cons character rest ih =>
      cases other with
      | nil =>
          rw [escaped_cons, List.append_assoc] at same
          exact absurd same.symm escapeChar_not_quote
      | cons next others =>
          rw [escaped_cons, escaped_cons, List.append_assoc, List.append_assoc] at same
          have step := escapeChar_inj same
          have behind := ih step.2
          exact ⟨by rw [step.1, behind.1], behind.2⟩

theorem quoted_inj {string value : String} (same : quoted string ++ front = quoted value ++ back) :
    string = value ∧ front = back := by
  rw [quoted, quoted, List.cons_append, List.cons_append, List.append_assoc, List.append_assoc]
    at same
  have inner := escaped_inj (List.cons.inj same).2
  exact ⟨String.toList_inj.1 inner.1, inner.2⟩

end Strings

/-! ## Numbers -/

/-- A text that continues no number. -/
def NoDigit (text : List Char) : Prop := text.head?.all (fun next => !next.isDigit) = true

section Numbers

variable {front back : List Char}

theorem takeWhile_noDigit {digits : List Char} (all : digits.all Char.isDigit = true)
    (ends : NoDigit front) : (digits ++ front).takeWhile Char.isDigit = digits := by
  rw [List.takeWhile_append_of_pos (List.all_eq_true.1 all)]
  cases front with
  | nil => simp
  | cons next rest =>
      have next : next.isDigit = false := by simpa [NoDigit] using ends
      simp [next]

theorem repr_inj {first second : Nat} (ends : NoDigit front) (closes : NoDigit back)
    (same : first.repr.toList ++ front = second.repr.toList ++ back) :
    first = second ∧ front = back := by
  have digits : first.repr.toList = second.repr.toList := by
    rw [← takeWhile_noDigit (repr_digits first) ends, same,
      takeWhile_noDigit (repr_digits second) closes]
  have value : some first = some second := by
    rw [← readDecimal_repr first, digits, readDecimal_repr]
  rw [digits] at same
  exact ⟨Option.some.inj value, List.append_cancel_left same⟩

theorem repr_head (number : Nat) :
    ∃ digit rest, number.repr.toList = digit :: rest ∧ digit.isDigit = true := by
  have digits := repr_digits number
  cases whole : number.repr.toList with
  | nil => simp at whole
  | cons digit rest =>
      rw [whole, List.all_cons, Bool.and_eq_true] at digits
      exact ⟨digit, rest, rfl, digits.1⟩

theorem toString_ofNat (number : Nat) :
    (toString (Int.ofNat number)).toList = number.repr.toList := rfl

theorem toString_negSucc (number : Nat) :
    (toString (Int.negSucc number)).toList = '-' :: (number + 1).repr.toList := by
  simp [toString, Int.repr]

theorem negative_apart {number other : Nat} {rest : List Char} :
    (toString (Int.ofNat number)).toList ++ rest ≠ '-' :: (other.repr.toList ++ back) := by
  intro same
  obtain ⟨digit, others, whole, isDigit⟩ := repr_head number
  rw [toString_ofNat, whole] at same
  rw [(List.cons.inj same).1] at isDigit
  exact absurd isDigit (by decide)

theorem toString_inj {first second : Int} (ends : NoDigit front) (closes : NoDigit back)
    (same : (toString first).toList ++ front = (toString second).toList ++ back) :
    first = second ∧ front = back := by
  cases first with
  | ofNat number =>
      cases second with
      | ofNat other =>
          have equal := repr_inj ends closes same
          exact ⟨by rw [equal.1], equal.2⟩
      | negSucc other =>
          rw [toString_negSucc] at same
          exact absurd same negative_apart
  | negSucc number =>
      cases second with
      | ofNat other =>
          rw [toString_negSucc] at same
          exact absurd same.symm negative_apart
      | negSucc other =>
          rw [toString_negSucc, toString_negSucc] at same
          have equal := repr_inj ends closes (List.cons.inj same).2
          exact ⟨by rw [Nat.succ.inj equal.1], equal.2⟩

/-- A character of a number, `Infinity` or `NaN`. -/
def isNumberChar (character : Char) : Bool :=
  character.isAlphanum || character == '-' || character == '+' || character == '.'

/-- A text that does not continue a number. -/
def NoNumber (text : List Char) : Prop := text.head?.all (fun next => !isNumberChar next) = true

/-- A number in front of a text that does not continue it is read whole. -/
theorem token_inj {token other : List Char} (all : token.all isNumberChar = true)
    (all' : other.all isNumberChar = true) (ends : NoNumber front) (closes : NoNumber back)
    (same : token ++ front = other ++ back) : token = other ∧ front = back := by
  have whole {token rest : List Char} (all : token.all isNumberChar = true) (ends : NoNumber rest) :
      (token ++ rest).takeWhile isNumberChar = token := by
    rw [List.takeWhile_append_of_pos (List.all_eq_true.1 all)]
    cases rest with
    | nil => simp
    | cons next later =>
        have stops : isNumberChar next = false := by simpa [NoNumber] using ends
        simp [stops]
  have tokens : token = other := by rw [← whole all ends, same, whole all' closes]
  rw [tokens] at same
  exact ⟨tokens, List.append_cancel_left same⟩

/-- The text of an integer consists of digits and a sign. -/
theorem toString_digits (number : Int) :
    (toString number).toList.all (fun character => character.isDigit || character == '-') = true := by
  have digits (number : Nat) :
      number.repr.toList.all (fun character => character.isDigit || character == '-') = true := by
    rw [List.all_eq_true]
    intro character member
    rw [List.all_eq_true.1 (repr_digits number) character member]
    rfl
  cases number with
  | ofNat number => exact digits number
  | negSucc number =>
      rw [toString_negSucc, List.all_cons, digits]
      rfl

end Numbers

/-! ## Values -/

namespace Json

/-- A character that may start a number, `Infinity` or `NaN`. -/
def startsNumber (character : Char) : Bool :=
  character.isDigit || character == '-' || character == 'I' || character == 'N'

/-- The text of a number that is no integer. -/
def isFloatText (text : List Char) : Bool :=
  text.head?.any startsNumber && text.all isNumberChar &&
    text.any fun character => !character.isDigit && character != '-'

mutual

/-- Every number of the value that is no integer has the text of one. -/
def numbered : Json → Bool
  | .float digits => isFloatText digits.toList
  | .arr items => numberedItems items
  | .obj fields => numberedFields fields
  | _ => true

def numberedItems : List Json → Bool
  | [] => true
  | value :: rest => value.numbered && numberedItems rest

def numberedFields : List (String × Json) → Bool
  | [] => true
  | (_, value) :: rest => value.numbered && numberedFields rest

end

mutual

/-- A value without fractions. -/
theorem numbered_of_integral : ∀ value : Json, value.integral = true → value.numbered = true
  | .null, _ => rfl
  | .bool _, _ => rfl
  | .int _, _ => rfl
  | .str _, _ => rfl
  | .arr items, integral => numberedItems_of_integral items integral
  | .obj fields, integral => numberedFields_of_integral fields integral

theorem numberedItems_of_integral : ∀ items : List Json, integralItems items = true →
    numberedItems items = true
  | [], _ => rfl
  | value :: rest, integral => by
      rw [integralItems, Bool.and_eq_true] at integral
      rw [numberedItems, numbered_of_integral value integral.1,
        numberedItems_of_integral rest integral.2, Bool.and_self]

theorem numberedFields_of_integral : ∀ fields : List (String × Json),
    integralFields fields = true → numberedFields fields = true
  | [], _ => rfl
  | (_, value) :: rest, integral => by
      rw [integralFields, Bool.and_eq_true] at integral
      rw [numberedFields, numbered_of_integral value integral.1,
        numberedFields_of_integral rest integral.2, Bool.and_self]

end

/-- The shape of a value, which the first character of its text shows. -/
inductive Shape where
  | null | true | false | number | string | array | object | other
  deriving DecidableEq

def shape : Json → Shape
  | .null => .null
  | .bool true => .true
  | .bool false => .false
  | .int _ => .number
  | .float _ => .number
  | .str _ => .string
  | .arr _ => .array
  | .obj _ => .object

/-- The shape that the first character of a text shows. -/
def shapeOf : List Char → Shape
  | [] => .other
  | character :: _ =>
      if startsNumber character then .number
      else match character with
        | 'n' => .null
        | 't' => .true
        | 'f' => .false
        | '"' => .string
        | '[' => .array
        | '\x7b' => .object
        | _ => .other

theorem shapeOf_text (value : Json) (numbered : value.numbered = true) (back : List Char) :
    shapeOf (value.text ++ back) = value.shape := by
  cases value with
  | null => rfl
  | bool value => cases value <;> rfl
  | int number =>
      cases number with
      | ofNat number =>
          obtain ⟨digit, rest, whole, isDigit⟩ := repr_head number
          rw [text, toString_ofNat, whole, List.cons_append]
          simp [shapeOf, startsNumber, isDigit, shape]
      | negSucc number =>
          rw [text, toString_negSucc]
          rfl
  | float digits =>
      rw [Json.numbered, isFloatText, Bool.and_eq_true, Bool.and_eq_true, Option.any_eq_true] at numbered
      obtain ⟨first, head, starts⟩ := numbered.1.1
      obtain ⟨rest, whole⟩ := List.head?_eq_some_iff.1 head
      rw [text, whole, List.cons_append]
      simp [shapeOf, starts, shape]
  | str value => rfl
  | arr items => cases items <;> rfl
  | obj fields => cases fields <;> rfl

theorem shape_ne_other (value : Json) : value.shape ≠ .other := by
  cases value with
  | bool value => cases value <;> exact Shape.noConfusion
  | _ => exact Shape.noConfusion

section Shapes

variable {value : Json} (numbered : value.numbered = true)

include numbered

theorem text_number (isNumber : value.shape = .number) : value.text.all isNumberChar = true := by
  cases value with
  | int number =>
      rw [List.all_eq_true]
      intro character member
      have digits := List.all_eq_true.1 (toString_digits number) character member
      rw [Bool.or_eq_true] at digits
      rcases digits with isDigit | isSign
      · simp [isNumberChar, Char.isAlphanum, isDigit]
      · simp [isNumberChar, isSign]
  | float digits =>
      rw [Json.numbered, isFloatText, Bool.and_eq_true, Bool.and_eq_true] at numbered
      exact numbered.1.2
  | bool value => cases value <;> cases isNumber
  | _ => cases isNumber

/-- A number that is no integer has no text of an integer. -/
theorem text_ne_toString {digits : String} {number : Int} (isFloat : value = .float digits) :
    digits.toList ≠ (toString number).toList := by
  intro same
  subst isFloat
  rw [Json.numbered, isFloatText, Bool.and_eq_true, List.any_eq_true] at numbered
  obtain ⟨character, member, other⟩ := numbered.2
  have digit := List.all_eq_true.1 (toString_digits number) character (same ▸ member)
  simp only [Bool.and_eq_true, Bool.not_eq_true', bne_iff_ne] at other
  simp [other.1, other.2] at digit

end Shapes

theorem of_shape_null {value : Json} (same : value.shape = .null) : value = .null := by
  cases value with
  | null => rfl
  | bool value => cases value <;> cases same
  | _ => cases same

theorem of_shape_true {value : Json} (same : value.shape = .true) : value = .bool true := by
  cases value with
  | bool value => cases value <;> first | rfl | cases same
  | _ => cases same

theorem of_shape_false {value : Json} (same : value.shape = .false) : value = .bool false := by
  cases value with
  | bool value => cases value <;> first | rfl | cases same
  | _ => cases same

theorem of_shape_string {value : Json} (same : value.shape = .string) :
    ∃ string, value = .str string := by
  cases value with
  | str string => exact ⟨string, rfl⟩
  | bool value => cases value <;> cases same
  | _ => cases same

theorem of_shape_array {value : Json} (same : value.shape = .array) :
    ∃ items, value = .arr items := by
  cases value with
  | arr items => exact ⟨items, rfl⟩
  | bool value => cases value <;> cases same
  | _ => cases same

theorem of_shape_object {value : Json} (same : value.shape = .object) :
    ∃ fields, value = .obj fields := by
  cases value with
  | obj fields => exact ⟨fields, rfl⟩
  | bool value => cases value <;> cases same
  | _ => cases same

/-- The text of a number determines it. -/
theorem number_inj {value other : Json} {front back : List Char} (numbered : value.numbered = true)
    (numbered' : other.numbered = true) (isNumber : value.shape = .number)
    (isNumber' : other.shape = .number) (ends : NoNumber front) (closes : NoNumber back)
    (same : value.text ++ front = other.text ++ back) : value = other ∧ front = back := by
  have texts := token_inj (text_number numbered isNumber) (text_number numbered' isNumber') ends
    closes same
  refine ⟨?_, texts.2⟩
  cases value with
  | int number =>
      cases other with
      | int value =>
          have values : (toString number).toList ++ [] = (toString value).toList ++ [] :=
            congrArg (· ++ []) texts.1
          have ends : NoDigit [] := rfl
          rw [(toString_inj ends ends values).1]
      | float digits => exact absurd texts.1.symm (text_ne_toString numbered' rfl)
      | bool value => cases value <;> cases isNumber'
      | _ => cases isNumber'
  | float digits =>
      cases other with
      | int value => exact absurd texts.1 (text_ne_toString numbered rfl)
      | float others => rw [String.toList_inj.1 texts.1]
      | bool value => cases value <;> cases isNumber'
      | _ => cases isNumber'
  | bool value => cases value <;> cases isNumber
  | _ => cases isNumber

theorem noNumber_items (items : List Json) {back : List Char} :
    NoNumber (itemsText items ++ ']' :: back) := by
  cases items with
  | nil => rfl
  | cons first rest => rfl

theorem noNumber_fields (fields : List (String × Json)) {back : List Char} :
    NoNumber (fieldsText fields ++ '\x7d' :: back) := by
  cases fields with
  | nil => rfl
  | cons first rest => rfl

theorem arr_nil_ne {first : Json} {rest : List Json} {front back : List Char}
    (numbered : first.numbered = true) :
    (Json.arr []).text ++ front ≠ (Json.arr (first :: rest)).text ++ back := by
  intro same
  rw [text, text, List.cons_append, List.append_assoc] at same
  have tails : ']' :: front = first.text ++ (itemsText rest ++ [']'] ++ back) :=
    (List.cons.inj same).2
  have shapes := shapeOf_text first numbered (itemsText rest ++ [']'] ++ back)
  rw [← tails] at shapes
  exact shape_ne_other first shapes.symm

theorem obj_nil_ne {field : String × Json} {rest : List (String × Json)} {front back : List Char} :
    (Json.obj []).text ++ front ≠ (Json.obj (field :: rest)).text ++ back := by
  intro same
  rw [text, text, List.cons_append, quoted] at same
  exact absurd (List.cons.inj (List.cons.inj same).2).1 (by decide)

mutual

/-- The text of a value in front of a text that continues no number determines both. -/
theorem text_inj : ∀ (value other : Json) (front back : List Char), value.numbered = true →
    other.numbered = true → NoNumber front → NoNumber back →
    value.text ++ front = other.text ++ back → value = other ∧ front = back
  | .null, other, front, back, numbered, numbered', _, _, same => by
      have shapes := shapeOf_text other numbered' back
      rw [← same, shapeOf_text _ numbered] at shapes
      obtain rfl := of_shape_null shapes.symm
      exact ⟨rfl, List.append_cancel_left same⟩
  | .bool true, other, front, back, numbered, numbered', _, _, same => by
      have shapes := shapeOf_text other numbered' back
      rw [← same, shapeOf_text _ numbered] at shapes
      obtain rfl := of_shape_true shapes.symm
      exact ⟨rfl, List.append_cancel_left same⟩
  | .bool false, other, front, back, numbered, numbered', _, _, same => by
      have shapes := shapeOf_text other numbered' back
      rw [← same, shapeOf_text _ numbered] at shapes
      obtain rfl := of_shape_false shapes.symm
      exact ⟨rfl, List.append_cancel_left same⟩
  | .int number, other, front, back, numbered, numbered', ends, closes, same => by
      have shapes := shapeOf_text other numbered' back
      rw [← same, shapeOf_text _ numbered] at shapes
      exact number_inj numbered numbered' rfl shapes.symm ends closes same
  | .float digits, other, front, back, numbered, numbered', ends, closes, same => by
      have shapes := shapeOf_text other numbered' back
      rw [← same, shapeOf_text _ numbered] at shapes
      exact number_inj numbered numbered' rfl shapes.symm ends closes same
  | .str string, other, front, back, numbered, numbered', _, _, same => by
      have shapes := shapeOf_text other numbered' back
      rw [← same, shapeOf_text _ numbered] at shapes
      obtain ⟨value, rfl⟩ := of_shape_string shapes.symm
      have equal := quoted_inj same
      exact ⟨by rw [equal.1], equal.2⟩
  | .arr items, other, front, back, numbered, numbered', _, _, same => by
      have shapes := shapeOf_text other numbered' back
      rw [← same, shapeOf_text _ numbered] at shapes
      obtain ⟨values, rfl⟩ := of_shape_array shapes.symm
      rw [Json.numbered] at numbered numbered'
      have equal := items_inj items values front back numbered numbered' same
      exact ⟨by rw [equal.1], equal.2⟩
  | .obj fields, other, front, back, numbered, numbered', _, _, same => by
      have shapes := shapeOf_text other numbered' back
      rw [← same, shapeOf_text _ numbered] at shapes
      obtain ⟨values, rfl⟩ := of_shape_object shapes.symm
      rw [Json.numbered] at numbered numbered'
      have equal := fields_inj fields values front back numbered numbered' same
      exact ⟨by rw [equal.1], equal.2⟩

theorem items_inj : ∀ (items others : List Json) (front back : List Char),
    numberedItems items = true → numberedItems others = true →
    (Json.arr items).text ++ front = (Json.arr others).text ++ back →
    items = others ∧ front = back
  | [], [], _, _, _, _, same => ⟨rfl, List.append_cancel_left same⟩
  | [], first :: rest, _, _, _, numbered, same => by
      rw [numberedItems, Bool.and_eq_true] at numbered
      exact absurd same (arr_nil_ne numbered.1)
  | first :: rest, [], _, _, numbered, _, same => by
      rw [numberedItems, Bool.and_eq_true] at numbered
      exact absurd same.symm (arr_nil_ne numbered.1)
  | first :: rest, other :: others, front, back, numbered, numbered', same => by
      rw [numberedItems, Bool.and_eq_true] at numbered numbered'
      rw [text, text, List.cons_append, List.cons_append, List.append_assoc, List.append_assoc,
        List.append_assoc, List.append_assoc, List.singleton_append, List.singleton_append] at same
      have step := text_inj first other _ _ numbered.1 numbered'.1 (noNumber_items rest)
        (noNumber_items others) (List.cons.inj same).2
      have behind := rest_inj rest others front back numbered.2 numbered'.2 step.2
      exact ⟨by rw [step.1, behind.1], behind.2⟩

theorem rest_inj : ∀ (items others : List Json) (front back : List Char),
    numberedItems items = true → numberedItems others = true →
    itemsText items ++ ']' :: front = itemsText others ++ ']' :: back →
    items = others ∧ front = back
  | [], [], _, _, _, _, same => ⟨rfl, (List.cons.inj same).2⟩
  | [], first :: rest, _, _, _, _, same => absurd (List.cons.inj same).1 (by decide)
  | first :: rest, [], _, _, _, _, same => absurd (List.cons.inj same).1 (by decide)
  | first :: rest, other :: others, front, back, numbered, numbered', same => by
      rw [numberedItems, Bool.and_eq_true] at numbered numbered'
      rw [itemsText, itemsText, List.cons_append, List.cons_append, List.append_assoc,
        List.append_assoc] at same
      have step := text_inj first other _ _ numbered.1 numbered'.1 (noNumber_items rest)
        (noNumber_items others) (List.cons.inj same).2
      have behind := rest_inj rest others front back numbered.2 numbered'.2 step.2
      exact ⟨by rw [step.1, behind.1], behind.2⟩

theorem fields_inj : ∀ (fields others : List (String × Json)) (front back : List Char),
    numberedFields fields = true → numberedFields others = true →
    (Json.obj fields).text ++ front = (Json.obj others).text ++ back →
    fields = others ∧ front = back
  | [], [], _, _, _, _, same => ⟨rfl, List.append_cancel_left same⟩
  | [], _ :: _, _, _, _, _, same => absurd same obj_nil_ne
  | _ :: _, [], _, _, _, _, same => absurd same.symm obj_nil_ne
  | (key, first) :: rest, (name, other) :: others, front, back, numbered, numbered', same => by
      rw [numberedFields, Bool.and_eq_true] at numbered numbered'
      rw [text, text, List.cons_append, List.cons_append, List.append_assoc, List.append_assoc]
        at same
      have keys := quoted_inj (List.cons.inj same).2
      have values := keys.2
      rw [List.cons_append, List.cons_append, List.append_assoc, List.append_assoc,
        List.append_assoc, List.append_assoc, List.singleton_append, List.singleton_append]
        at values
      have step := text_inj first other _ _ numbered.1 numbered'.1 (noNumber_fields rest)
        (noNumber_fields others) (List.cons.inj values).2
      have behind := entries_inj rest others front back numbered.2 numbered'.2 step.2
      exact ⟨by rw [keys.1, step.1, behind.1], behind.2⟩

theorem entries_inj : ∀ (fields others : List (String × Json)) (front back : List Char),
    numberedFields fields = true → numberedFields others = true →
    fieldsText fields ++ '\x7d' :: front = fieldsText others ++ '\x7d' :: back →
    fields = others ∧ front = back
  | [], [], _, _, _, _, same => ⟨rfl, (List.cons.inj same).2⟩
  | [], (_, _) :: _, _, _, _, _, same => absurd (List.cons.inj same).1 (by decide)
  | (_, _) :: _, [], _, _, _, _, same => absurd (List.cons.inj same).1 (by decide)
  | (key, first) :: rest, (name, other) :: others, front, back, numbered, numbered', same => by
      rw [numberedFields, Bool.and_eq_true] at numbered numbered'
      rw [fieldsText, fieldsText, List.cons_append, List.cons_append, List.append_assoc,
        List.append_assoc] at same
      have keys := quoted_inj (List.cons.inj same).2
      have values := keys.2
      rw [List.cons_append, List.cons_append, List.append_assoc, List.append_assoc] at values
      have step := text_inj first other _ _ numbered.1 numbered'.1 (noNumber_fields rest)
        (noNumber_fields others) (List.cons.inj values).2
      have behind := entries_inj rest others front back numbered.2 numbered'.2 step.2
      exact ⟨by rw [keys.1, step.1, behind.1], behind.2⟩

end

/-- The canonical text of a value determines its canonical form. -/
theorem canonical_inj {value other : Json} {text : List Char}
    (first : value.canonical = some text) (second : other.canonical = some text) :
    value.sorted = other.sorted := by
  simp only [canonical, Option.ite_none_right_eq_some, Option.some.injEq] at first second
  have same : value.sorted.text ++ [] = other.sorted.text ++ [] := by
    rw [first.2, second.2]
  have integral : value.sorted.integral = true := by rw [integral_sorted, first.1]
  have integral' : other.sorted.integral = true := by rw [integral_sorted, second.1]
  exact (text_inj _ _ [] [] (numbered_of_integral _ integral) (numbered_of_integral _ integral') rfl
    rfl same).1

/-! ## Looking up a sorted field -/

theorem lookup_orderedInsert {key : String} {field : String × Json}
    {fields : List (String × Json)} :
    (fields.orderedInsert (fun left right => left.1 ≤ right.1) field).lookup key =
      (field :: fields).lookup key := by
  induction fields with
  | nil => rfl
  | cons first rest ih =>
      rw [List.orderedInsert_cons]
      split
      · rfl
      · rename_i after
        have differs : first.1 ≠ field.1 := fun same => after (same ▸ String.le_refl _)
        rw [List.lookup_cons, ih, List.lookup_cons, List.lookup_cons, List.lookup_cons]
        by_cases isFirst : key = first.1
        · have here : (key == first.1) = true := by simpa using isFirst
          have other : (key == field.1) = false := by simpa [isFirst] using differs
          rw [here, other]
        · have other : (key == first.1) = false := by simpa using isFirst
          rw [other]

theorem lookup_sort {key : String} {fields : List (String × Json)} :
    (fields.insertionSort fun left right => left.1 ≤ right.1).lookup key = fields.lookup key := by
  induction fields with
  | nil => rfl
  | cons field rest ih =>
      rw [List.insertionSort_cons, lookup_orderedInsert, List.lookup_cons, List.lookup_cons, ih]

theorem lookup_sortedFields {key : String} {fields : List (String × Json)} :
    (sortedFields fields).lookup key = (fields.lookup key).map sorted := by
  induction fields with
  | nil => rfl
  | cons field rest ih =>
      rw [sortedFields, List.lookup_cons, List.lookup_cons, ih]
      cases key == field.1 <;> rfl

/-- The fields of a canonical form are the canonical forms of the fields. -/
theorem get?_sorted (value : Json) (key : String) :
    value.sorted.get? key = (value.get? key).map sorted := by
  cases value with
  | obj fields => rw [sorted, get?, get?, lookup_sort, lookup_sortedFields]
  | _ => rfl

/-- Fields with one canonical form. -/
theorem field_of_sorted {value different : Json} (same : value.sorted = different.sorted)
    (name : String) : (value.get? name).map sorted = (different.get? name).map sorted := by
  rw [← get?_sorted, ← get?_sorted, same]

theorem str_inj {text value : String}
    (same : Option.map sorted (some (.str text)) = Option.map sorted (some (.str value))) :
    text = value :=
  Json.str.inj (Option.some.inj same)

theorem int_inj {number value : Int}
    (same : Option.map sorted (some (.int number)) = Option.map sorted (some (.int value))) :
    number = value :=
  Json.int.inj (Option.some.inj same)

/-- The canonical form of a list of strings is the list. -/
theorem sortedItems_str (texts : List String) : sortedItems (texts.map .str) = texts.map .str := by
  induction texts with
  | nil => rfl
  | cons text rest ih => rw [List.map_cons, sortedItems, ih]; rfl

theorem strs_inj {texts others : List String}
    (same : Option.map sorted (some (.arr (texts.map .str))) =
      Option.map sorted (some (.arr (others.map .str)))) : texts = others := by
  have items := Json.arr.inj (Option.some.inj same)
  rw [sortedItems_str, sortedItems_str] at items
  exact List.map_injective_iff.2 (fun _ _ => Json.str.inj) items

theorem integralItems_str (texts : List String) : integralItems (texts.map .str) = true := by
  simp [integralItems_eq, integral]

end Json

end Sastsimi.Lib
