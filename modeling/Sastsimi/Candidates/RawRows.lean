import Sastsimi.Candidates.JsonReader

/-!
# The rows of a result file

The reader yields the rows that a full parse lists at the targets, in the order of the document,
wherever its chunks end; and it raises on every text that the decoder rejects.
-/

namespace Sastsimi.Candidates.RawRows

open Sastsimi.Lib Sastsimi.Lib.Grammar

variable {limits : Limits}

/-! ## Spaces -/

theorem whitespace_spec (reader : Reader) :
    (whitespace reader).1 = (skipSpaces reader.unread).head?
      ∧ (whitespace reader).2.unread = skipSpaces reader.unread := by
  induction left : reader.unread generalizing reader with
  | nil =>
      have shown : reader.peek.1 = none := by rw [Reader.peek_value, left]; rfl
      rw [whitespace]
      split
      · rename_i seen
        rw [shown] at seen
        cases seen
      · exact ⟨rfl, by rw [Reader.peek_unread, left]; rfl⟩
  | cons first rest ih =>
      have shown : reader.peek.1 = some first := by rw [Reader.peek_value, left]; rfl
      rw [whitespace]
      split
      · rename_i character seen
        rw [shown] at seen
        cases seen
        split
        · rename_i space
          rw [skipSpaces, List.dropWhile_cons_of_pos space]
          exact ih reader.take.2 (by simp [left])
        · rename_i other
          rw [skipSpaces, List.dropWhile_cons_of_neg other]
          exact ⟨rfl, by rw [Reader.peek_unread, left]⟩
      · rename_i seen
        rw [shown] at seen
        cases seen

/-- A character behind spaces is shown, and may be taken. -/
theorem whitespace_at {reader : Reader} {before rest : List Char} {first : Char}
    (left : reader.unread = before ++ first :: rest) (space : Spaces before)
    (plain : isSpace first = false) :
    (whitespace reader).1 = some first ∧ (whitespace reader).2.unread = first :: rest
      ∧ (whitespace reader).2.take.2.unread = rest := by
  obtain ⟨shown, kept⟩ := whitespace_spec reader
  have stops : Stops isSpace (first :: rest) := .cons plain
  rw [left, skipSpaces_append space stops] at shown kept
  exact ⟨shown, kept, by rw [Reader.take_unread, kept]; rfl⟩

/-- What is shown stands behind spaces. -/
theorem whitespace_some {reader : Reader} {first : Char}
    (shown : (whitespace reader).1 = some first) :
    ∃ before rest, reader.unread = before ++ first :: rest ∧ Spaces before
      ∧ isSpace first = false ∧ (whitespace reader).2.unread = first :: rest
      ∧ (whitespace reader).2.take.2.unread = rest := by
  obtain ⟨same, kept⟩ := whitespace_spec reader
  obtain ⟨before, space, split⟩ := skipSpaces_spec reader.unread
  rw [shown] at same
  obtain ⟨rest, behind⟩ := List.head?_eq_some_iff.1 same.symm
  have plain := stops_skipSpaces reader.unread first (by rw [behind]; rfl)
  rw [behind] at split kept
  exact ⟨before, rest, split, space, plain, kept, by rw [Reader.take_unread, kept]; rfl⟩

theorem whitespace_none {reader : Reader} (shown : (whitespace reader).1 = none) :
    Spaces reader.unread := by
  obtain ⟨same, _⟩ := whitespace_spec reader
  obtain ⟨before, space, split⟩ := skipSpaces_spec reader.unread
  rw [shown] at same
  rw [List.head?_eq_none_iff.1 same.symm, List.append_nil] at split
  rw [split]
  exact space

/-! ## Tokens -/

/-- The result of a part, if it has one, and the text it leaves; a part that has none raises. -/
def Settles {α : Type} (post : α → List Char → Prop) : Except Halt (α × Reader) → Prop
  | .ok (value, rest) => post value rest.unread
  | .error halt => halt ≠ .spent

theorem invalid_raised : invalid ≠ .spent := by simp [invalid]

theorem expect_at {reader : Reader} {before rest : List Char} {first : Char}
    (left : reader.unread = before ++ first :: rest) (space : Spaces before)
    (plain : isSpace first = false) :
    ∃ after, expect first reader = .ok after ∧ after.unread = rest := by
  obtain ⟨shown, _, taken⟩ := whitespace_at left space plain
  exact ⟨_, if_pos shown, taken⟩

theorem expect_ok {reader after : Reader} {first : Char}
    (expected : expect first reader = .ok after) :
    ∃ before, reader.unread = before ++ first :: after.unread ∧ Spaces before := by
  rw [expect] at expected
  split at expected
  · rename_i shown
    cases expected
    obtain ⟨before, rest, split, space, _, _, taken⟩ := whitespace_some shown
    exact ⟨before, by rw [taken, split], space⟩
  · cases expected

theorem expect_error {reader : Reader} {first : Char} {halt : Halt}
    (expected : expect first reader = .error halt) : halt ≠ .spent := by
  rw [expect] at expected
  split at expected
  · cases expected
  · cases expected
    exact invalid_raised

theorem ends_at {final : Char} (text : List Char) (plain : isSpace final = false) :
    ∀ front last, text ++ [final] = front ++ [last] → isSpace last = false := by
  intro front last same
  rw [← (List.cons.inj (List.append_inj' same rfl).2).1]
  exact plain

section Strings

variable {reader : Reader} {raw before rest : List Char} {units : List Nat}

theorem hexValue_plain {character : Char} {value : Nat} (digit : hexValue character = some value) :
    character ≠ '"' ∧ character ≠ '\\' := by
  constructor
  · rintro rfl
    cases digit
  · rintro rfl
    cases digit

theorem stringTurn_plain {character : Char} (notQuote : character ≠ '"')
    (notEscape : character ≠ '\\') : stringTurn false character = .next false := by
  simp [stringTurn, notQuote, notEscape]

theorem stringTurn_escaped (character : Char) : stringTurn true character = .next false := by
  simp [stringTurn]

/-- The text of a string leaves the loop as it was, outside of an escape. -/
theorem carries_string (string : StringText raw units) :
    Carries stringTurn (.error invalid) false raw false := by
  induction string with
  | nil => exact .nil
  | plain notQuote notEscape _ _ ih => exact .cons (stringTurn_plain notQuote notEscape) ih
  | escape _ _ ih => exact .cons (by simp [stringTurn]) (.cons (stringTurn_escaped _) ih)
  | unicode digits _ ih =>
      simp only [hexUnit, Option.bind_eq_bind, Option.bind_eq_some_iff] at digits
      obtain ⟨a, first, b, second, c, third, d, fourth, _⟩ := digits
      have turn : ∀ {character value}, hexValue character = some value →
          stringTurn false character = .next false :=
        fun digit => stringTurn_plain (hexValue_plain digit).1 (hexValue_plain digit).2
      exact .cons (by simp [stringTurn]) (.cons (stringTurn_escaped _) (.cons (turn first)
        (.cons (turn second) (.cons (turn third) (.cons (turn fourth) ih)))))

theorem string_at (left : reader.unread = before ++ '"' :: (raw ++ '"' :: rest))
    (space : Spaces before) (isString : StringText raw units) :
    ∃ after, string limits reader = .ok (joinSurrogates units, after) ∧ after.unread = rest := by
  obtain ⟨shown, _, taken⟩ := whitespace_at left space (by decide)
  have ends : stringTurn false '"' = .last := rfl
  have consumed := (carries_string isString).last ends rest
  rw [← taken] at consumed
  obtain ⟨after, looped, kept⟩ := Reader.loop_ok consumed
  have loaded : loads limits ('"' :: (raw ++ ['"'])) = some (.str (joinSurrogates units)) :=
    loads_text (.str isString) (by simp [Value.nesting])
  exact ⟨after, by simp only [string, if_pos shown, looped, loaded], kept⟩

theorem string_settles (limits : Limits) (reader : Reader) :
    Settles (fun codes rest => ∃ before raw units,
        reader.unread = before ++ '"' :: (raw ++ '"' :: rest) ∧ Spaces before
          ∧ StringText raw units ∧ codes = joinSurrogates units)
      (string limits reader) := by
  rw [string]
  split
  · rename_i shown
    obtain ⟨before, rest, split, space, _, _, taken⟩ := whitespace_some shown
    split
    · rename_i halt looped
      rcases consume_error (Reader.consume_of_error looped) with ⟨state, character, raises⟩ | ended
      · rw [stringTurn] at raises
        split at raises <;> cases raises
      · cases ended
        exact invalid_raised
    · rename_i chars after looped
      obtain ⟨whole, ending⟩ := consume_ok (Reader.consume_of_loop looped)
      split
      · rename_i codes loaded
        rcases ending with ⟨escaped, next, later, _, stops⟩ | ⟨front, last, escaped, rfl, ends⟩
          | ⟨_, atEnd⟩
        · rw [stringTurn] at stops
          split at stops <;> cases stops
        · have quote : last = '"' := by
            rw [stringTurn] at ends
            split at ends
            · rename_i both
              exact both.1
            · cases ends
          have isText := text_of_loads loaded (.cons (by decide)) (ends_at ('"' :: front) (by
            rw [quote]
            decide))
          obtain ⟨raw, units, same, isString, value⟩ := isText.of_quote
          refine ⟨before, raw, units, ?_, space, isString, Value.str.inj value⟩
          rw [split, ← taken, whole, same]
          simp
        · cases atEnd
      · exact invalid_raised
  · exact invalid_raised

end Strings

/-! ## Scalars -/

theorem consume_scalar (text : List Char) :
    consume scalarTurn (.ok ()) () text
      = .ok (text.takeWhile (fun character => ¬ isDelimiter character),
        text.dropWhile (fun character => ¬ isDelimiter character)) := by
  induction text with
  | nil => rfl
  | cons first rest ih =>
      rw [consume, scalarTurn]
      by_cases delimits : isDelimiter first = true
      · simp [delimits]
      · simp [delimits, ih, Except.map]

section Scalars

variable {reader : Reader} {value : Value} {token rest : List Char}

theorem scalar_at (left : reader.unread = token ++ rest)
    (read : scanScalar limits token = some (value, [])) (delimited : Delimited rest) :
    ∃ after, scalar limits reader = .ok (value, after) ∧ after.unread = rest := by
  obtain ⟨found, split, _, plain, _⟩ := scanScalar_reads read
  rw [List.append_nil] at split
  subst split
  have run : ∀ character ∈ token, decide (¬ isDelimiter character = true) = true := by
    intro character member
    simp [delimiter_of_plain (plain character member)]
  have stops : Stops (fun character => decide (¬ isDelimiter character = true)) rest := by
    intro next member
    simp [delimited next member]
  have consumed := consume_scalar reader.unread
  rw [left, takeWhile_run run stops, dropWhile_run run stops, ← left] at consumed
  obtain ⟨after, looped, kept⟩ := Reader.loop_ok consumed
  have loaded : loads limits token = some value :=
    loads_text (.scalar read) (by rw [scanScalar_flat read]; omega)
  exact ⟨after, by simp only [scalar, looped, loaded], kept⟩

theorem scalar_settles (limits : Limits) (reader : Reader) :
    Settles (fun value rest => ∃ token, reader.unread = token ++ rest
        ∧ (∀ character ∈ token, isDelimiter character = false) ∧ Text limits value token)
      (scalar limits reader) := by
  have consumed := consume_scalar reader.unread
  obtain ⟨after, looped, kept⟩ := Reader.loop_ok consumed
  rw [scalar, looped]
  simp only
  split
  · rename_i value loaded
    have plain : ∀ character ∈ reader.unread.takeWhile fun character => ¬ isDelimiter character,
        isDelimiter character = false := by
      intro character member
      simpa using List.mem_takeWhile_imp member
    have noSpace : ∀ {character}, isDelimiter character = false → isSpace character = false := by
      intro character fails
      simp only [isDelimiter, Bool.or_eq_false_iff] at fails
      exact fails.2
    refine ⟨_, ?_, plain, text_of_loads loaded ?_ ?_⟩
    · rw [kept, List.takeWhile_append_dropWhile]
    · exact fun first member => noSpace (plain first (List.mem_of_head? member))
    · exact fun front last same => noSpace (plain last (by rw [same]; simp))
  · exact invalid_raised

end Scalars

/-! ## Rows -/

/-- Outside of strings, at a depth. -/
def outside (depth : Nat) : Brackets := ⟨depth, false, false⟩

/-- Inside a string. -/
def within (depth : Nat) (escaped : Bool) : Brackets := ⟨depth, true, escaped⟩

section Rows

variable {depth : Nat} {text rest : List Char} {value : Value}

theorem rowTurn_plain {character : Char} (plain : isStructural character = false) :
    rowTurn (outside depth) character = .next (outside depth) := by
  simp only [isStructural, isDelimiter, Bool.or_eq_false_iff, decide_eq_false_iff_not] at plain
  simp [rowTurn, outside, plain]

theorem rowTurn_space {character : Char} (space : isSpace character = true) :
    rowTurn (outside depth) character = .next (outside depth) := by
  simp only [isSpace, Bool.or_eq_true, decide_eq_true_eq] at space
  rcases space with ((rfl | rfl) | rfl) | rfl <;> rfl

theorem carries_spaces (space : Spaces text) :
    Carries rowTurn (.error invalid) (outside depth) text (outside depth) :=
  .run fun character member => rowTurn_space (space character member)

/-- A string inside a row is passed, with the same loop that `string` has. -/
theorem carries_rowString {raw : List Char} {units : List Nat} (string : StringText raw units) :
    Carries rowTurn (.error invalid) (outside depth) ('"' :: (raw ++ ['"'])) (outside depth) := by
  have inside : Carries rowTurn (.error invalid) (within depth false) raw (within depth false) := by
    have plainTurn : ∀ {character : Char}, character ≠ '"' → character ≠ '\\' →
        rowTurn (within depth false) character = .next (within depth false) := by
      intro character notQuote notEscape
      simp [rowTurn, within, notQuote, notEscape]
    have opens : rowTurn (within depth false) '\\' = .next (within depth true) := rfl
    have escapes : ∀ character,
        rowTurn (within depth true) character = .next (within depth false) := by
      intro character
      simp [rowTurn, within]
    induction string with
    | nil => exact .nil
    | plain notQuote notEscape _ _ ih => exact .cons (plainTurn notQuote notEscape) ih
    | escape _ _ ih => exact .cons opens (.cons (escapes _) ih)
    | unicode digits _ ih =>
        simp only [hexUnit, Option.bind_eq_bind, Option.bind_eq_some_iff] at digits
        obtain ⟨a, first, b, second, c, third, d, fourth, _⟩ := digits
        have turn : ∀ {character value}, hexValue character = some value →
            rowTurn (within depth false) character = .next (within depth false) :=
          fun digit => plainTurn (hexValue_plain digit).1 (hexValue_plain digit).2
        exact .cons opens (.cons (escapes _) (.cons (turn first) (.cons (turn second)
          (.cons (turn third) (.cons (turn fourth) ih)))))
  exact .cons rfl (inside.append (.single rfl))

theorem carries_elements {α : Type} (depth : Nat) {written : α → List Char → Prop} {close : Char}
    {items : List α}
    (carries : ∀ item text, written item text →
      Carries rowTurn (.error invalid) (outside depth) text (outside depth))
    (elements : Elements written close items text) :
    ∃ inside, text = inside ++ [close]
      ∧ Carries rowTurn (.error invalid) (outside depth) inside (outside depth) := by
  induction elements with
  | @last item before token behind space isWritten spaceBehind =>
      exact ⟨before ++ (token ++ behind), by simp, (carries_spaces space).append
        ((carries item token isWritten).append (carries_spaces spaceBehind))⟩
  | @more item items before token behind rest space isWritten spaceBehind _ ih =>
      obtain ⟨inside, rfl, later⟩ := ih
      exact ⟨before ++ (token ++ (behind ++ ',' :: inside)), by simp, (carries_spaces space).append
        ((carries item token isWritten).append
          ((carries_spaces spaceBehind).append (.cons rfl later)))⟩

theorem carries_member {written : Value → List Char → Prop} {member : List Nat × Value}
    (isMember : Member written member text)
    (carries : ∀ value text, written value text →
      Carries rowTurn (.error invalid) (outside depth) text (outside depth)) :
    Carries rowTurn (.error invalid) (outside depth) text (outside depth) := by
  cases isMember with
  | mk string before behind isWritten =>
      have turn : rowTurn (outside depth) ':' = .next (outside depth) := rfl
      have carried := (carries_rowString string).append ((carries_spaces before).append
        (.cons turn ((carries_spaces behind).append (carries _ _ isWritten))))
      simpa using carried

/-- A bracket pair around what is passed one deeper. -/
theorem carries_brackets {opening close : Char} {inside : List Char}
    (opens : opening = '[' ∨ opening = '\x7b') (closes : close = ']' ∨ close = '\x7d')
    (positive : 0 < depth) (shallow : depth + 1 ≤ 128)
    (carries : Carries rowTurn (.error invalid) (outside (depth + 1)) inside
      (outside (depth + 1))) :
    Carries rowTurn (.error invalid) (outside depth) (opening :: (inside ++ [close]))
      (outside depth) := by
  have entered : rowTurn (outside depth) opening = .next (outside (depth + 1)) := by
    have fits : ¬ (128 : Int) < depth + 1 := by omega
    rcases opens with rfl | rfl <;> simp [rowTurn, outside, fits]
  have left : rowTurn (outside (depth + 1)) close = .next (outside depth) := by
    have inner : depth ≠ 0 := by omega
    rcases closes with rfl | rfl <;> simp [rowTurn, outside, inner]
  exact .cons entered (carries.append (.single left))

theorem carries_scalar (read : scanScalar limits text = some (value, [])) :
    Carries rowTurn (.error invalid) (outside depth) text (outside depth) := by
  obtain ⟨token, split, _, plain, _⟩ := scanScalar_reads read
  rw [split, List.append_nil]
  exact .run fun character member => rowTurn_plain (plain character member)

/-- The loop takes what stands between the brackets of an array, if it takes the items. -/
theorem carries_items {items : List Value} (isText : Text limits (.arr items) text)
    (carries : ∀ item ∈ items, ∀ text, Text limits item text →
      Carries rowTurn (.error invalid) (outside depth) text (outside depth)) :
    ∃ inside, text = '[' :: (inside ++ [']'])
      ∧ Carries rowTurn (.error invalid) (outside depth) inside (outside depth) := by
  cases isText with
  | scalar read => exact absurd (scanScalar_flat read) (by simp [Value.nesting])
  | emptyArr space => exact ⟨_, rfl, carries_spaces space⟩
  | arr elements =>
      have listed := elements.and fun item member => member
      obtain ⟨inside, rfl, passed⟩ :=
        carries_elements depth (fun item text isItem => carries item isItem.2 text isItem.1) listed
      exact ⟨inside, rfl, passed⟩

theorem carries_fields {fields : List (List Nat × Value)} (isText : Text limits (.obj fields) text)
    (carries : ∀ field ∈ fields, ∀ text, Text limits field.2 text →
      Carries rowTurn (.error invalid) (outside depth) text (outside depth)) :
    ∃ inside, text = '\x7b' :: (inside ++ ['\x7d'])
      ∧ Carries rowTurn (.error invalid) (outside depth) inside (outside depth) := by
  cases isText with
  | scalar read => exact absurd (scanScalar_flat read) (by simp [Value.nesting])
  | emptyObj space => exact ⟨_, rfl, carries_spaces space⟩
  | obj elements =>
      have listed := elements.and fun field member => member
      have member : ∀ field text, (Member (Text limits) field text ∧ field ∈ fields) →
          Carries rowTurn (.error invalid) (outside depth) text (outside depth) := by
        intro field text isField
        refine carries_member isField.1.self fun value text isText => ?_
        obtain ⟨isText, rfl⟩ := isText
        exact carries field isField.2 text isText
      obtain ⟨inside, rfl, passed⟩ := carries_elements depth member listed
      exact ⟨inside, rfl, passed⟩

/-- Inside a row a value is passed at its depth. -/
theorem carries_text (isText : Text limits value text) (positive : 0 < depth)
    (shallow : depth + value.nesting ≤ 128) :
    Carries rowTurn (.error invalid) (outside depth) text (outside depth) := by
  induction value using Value.byParts generalizing text depth with
  | null | bool | number =>
      cases isText with
      | scalar read => exact carries_scalar read
  | str codes =>
      cases isText with
      | scalar read => exact carries_scalar read
      | str string => exact carries_rowString string
  | arr items ih =>
      rw [Value.nesting] at shallow
      obtain ⟨inside, rfl, passed⟩ := carries_items isText fun item member text isText =>
        ih item member isText (Nat.succ_pos depth) (by
          have bound := nestingItems_le.1 (Nat.le_refl _) item member
          omega)
      exact carries_brackets (.inl rfl) (.inl rfl) positive (by omega) passed
  | obj fields ih =>
      rw [Value.nesting] at shallow
      obtain ⟨inside, rfl, passed⟩ := carries_fields isText fun field member text isText =>
        ih field member isText (Nat.succ_pos depth) (by
          have bound := nestingFields_le.1 (Nat.le_refl _) field member
          omega)
      exact carries_brackets (.inr rfl) (.inr rfl) positive (by omega) passed

/-- The loop raises somewhere in the text. -/
def Raises (depth : Nat) (text : List Char) : Prop :=
  ∀ rest, consume rowTurn (.error invalid) (outside depth) (text ++ rest) = .error tooDeep

theorem Raises.append (raises : Raises depth text) (more : List Char) :
    Raises depth (text ++ more) := by
  intro rest
  rw [List.append_assoc]
  exact raises (more ++ rest)

theorem Raises.after {before : List Char}
    (carries : Carries rowTurn (.error invalid) (outside depth) before (outside depth))
    (raises : Raises depth text) : Raises depth (before ++ text) := by
  intro rest
  rw [List.append_assoc, carries, raises]
  rfl

/-- A bracket too deep raises, and so does what raises behind a bracket. -/
theorem raises_bracket {opening : Char} (opens : opening = '[' ∨ opening = '\x7b')
    (inside : depth + 1 ≤ 128 → Raises (depth + 1) text) : Raises depth (opening :: text) := by
  intro rest
  by_cases fits : depth + 1 ≤ 128
  · have entered : rowTurn (outside depth) opening = .next (outside (depth + 1)) := by
      have shallow : ¬ (128 : Int) < depth + 1 := by omega
      rcases opens with rfl | rfl <;> simp [rowTurn, outside, shallow]
    rw [List.cons_append, consume, entered]
    simp only [inside fits rest]
    rfl
  · have refused : rowTurn (outside depth) opening = .raise tooDeep := by
      have deep : (128 : Int) < depth + 1 := by omega
      rcases opens with rfl | rfl <;> simp [rowTurn, outside, deep]
    rw [List.cons_append, consume, refused]

theorem raises_elements {α : Type} {written : α → List Char → Prop} {close : Char}
    {items : List α}
    (each : ∀ item text, written item text →
      Carries rowTurn (.error invalid) (outside depth) text (outside depth) ∨ Raises depth text)
    (elements : Elements written close items text)
    (deep : ∃ item ∈ items, ∀ text, written item text → Raises depth text) :
    Raises depth text := by
  induction elements with
  | @last item before token behind space isWritten _ =>
      obtain ⟨found, member, raises⟩ := deep
      rw [List.mem_singleton.1 member] at raises
      exact .after (carries_spaces space) ((raises token isWritten).append _)
  | @more item items before token behind rest space isWritten spaceBehind _ ih =>
      refine .after (carries_spaces space) ?_
      rcases each item token isWritten with carries | raises
      · obtain ⟨found, member, raises⟩ := deep
        rcases List.mem_cons.1 member with rfl | later
        · exact (raises token isWritten).append _
        · have comma : Carries rowTurn (.error invalid) (outside depth) [','] (outside depth) :=
            .single rfl
          exact .after carries (.after (carries_spaces spaceBehind)
            (.after comma (ih ⟨found, later, raises⟩)))
      · exact raises.append _

theorem raises_member {written : Value → List Char → Prop} {member : List Nat × Value}
    (isMember : Member written member text)
    (raises : ∀ value text, written value text → Raises depth text) : Raises depth text := by
  cases isMember with
  | mk string before behind isWritten =>
      have colon : Carries rowTurn (.error invalid) (outside depth) [':'] (outside depth) :=
        .single rfl
      have raised := Raises.after (carries_rowString string) (.after (carries_spaces before)
        (.after colon (.after (carries_spaces behind) (raises _ _ isWritten))))
      simpa using raised

/-- A value that is nested too deep inside a row raises. -/
theorem raises_text (isText : Text limits value text) (fits : depth ≤ 128)
    (deep : 128 < depth + value.nesting) : Raises depth text := by
  induction value using Value.byParts generalizing text depth with
  | null | bool | number | str =>
      simp only [Value.nesting] at deep
      omega
  | arr items ih =>
      rw [Value.nesting] at deep
      cases isText with
      | scalar read => exact absurd (scanScalar_flat read) (by simp [Value.nesting])
      | emptyArr =>
          rw [nestingItems] at deep
          exact raises_bracket (.inl rfl) fun shallow => absurd shallow (by omega)
      | arr elements =>
          refine raises_bracket (.inl rfl) fun shallow => ?_
          have found : ∃ item ∈ items, 128 < depth + 1 + item.nesting := by
            by_contra none
            have bound : nestingItems items ≤ 128 - (depth + 1) := nestingItems_le.2 <| by
              intro item member
              by_contra exceeds
              exact none ⟨item, member, by omega⟩
            omega
          obtain ⟨item, member, exceeds⟩ := found
          refine raises_elements ?_ (elements.and fun item member => member)
            ⟨item, member, fun text isItem => ih item member isItem.1 shallow exceeds⟩
          intro item text isItem
          by_cases inner : depth + 1 + item.nesting ≤ 128
          · exact .inl (carries_text isItem.1 (Nat.succ_pos depth) inner)
          · exact .inr (ih item isItem.2 isItem.1 shallow (by omega))
  | obj fields ih =>
      rw [Value.nesting] at deep
      cases isText with
      | scalar read => exact absurd (scanScalar_flat read) (by simp [Value.nesting])
      | emptyObj =>
          rw [nestingFields] at deep
          exact raises_bracket (.inr rfl) fun shallow => absurd shallow (by omega)
      | obj elements =>
          refine raises_bracket (.inr rfl) fun shallow => ?_
          have found : ∃ field ∈ fields, 128 < depth + 1 + field.2.nesting := by
            by_contra none
            have bound : nestingFields fields ≤ 128 - (depth + 1) := nestingFields_le.2 <| by
              intro field member
              by_contra exceeds
              exact none ⟨field, member, by omega⟩
            omega
          have refuses : ∀ field ∈ fields, 128 < depth + 1 + field.2.nesting →
              ∀ text, Member (Text limits) field text → Raises (depth + 1) text := by
            intro field member exceeds text isMember
            refine raises_member isMember.self fun value text isText => ?_
            obtain ⟨isText, rfl⟩ := isText
            exact ih field member isText shallow exceeds
          obtain ⟨field, member, exceeds⟩ := found
          refine raises_elements ?_ (elements.and fun field member => member)
            ⟨field, member, fun text isField => refuses field member exceeds text isField.1⟩
          intro field text isField
          by_cases inner : depth + 1 + field.2.nesting ≤ 128
          · refine .inl (carries_member isField.1.self fun value text isText => ?_)
            obtain ⟨isText, rfl⟩ := isText
            exact carries_text isText (Nat.succ_pos depth) inner
          · exact .inr (refuses field isField.2 (by omega) text isField.1)

variable {reader : Reader} {before : List Char}

theorem row_at {fields : List (List Nat × Value)} {token : List Char}
    (interpreter : 128 ≤ limits.nesting)
    (left : reader.unread = before ++ (token ++ rest)) (space : Spaces before)
    (isText : Text limits (.obj fields) token) (shallow : (Value.obj fields).nesting ≤ 128) :
    ∃ after, row limits reader = .ok (.obj fields, after) ∧ after.unread = rest := by
  have deeper : ∀ field ∈ fields, 1 + field.2.nesting ≤ 128 := by
    intro field member
    have bound := nestingFields_le.1 (Nat.le_refl _) field member
    rw [Value.nesting] at shallow
    omega
  obtain ⟨inside, rfl, passed⟩ := carries_fields isText fun field member text isText =>
    carries_text isText Nat.one_pos (deeper field member)
  obtain ⟨shown, kept, _⟩ := whitespace_at left space (by decide)
  have opened : rowTurn ⟨0, false, false⟩ '\x7b' = .next (outside 1) := rfl
  have closed : rowTurn (outside 1) '\x7d' = .last := rfl
  have consumed := (Carries.cons opened passed).last closed rest
  have whole : '\x7b' :: inside ++ '\x7d' :: rest = (whitespace reader).2.unread := by
    rw [kept]
    simp
  rw [whole] at consumed
  obtain ⟨after, looped, ended⟩ := Reader.loop_ok consumed
  have loaded := loads_text isText (Nat.le_trans shallow interpreter)
  refine ⟨after, ?_, ended⟩
  simp only [row, if_pos shown, looped]
  rw [List.cons_append, loaded]

theorem rowTurn_raise {state : Brackets} {character : Char} {halt : Halt}
    (raises : rowTurn state character = .raise halt) : halt ≠ .spent := by
  rw [rowTurn] at raises
  repeat' split at raises
  all_goals cases raises
  · simp [tooDeep]
  · exact invalid_raised

theorem rowTurn_goes (state : Brackets) (character : Char) : rowTurn state character ≠ .stop := by
  rw [rowTurn]
  repeat' split
  all_goals simp

/-- A row ends behind a closing bracket. -/
theorem rowTurn_last {state : Brackets} {character : Char}
    (ends : rowTurn state character = .last) : isSpace character = false := by
  rw [rowTurn] at ends
  repeat' split at ends
  all_goals cases ends
  rename_i closes _
  rcases closes with rfl | rfl <;> decide

theorem row_settles (limits : Limits) (reader : Reader) :
    Settles (fun value rest => ∃ before token, reader.unread = before ++ (token ++ rest)
        ∧ Spaces before ∧ Text limits value token ∧ value.nesting ≤ 128)
      (row limits reader) := by
  rw [row]
  split
  · rename_i shown
    obtain ⟨before, rest, split, space, _, kept, _⟩ := whitespace_some shown
    split
    · rename_i halt looped
      rcases consume_error (Reader.consume_of_error looped) with ⟨state, character, raises⟩ | ended
      · exact rowTurn_raise raises
      · cases ended
        exact invalid_raised
    · rename_i chars after looped
      have consumed := Reader.consume_of_loop looped
      obtain ⟨whole, ending⟩ := consume_ok consumed
      split
      · rename_i fields loaded
        rcases ending with ⟨state, next, later, _, stops⟩ | ⟨front, last, state, rfl, ends⟩
          | ⟨_, atEnd⟩
        · exact absurd stops (rowTurn_goes state next)
        · have opens : Stops isSpace (front ++ [last]) := by
            intro first member
            rw [kept] at whole
            have head := congrArg List.head? whole
            rw [List.head?_append, Option.mem_def.1 member] at head
            cases head
            decide
          have isText := text_of_loads loaded opens (ends_at front (rowTurn_last ends))
          refine ⟨before, front ++ [last], ?_, space, isText, ?_⟩
          · rw [split, ← kept, whole]
          · by_contra deep
            have raised := raises_text isText (Nat.zero_le 128) (by omega) after.unread
            rw [← whole] at raised
            exact absurd (consumed.symm.trans raised) (by simp)
        · cases atEnd
      · simp [Settles]
      · exact invalid_raised
  · simp [Settles]

end Rows

/-! ## What passes is a text -/

/-- The text that a part leaves; a part that leaves none raises. -/
def Ends (post : List Char → Prop) (walked : Walked) : Prop :=
  match walked.ended with
  | .ok after => post after.unread
  | .error halt => halt ≠ .spent

/-- A text of an item behind spaces, in front of the rest. -/
def Passes {α : Type} (written : α → List Char → Prop) (text rest : List Char) : Prop :=
  ∃ item before token, text = before ++ (token ++ rest) ∧ Spaces before ∧ written item token

section Passing

variable {α : Type} {written : α → List Char → Prop} {close : Char} {element : Reader → Walked}
  {bound fuel : Nat} {first second : List Char → Prop} {walked : Walked} {next : Reader → Walked}
  {reader : Reader}

theorem Ends.andThen (ends : Ends first walked)
    (continues : ∀ after, first after.unread → Ends second (next after)) :
    Ends second (walked.andThen next) := by
  rw [Walked.andThen]
  rw [Ends] at ends
  split
  · rename_i halt raised
    rw [raised] at ends
    rw [Ends, raised]
    exact ends
  · rename_i after passed
    rw [passed] at ends
    exact continues after ends

theorem Ends.mono (ends : Ends first walked) (weaker : ∀ rest, first rest → second rest) :
    Ends second walked := by
  rw [Ends] at ends ⊢
  split
  · rename_i after passed
    rw [passed] at ends
    exact weaker _ ends
  · rename_i halt raised
    rw [raised] at ends
    exact ends

theorem expect_ends (expected : Char) (reader : Reader) :
    Ends (fun rest => ∃ before, reader.unread = before ++ expected :: rest ∧ Spaces before)
      (.silent (expect expected reader)) := by
  cases passed : expect expected reader with
  | ok after => exact expect_ok passed
  | error halt => exact expect_error passed

theorem elements_ends
    (each : ∀ reader : Reader, reader.unread.length ≤ bound →
      Ends (Passes written reader.unread) (element reader))
    (short : reader.unread.length ≤ bound) (fueled : reader.unread.length < fuel) :
    Ends (fun rest => ∃ items token, reader.unread = token ++ rest
      ∧ Elements written close items token) (elements close element fuel reader) := by
  induction fuel generalizing reader with
  | zero => cases fueled
  | succ fuel ih =>
      rw [elements]
      refine (each reader short).andThen fun after passed => ?_
      obtain ⟨item, before, token, left, space, isWritten⟩ := passed
      split
      · rename_i shown
        obtain ⟨behind, rest, split, spaceBehind, _, _, taken⟩ := whitespace_some shown
        refine ⟨[item], before ++ (token ++ (behind ++ [close])), ?_,
          .last space isWritten spaceBehind⟩
        rw [left, split, taken]
        simp
      · obtain ⟨behind, spaceBehind, split⟩ := skipSpaces_spec after.unread
        rw [← (whitespace_spec after).2] at split
        refine (expect_ends ',' _).andThen fun later found => ?_
        obtain ⟨more, comma, spaceMore⟩ := found
        have spaces : Spaces (behind ++ more) := spaceBehind.append spaceMore
        have whole : reader.unread
            = before ++ (token ++ (behind ++ more ++ ',' :: later.unread)) := by
          rw [left, split, comma]
          simp
        have smaller : later.unread.length < reader.unread.length := by
          rw [whole]
          simp only [List.length_append, List.length_cons]
          omega
        refine (ih (Nat.le_trans smaller.le short) (by omega)).mono fun rest others => ?_
        obtain ⟨items, text, split, elements⟩ := others
        refine ⟨item :: items, before ++ (token ++ (behind ++ more ++ ',' :: text)), ?_,
          .more space isWritten spaces elements⟩
        rw [whole, split]
        simp

/-- What passes behind an opening bracket. -/
def PassesCollection (written : α → List Char → Prop) (close : Char) (text rest : List Char) :
    Prop :=
  (∃ inside, text = inside ++ close :: rest ∧ Spaces inside)
    ∨ ∃ items token, text = token ++ rest ∧ Elements written close items token

theorem collection_ends
    (each : ∀ reader : Reader, reader.unread.length ≤ bound →
      Ends (Passes written reader.unread) (element reader))
    (short : reader.unread.length ≤ bound) (fueled : reader.unread.length < fuel) :
    Ends (PassesCollection written close reader.unread) (collection close element fuel reader) := by
  rw [collection]
  split
  · rename_i shown
    obtain ⟨inside, rest, split, space, _, _, taken⟩ := whitespace_some shown
    exact .inl ⟨inside, by rw [taken, split], space⟩
  · obtain ⟨before, space, split⟩ := skipSpaces_spec reader.unread
    rw [← (whitespace_spec reader).2] at split
    have smaller : (whitespace reader).2.unread.length ≤ reader.unread.length := by
      rw [split, List.length_append]
      omega
    refine (elements_ends each (Nat.le_trans smaller short)
      (Nat.lt_of_le_of_lt smaller fueled)).mono fun rest passed => ?_
    obtain ⟨items, token, left, elements⟩ := passed
    exact .inr ⟨items, before ++ token, by rw [split, left, List.append_assoc],
      elements.spaced space⟩

theorem keyed_ends {written : Value → List Char → Prop} {value : List Nat → Reader → Walked}
    (each : ∀ key, ∀ reader : Reader, reader.unread.length ≤ bound →
      Ends (Passes written reader.unread) (value key reader))
    (short : reader.unread.length ≤ bound) :
    Ends (Passes (Member written) reader.unread) (keyed limits value reader) := by
  have settles := string_settles limits reader
  rw [keyed]
  split
  · rename_i halt raised
    rw [raised] at settles
    exact settles
  · rename_i key after named
    rw [named] at settles
    obtain ⟨before, raw, units, split, space, isString, rfl⟩ := settles
    refine (expect_ends ':' after).andThen fun later found => ?_
    obtain ⟨front, colon, spaceFront⟩ := found
    have whole : reader.unread
        = before ++ '"' :: (raw ++ '"' :: (front ++ ':' :: later.unread)) := by
      rw [split, colon]
    have smaller : later.unread.length ≤ bound := by
      refine Nat.le_trans ?_ short
      rw [whole]
      simp only [List.length_append, List.length_cons]
      omega
    refine (each (joinSurrogates units) later smaller).mono fun rest passed => ?_
    obtain ⟨content, behind, token, left, spaceBehind, isWritten⟩ := passed
    refine ⟨(joinSurrogates units, content), before, _, ?_, space,
      .mk isString spaceFront spaceBehind isWritten⟩
    rw [whole, left]
    simp

/-- The text of an array or an object around what passes. -/
theorem PassesCollection.arr {holds : Value → Prop} {text rest : List Char}
    (passed : PassesCollection (fun item text => Text limits item text ∧ holds item) ']' text
      rest) :
    ∃ items token, '[' :: text = token ++ rest ∧ Text limits (.arr items) token
      ∧ ∀ item ∈ items, holds item := by
  rcases passed with ⟨inside, rfl, space⟩ | ⟨items, token, rfl, elements⟩
  · exact ⟨[], _, by simp, .emptyArr space, fun _ member => absurd member List.not_mem_nil⟩
  · refine ⟨items, '[' :: token, by simp, .arr (elements.imp fun _ _ both => both.1), ?_⟩
    intro item member
    obtain ⟨text, _, bounded⟩ := elements.all item member
    exact bounded

theorem PassesCollection.obj {holds : Value → Prop} {text rest : List Char}
    (passed : PassesCollection
      (Member fun content text => Text limits content text ∧ holds content) '\x7d' text rest) :
    ∃ fields token, '\x7b' :: text = token ++ rest ∧ Text limits (.obj fields) token
      ∧ ∀ field ∈ fields, holds field.2 := by
  rcases passed with ⟨inside, rfl, space⟩ | ⟨fields, token, rfl, elements⟩
  · exact ⟨[], _, by simp, .emptyObj space, fun _ member => absurd member List.not_mem_nil⟩
  · refine ⟨fields, '\x7b' :: token, by simp,
      .obj (elements.imp fun _ _ isMember => isMember.imp fun _ _ both => both.1), ?_⟩
    intro field member
    obtain ⟨text, isMember⟩ := elements.all field member
    obtain ⟨inside, _, bounded⟩ := isMember.content
    exact bounded

end Passing

/-- A value of a bounded nesting. -/
def Nested (limits : Limits) (bound depth : Nat) (value : Value) (text : List Char) : Prop :=
  Text limits value text ∧ depth + value.nesting ≤ bound

section Nesting

variable {fuel depth bound : Nat} {reader : Reader}

theorem tooDeep_raised : tooDeep ≠ .spent := by simp [tooDeep]

theorem nested_arr {text rest before : List Char} (shallow : depth < bound)
    (space : Spaces before)
    (passed : PassesCollection (Nested limits bound (depth + 1)) ']' text rest) :
    Passes (Nested limits bound depth) (before ++ '[' :: text) rest := by
  obtain ⟨items, token, split, isText, bounds⟩ := passed.arr
  refine ⟨.arr items, before, token, by rw [split], space, isText, ?_⟩
  rw [Value.nesting]
  have bounded : nestingItems items ≤ bound - (depth + 1) := nestingItems_le.2 fun item member => by
    have each := bounds item member
    omega
  omega

theorem nested_obj {text rest before : List Char} (shallow : depth < bound)
    (space : Spaces before)
    (passed : PassesCollection (Member (Nested limits bound (depth + 1))) '\x7d' text rest) :
    Passes (Nested limits bound depth) (before ++ '\x7b' :: text) rest := by
  obtain ⟨fields, token, split, isText, bounds⟩ := passed.obj
  refine ⟨.obj fields, before, token, by rw [split], space, isText, ?_⟩
  rw [Value.nesting]
  have bounded : nestingFields fields ≤ bound - (depth + 1) :=
    nestingFields_le.2 fun field member => by
      have each := bounds field member
      omega
  omega

/-- What is skipped is the text of a value that is not nested too deep. -/
theorem skip_ends (fueled : reader.unread.length < fuel) :
    Ends (Passes (Nested limits 129 depth) reader.unread) (skip limits fuel depth reader) := by
  induction fuel generalizing reader depth with
  | zero => cases fueled
  | succ fuel ih =>
      rw [skip]
      split
      · exact tooDeep_raised
      · rename_i shallow
        split
        · exact invalid_raised
        · rename_i token shown
          obtain ⟨before, rest, split, space, plain, kept, taken⟩ := whitespace_some shown
          have smaller : (whitespace reader).2.take.2.unread.length < fuel := by
            rw [split, List.length_append, List.length_cons] at fueled
            rw [taken]
            omega
          have each : ∀ later : Reader,
              later.unread.length ≤ (whitespace reader).2.take.2.unread.length →
              Ends (Passes (Nested limits 129 (depth + 1)) later.unread)
                (skip limits fuel (depth + 1) later) :=
            fun later short => ih (Nat.lt_of_le_of_lt short smaller)
          split
          · rename_i brace
            refine (collection_ends (fun later short => keyed_ends (fun _ => each) short)
              (Nat.le_refl _) smaller).mono fun rest passed => ?_
            rw [split, brace, ← taken]
            exact nested_obj (by omega) space passed
          · split
            · rename_i bracket
              refine (collection_ends each (Nat.le_refl _) smaller).mono fun rest passed => ?_
              rw [split, bracket, ← taken]
              exact nested_arr (by omega) space passed
            · split
              · have settles := string_settles limits (whitespace reader).2
                cases read : string limits (whitespace reader).2 with
                | error halt =>
                    rw [read] at settles
                    exact settles
                | ok result =>
                    rw [read] at settles
                    obtain ⟨front, raw, units, left, spaceFront, isString, _⟩ := settles
                    refine ⟨.str (joinSurrogates units), before ++ front, '"' :: (raw ++ ['"']), ?_,
                      Spaces.append space spaceFront, .str isString, by
                        simp only [Value.nesting]
                        omega⟩
                    rw [split, ← kept, left]
                    simp
              · rename_i notBrace notBracket notQuote
                have settles := scalar_settles limits (whitespace reader).2
                cases read : scalar limits (whitespace reader).2 with
                | error halt =>
                    rw [read] at settles
                    exact settles
                | ok result =>
                    rw [read] at settles
                    obtain ⟨scalar, left, _, isText⟩ := settles
                    refine ⟨result.1, before, scalar, by rw [split, ← kept, left], space,
                      isText, ?_⟩
                    rw [kept] at left
                    rw [isText.flat fun first later same => ?_]
                    · omega
                    · rw [same] at left
                      rw [← (List.cons.inj left).1]
                      exact ⟨notQuote, notBracket, notBrace⟩

theorem yieldRow_ends (engine : Engine) (reader : Reader) :
    Ends (Passes (fun value text => Text limits value text ∧ value.nesting ≤ 128) reader.unread)
      (yieldRow limits engine reader) := by
  have settles := row_settles limits reader
  rw [yieldRow]
  split
  · rename_i halt raised
    rw [raised] at settles
    exact settles
  · rename_i value after yielded
    rw [yielded] at settles
    obtain ⟨before, token, split, space, isText, shallow⟩ := settles
    exact ⟨value, before, token, split, space, isText, shallow⟩

theorem targets_short {path : List (List Nat)} {engine : Engine}
    (target : targets.lookup path = some engine) : path.length ≤ 3 := by
  obtain ⟨before, after, split, _⟩ := List.lookup_eq_some_iff.1 target
  have listed : (path, engine) ∈ targets := by simp [split]
  simp only [targets, List.mem_cons, Prod.mk.injEq, List.not_mem_nil, or_false] at listed
  rcases listed with ⟨rfl, _⟩ | ⟨rfl, _⟩ <;> simp

/-- What the walk passes is the text of a value that is not nested too deep. -/
theorem walk_ends {path : List (List Nat)} (level : path.length = depth)
    (fueled : reader.unread.length + 1 < fuel) :
    Ends (Passes (Nested limits 132 depth) reader.unread) (walk limits fuel path depth reader) := by
  induction fuel generalizing reader path depth with
  | zero => cases fueled
  | succ fuel ih =>
      rw [walk]
      split
      · exact tooDeep_raised
      · rename_i shallow
        split
        · rename_i engine target
          have short := targets_short target
          have opened : Ends
              (fun rest => ∃ before, reader.unread = before ++ '[' :: rest ∧ Spaces before)
              (Walked.mk [] true (expect '[' reader)) := expect_ends '[' reader
          refine opened.andThen fun after found => ?_
          obtain ⟨before, split, space⟩ := found
          have smaller : after.unread.length < fuel := by
            rw [split, List.length_append, List.length_cons] at fueled
            omega
          have each : ∀ later : Reader, later.unread.length ≤ after.unread.length →
              Ends (Passes (Nested limits 132 (depth + 1)) later.unread)
                (yieldRow limits engine later) := by
            refine fun later _ => (yieldRow_ends engine later).mono fun rest passed => ?_
            obtain ⟨value, front, token, left, spaceFront, isText, bounded⟩ := passed
            exact ⟨value, front, token, left, spaceFront, isText, by omega⟩
          refine (collection_ends each (Nat.le_refl _) smaller).mono fun rest passed => ?_
          rw [split]
          exact nested_arr (by omega) space passed
        · split
          · refine (skip_ends (by omega)).mono fun rest passed => ?_
            obtain ⟨value, before, token, left, space, isText, bounded⟩ := passed
            exact ⟨value, before, token, left, space, isText, by omega⟩
          · split
            · rename_i shown
              obtain ⟨before, rest, split, space, _, _, taken⟩ := whitespace_some shown
              have smaller : (whitespace reader).2.take.2.unread.length + 1 < fuel := by
                rw [split, List.length_append, List.length_cons] at fueled
                rw [taken]
                omega
              have each : ∀ key, ∀ later : Reader,
                  later.unread.length ≤ (whitespace reader).2.take.2.unread.length →
                  Ends (Passes (Nested limits 132 (depth + 1)) later.unread)
                    (walk limits fuel (path ++ [key]) (depth + 1) later) :=
                fun key later short => ih (by simp [level]) (by omega)
              refine (collection_ends (fun later short => keyed_ends each short)
                (Nat.le_refl _) (by omega)).mono fun rest passed => ?_
              rw [split, ← taken]
              exact nested_obj (by omega) space passed
            · split
              · rename_i shown
                obtain ⟨before, rest, split, space, _, _, taken⟩ := whitespace_some shown
                have smaller : (whitespace reader).2.take.2.unread.length + 1 < fuel := by
                  rw [split, List.length_append, List.length_cons] at fueled
                  rw [taken]
                  omega
                have each : ∀ later : Reader,
                    later.unread.length ≤ (whitespace reader).2.take.2.unread.length →
                    Ends (Passes (Nested limits 132 (depth + 1)) later.unread)
                      (walk limits fuel (path ++ [codes "*"]) (depth + 1) later) :=
                  fun later short => ih (by simp [level]) (by omega)
                refine (collection_ends each (Nat.le_refl _) (by omega)).mono fun rest passed => ?_
                rw [split, ← taken]
                exact nested_arr (by omega) space passed
              · exact invalid_raised

/-- A text whose rows are all read is accepted by the decoder. -/
theorem rawRows_ends (interpreter : 132 ≤ limits.nesting) (reader : Reader) :
    Ends (fun _ => ∃ value, loads limits reader.unread = some value) (rawRows limits reader) := by
  rw [rawRows]
  refine (walk_ends rfl (by omega)).andThen fun after passed => ?_
  obtain ⟨value, before, token, split, space, isText, bounded⟩ := passed
  rw [finish]
  split
  · exact invalid_raised
  · rename_i noMore
    split
    · simp [Ends, Walked.silent]
    · have none : (whitespace after).1 = none := by simpa using noMore
      exact ⟨value, loads_iff.2
        ⟨⟨before, token, after.unread, split, space, isText, whitespace_none none⟩, by omega⟩⟩

end Nesting

end Sastsimi.Candidates.RawRows
