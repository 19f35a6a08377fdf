import Sastsimi.Lib.JsonDecoding

/-!
# Respelled texts

A character that stands in a JSON text only within strings may be written there as an escape: the
text is still one of the same value.
-/

namespace Sastsimi.Lib.Grammar

open Json

/-- A character that a JSON text has only within its strings, where it stands for itself. -/
def isFree (character : Char) : Bool :=
  decide (32 ≤ character.toNat) &&
    !(character.isAlphanum || "\"\\/-+.:,[]\x7b\x7d ".toList.contains character)

/-- A way to write characters: some of those that are free as escapes, the others as they are. -/
structure Respelling where
  moves : Char → Bool
  spell : Char → List Char
  free : ∀ character, moves character = true → isFree character = true
  spelled : ∀ character, moves character = true →
    spellsUnit (spell character) character.toNat = true
  still : ∀ character, moves character = false → spell character = [character]

namespace Respelling

variable (respelling : Respelling)

/-- The text with its characters respelled. -/
def write (text : List Char) : List Char := text.flatMap respelling.spell

variable {respelling} {limits : Limits} {text raw : List Char} {value : Value} {units : List Nat}

theorem write_append (front back : List Char) :
    respelling.write (front ++ back) = respelling.write front ++ respelling.write back :=
  List.flatMap_append ..

/-- A character that is not free stays as it is. -/
theorem spell_kept {character : Char} (kept : isFree character = false) :
    respelling.spell character = [character] := by
  apply respelling.still
  cases moves : respelling.moves character with
  | false => rfl
  | true =>
      rw [respelling.free character moves] at kept
      cases kept

theorem write_cons_kept {character : Char} (kept : isFree character = false)
    (rest : List Char) : respelling.write (character :: rest) = character :: respelling.write rest := by
  rw [write, List.flatMap_cons, spell_kept kept]
  rfl

theorem write_kept (kept : ∀ character ∈ text, isFree character = false) :
    respelling.write text = text := by
  induction text with
  | nil => rfl
  | cons first rest ih =>
      rw [write_cons_kept (kept first List.mem_cons_self),
        ih fun character member => kept character (List.mem_cons_of_mem _ member)]

/-! ## Strings -/

theorem simpleEscape_kept {escaped : Char} {unit : Nat} (found : simpleEscape escaped = some unit) :
    isFree escaped = false := by
  unfold simpleEscape at found
  split at found <;> first | decide | cases found

theorem hexValue_kept {character : Char} {unit : Nat} (found : hexValue character = some unit) :
    isFree character = false := by
  have digit : character.isAlphanum = true := by
    unfold hexValue at found
    split at found
    · rename_i digit
      simp [Char.isAlphanum, digit]
    · split at found
      · rename_i lower
        have isLower : character.isLower = true :=
          Bool.and_eq_true_iff.2 ⟨decide_eq_true lower.1,
            decide_eq_true (Nat.le_trans lower.2 (by decide))⟩
        exact Bool.or_eq_true_iff.2 (.inl (Bool.or_eq_true_iff.2 (.inr isLower)))
      · split at found
        · rename_i upper
          have isUpper : character.isUpper = true :=
            decide_eq_true ⟨upper.1, Nat.le_trans upper.2 (by decide)⟩
          exact Bool.or_eq_true_iff.2 (.inl (Bool.or_eq_true_iff.2 (.inl isUpper)))
        · cases found
  simp [isFree, digit]

/-- A respelled string spells the same. -/
theorem stringText (string : StringText raw units) : StringText (respelling.write raw) units := by
  induction string with
  | nil => exact .nil
  | @plain character raw units quote slash visible _ ih =>
      cases moves : respelling.moves character with
      | false =>
          rw [write, List.flatMap_cons, respelling.still character moves]
          exact .plain quote slash visible ih
      | true => exact stringText_spelled (respelling.spelled character moves) ih
  | escape found _ ih =>
      rw [write_cons_kept (by decide), write_cons_kept (simpleEscape_kept found)]
      exact .escape found ih
  | unicode found _ ih =>
      have digits := found
      simp only [hexUnit, bind, Option.bind_eq_some_iff] at digits
      obtain ⟨_, first, _, second, _, third, _, fourth, -⟩ := digits
      rw [write_cons_kept (by decide), write_cons_kept (by decide),
        write_cons_kept (hexValue_kept first), write_cons_kept (hexValue_kept second),
        write_cons_kept (hexValue_kept third), write_cons_kept (hexValue_kept fourth)]
      exact .unicode found ih

/-! ## Values -/

theorem numeric_kept {character : Char} (numeric : isNumeric character = true) :
    isFree character = false := by
  simp only [isNumeric, Bool.or_eq_true, decide_eq_true_eq] at numeric
  rcases numeric with ((((digit | rfl) | rfl) | rfl) | rfl) | rfl
  · simp [isFree, Char.isAlphanum, digit]
  all_goals decide

theorem constant_kept : ∀ constant ∈ constants, ∀ character ∈ constant.1,
    isFree character = false := by
  have kept : constants.all (fun constant => !constant.1.any isFree) = true := by rfl
  intro constant listed
  have here := List.all_eq_true.1 kept constant listed
  simpa using here

theorem space_kept {character : Char} (space : isSpace character = true) :
    isFree character = false := by
  simp only [isSpace, Bool.or_eq_true, decide_eq_true_eq] at space
  rcases space with ((rfl | rfl) | rfl) | rfl <;> decide

/-- A scalar stays as it is. -/
theorem scalar_kept (scanned : scanScalar limits text = some (value, [])) :
    ∀ character ∈ text, isFree character = false := by
  rw [scanScalar] at scanned
  split at scanned
  · rename_i name constant named
    obtain ⟨rfl, ended⟩ := Prod.mk.inj (Option.some.inj scanned)
    rw [constantOf] at named
    have starts := List.find?_some named
    obtain ⟨behind, rfl⟩ := List.isPrefixOf_iff_prefix.1 starts
    rw [List.drop_left] at ended
    rw [ended, List.append_nil]
    exact constant_kept _ (List.mem_of_find?_eq_some named)
  · split at scanned
    · rename_i literal rest matched
      have reads := (matchNumber_reads matched).1
      split at scanned
      · obtain ⟨rfl, rfl⟩ := Prod.mk.inj (Option.some.inj scanned)
        intro character member
        rw [reads.split, List.append_nil] at member
        exact numeric_kept (reads.numeric character member)
      · cases scanned
    · cases scanned

theorem scalar_write (scanned : scanScalar limits text = some (value, [])) :
    Text limits value (respelling.write text) := by
  rw [write_kept (scalar_kept scanned)]
  exact .scalar scanned

theorem spaces_kept (space : Spaces text) : respelling.write text = text :=
  write_kept fun character member => space_kept (space character member)

section Elements

variable {α : Type} {element : α → List Char → Prop} {close : Char} {items : List α}

/-- Respelled items are elements where each of them is an item. -/
theorem elements (kept : isFree close = false)
    (each : ∀ item ∈ items, ∀ text, element item text → element item (respelling.write text))
    (elements : Elements element close items text) :
    Elements element close items (respelling.write text) := by
  induction elements with
  | last before item behind =>
      rw [write_append, write_append, write_append, spaces_kept before, spaces_kept behind,
        write_cons_kept kept]
      exact .last before (each _ List.mem_cons_self _ item) behind
  | more before item behind _ ih =>
      rw [write_append, write_append, write_append, spaces_kept before, spaces_kept behind,
        write_cons_kept (by decide)]
      exact .more before (each _ List.mem_cons_self _ item) behind
        (ih fun other member => each other (List.mem_cons_of_mem _ member))

end Elements

/-- A respelled text of a value is a text of that value. -/
theorem text_write (isText : Text limits value text) : Text limits value (respelling.write text) := by
  induction value using Value.byParts generalizing text with
  | arr items ih =>
      cases isText with
      | scalar scanned => exact scalar_write scanned
      | emptyArr space =>
          rw [write_cons_kept (by decide), write_append, spaces_kept space,
            write_cons_kept (by decide)]
          exact .emptyArr space
      | arr parts =>
          rw [write_cons_kept (by decide)]
          exact .arr (elements (by decide) (fun item member _ isItem => ih item member isItem) parts)
  | obj fields ih =>
      cases isText with
      | scalar scanned => exact scalar_write scanned
      | emptyObj space =>
          rw [write_cons_kept (by decide), write_append, spaces_kept space,
            write_cons_kept (by decide)]
          exact .emptyObj space
      | obj parts =>
          rw [write_cons_kept (by decide)]
          refine .obj (elements (by decide) (fun field member _ isMember => ?_) parts)
          cases isMember with
          | mk string before behind isText =>
              rw [write_cons_kept (by decide), write_append, write_cons_kept (by decide),
                write_append, write_cons_kept (by decide), write_append, spaces_kept before,
                spaces_kept behind]
              exact .mk (stringText string) before behind (ih _ member isText)
  | str codes =>
      cases isText with
      | scalar scanned => exact scalar_write scanned
      | str string =>
          rw [write_cons_kept (by decide), write_append, write_cons_kept (by decide)]
          exact .str (stringText string)
  | _ =>
      cases isText with
      | scalar scanned => exact scalar_write scanned

/-- The respelled text of a value is decoded to the value. -/
theorem decode_write {value : Json} (readable : value.readable limits = true)
    (unique : value.uniqueKeys = true) (within : value.written.nesting ≤ limits.nesting) :
    decode limits (respelling.write value.text) = some value := by
  rw [decode, loads_text (text_write (Json.text_written readable)) within]
  exact Json.json?_written readable unique

end Respelling

end Sastsimi.Lib.Grammar
