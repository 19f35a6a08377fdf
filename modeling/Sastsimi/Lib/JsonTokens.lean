import Mathlib.Data.List.TakeWhile

/-!
# Tokens of JSON texts

Numbers are kept as the literals they are written with, and strings as code points, since an
escape may name half of a surrogate pair.  A scanner reads a token from the front of a text and
leaves the rest; the same token is read in front of every rest that does not continue it.
-/

namespace Sastsimi.Lib.Grammar

/-! ## Characters -/

def isSpace (character : Char) : Bool :=
  character = ' ' || character = '\t' || character = '\r' || character = '\n'

/-- What may stand behind a value. -/
def isDelimiter (character : Char) : Bool :=
  character = ',' || character = ']' || character = '}' || isSpace character

/-- What is never part of a number or a constant. -/
def isStructural (character : Char) : Bool :=
  isDelimiter character || character = '"' || character = '[' || character = '\x7b'

/-- The characters that number literals consist of. -/
def isNumeric (character : Char) : Bool :=
  character.isDigit || character = '-' || character = '+' || character = '.' || character = 'e'
    || character = 'E'

/-- The text ends here, or goes on with another character than these. -/
def Stops (test : Char → Bool) (rest : List Char) : Prop := ∀ next ∈ rest.head?, test next = false

/-- The text ends here, or goes on with a delimiter. -/
def Delimited (rest : List Char) : Prop := ∀ next ∈ rest.head?, isDelimiter next = true

def Spaces (text : List Char) : Prop := ∀ character ∈ text, isSpace character = true

def skipSpaces (text : List Char) : List Char := text.dropWhile isSpace

section Characters

variable {test : Char → Bool} {text rest : List Char}

theorem Stops.nil : Stops test [] := fun _ member => by cases member

theorem Stops.cons {next : Char} (fails : test next = false) : Stops test (next :: rest) := by
  intro first member
  cases member
  exact fails

/-- Behind a text whose first character fails the test, or behind nothing. -/
theorem Stops.append (stops : Stops test rest) (first : Stops test text) :
    Stops test (text ++ rest) := by
  cases text with
  | nil => exact stops
  | cons head tail => exact first

theorem Delimited.nil : Delimited [] := fun _ member => by cases member

theorem Delimited.cons {next : Char} (delimits : isDelimiter next = true) :
    Delimited (next :: rest) := by
  intro first member
  cases member
  exact delimits

theorem delimiter_of_space {character : Char} (space : isSpace character = true) :
    isDelimiter character = true := by
  simp [isDelimiter, space]

theorem delimited_of_spaces (space : Spaces rest) : Delimited rest :=
  fun next member => delimiter_of_space (space next (List.mem_of_head? member))

/-- No delimiter is part of a number. -/
theorem numeric_of_delimiter {character : Char} (delimits : isDelimiter character = true) :
    isNumeric character = false := by
  simp only [isDelimiter, isSpace, Bool.or_eq_true, decide_eq_true_eq] at delimits
  rcases delimits with ((rfl | rfl) | rfl) | ((rfl | rfl) | rfl) | rfl <;> decide

theorem numeric_of_structural {character : Char} (structural : isStructural character = true) :
    isNumeric character = false := by
  simp only [isStructural, Bool.or_eq_true, decide_eq_true_eq] at structural
  rcases structural with ((delimits | rfl) | rfl) | rfl
  · exact numeric_of_delimiter delimits
  all_goals decide

theorem delimiter_of_plain {character : Char} (plain : isStructural character = false) :
    isDelimiter character = false := by
  simp only [isStructural, Bool.or_eq_false_iff] at plain
  exact plain.1.1.1

theorem Delimited.stops (delimited : Delimited rest) : Stops isNumeric rest :=
  fun next member => numeric_of_delimiter (delimited next member)

theorem Stops.mono {weaker : Char → Bool} (stops : Stops test rest)
    (fewer : ∀ character, test character = false → weaker character = false) :
    Stops weaker rest :=
  fun next member => fewer next (stops next member)

theorem Stops.takeWhile (stops : Stops test rest) : rest.takeWhile test = [] := by
  cases rest with
  | nil => rfl
  | cons next later => simp [stops next rfl]

theorem Stops.dropWhile (stops : Stops test rest) : rest.dropWhile test = rest := by
  cases rest with
  | nil => rfl
  | cons next later => simp [stops next rfl]

/-- A run of accepted characters is taken whole where the text stops behind it. -/
theorem takeWhile_run (run : ∀ character ∈ text, test character = true) (stops : Stops test rest) :
    (text ++ rest).takeWhile test = text := by
  rw [List.takeWhile_append_of_pos run, stops.takeWhile, List.append_nil]

theorem dropWhile_run (run : ∀ character ∈ text, test character = true) (stops : Stops test rest) :
    (text ++ rest).dropWhile test = rest := by
  rw [List.dropWhile_append_of_pos run, stops.dropWhile]

theorem stops_dropWhile (text : List Char) : Stops test (text.dropWhile test) := by
  induction text with
  | nil => exact .nil
  | cons first tail ih =>
      rw [List.dropWhile_cons]
      split
      · exact ih
      · rename_i other
        exact .cons (by simpa using other)

theorem Spaces.append {more : List Char} (space : Spaces text) (other : Spaces more) :
    Spaces (text ++ more) := by
  intro character member
  rcases List.mem_append.1 member with front | back
  · exact space character front
  · exact other character back

/-- The text is some spaces, and what is left of it without them. -/
theorem skipSpaces_spec (text : List Char) :
    ∃ spaces, Spaces spaces ∧ text = spaces ++ skipSpaces text :=
  ⟨text.takeWhile isSpace, fun _ member => List.mem_takeWhile_imp member,
    List.takeWhile_append_dropWhile.symm⟩

theorem skipSpaces_append {spaces : List Char} (space : Spaces spaces)
    (stops : Stops isSpace rest) : skipSpaces (spaces ++ rest) = rest :=
  dropWhile_run space stops

theorem stops_skipSpaces (text : List Char) : Stops isSpace (skipSpaces text) :=
  stops_dropWhile text

theorem length_skipSpaces (text : List Char) : (skipSpaces text).length ≤ text.length :=
  (List.dropWhile_sublist _).length_le

end Characters

/-! ## Numbers -/

/-- One of the signs in front of a text, if it has one. -/
def splitSign (signs : List Char) : List Char → List Char × List Char
  | [] => ([], [])
  | first :: rest => if first ∈ signs then ([first], rest) else ([], first :: rest)

/-- `-?(?:0|[1-9][0-9]*)`. -/
def wholePart (text : List Char) : Option (List Char × List Char) :=
  match (splitSign ['-'] text).2 with
  | [] => none
  | first :: rest =>
      if first = '0' then some ((splitSign ['-'] text).1 ++ ['0'], rest)
      else if first.isDigit then
        some ((splitSign ['-'] text).1 ++ first :: rest.takeWhile Char.isDigit,
          rest.dropWhile Char.isDigit)
      else none

/-- `(\.[0-9]+)?`. -/
def fractionPart : List Char → List Char × List Char
  | [] => ([], [])
  | first :: rest =>
      if first = '.' ∧ rest.takeWhile Char.isDigit ≠ [] then
        ('.' :: rest.takeWhile Char.isDigit, rest.dropWhile Char.isDigit)
      else ([], first :: rest)

/-- `([eE][-+]?[0-9]+)?`. -/
def exponentPart : List Char → List Char × List Char
  | [] => ([], [])
  | first :: rest =>
      if (first = 'e' ∨ first = 'E')
          ∧ (splitSign ['-', '+'] rest).2.takeWhile Char.isDigit ≠ [] then
        (first :: (splitSign ['-', '+'] rest).1
            ++ (splitSign ['-', '+'] rest).2.takeWhile Char.isDigit,
          (splitSign ['-', '+'] rest).2.dropWhile Char.isDigit)
      else ([], first :: rest)

/-- The number literal in front of a text. -/
def matchNumber (text : List Char) : Option (List Char × List Char) :=
  (wholePart text).map fun whole =>
    let fraction := fractionPart whole.2
    let exponent := exponentPart fraction.2
    (whole.1 ++ fraction.1 ++ exponent.1, exponent.2)

/-- A literal read by a scanner of numbers: the text is the literal and the rest, and the same
literal is read in front of every rest that it does not go on in. -/
structure ReadsLiteral (scan : List Char → Option (List Char × List Char)) (stop : Char → Bool)
    (text literal rest : List Char) : Prop where
  split : text = literal ++ rest
  numeric : ∀ character ∈ literal, isNumeric character = true
  again : ∀ other, Stops stop other → scan (literal ++ other) = some (literal, other)

section Numbers

variable {text literal rest : List Char}

theorem isNumeric_of_digit {character : Char} (digit : character.isDigit = true) :
    isNumeric character = true := by
  simp [isNumeric, digit]

theorem digits_numeric {character : Char} (member : character ∈ text.takeWhile Char.isDigit) :
    isNumeric character = true :=
  isNumeric_of_digit (List.mem_takeWhile_imp member)

theorem splitSign_spec (signs text : List Char) :
    text = (splitSign signs text).1 ++ (splitSign signs text).2
      ∧ (∀ character ∈ (splitSign signs text).1, character ∈ signs) := by
  cases text with
  | nil => simp [splitSign]
  | cons first rest =>
      rw [splitSign]
      split <;> simp_all

/-- The sign is read again in front of everything that goes on without one. -/
theorem splitSign_again (signs text other : List Char) (first : Char)
    (plain : first ∉ signs) :
    splitSign signs ((splitSign signs text).1 ++ first :: other)
      = ((splitSign signs text).1, first :: other) := by
  cases text with
  | nil => simp [splitSign, plain]
  | cons head rest =>
      by_cases sign : head ∈ signs
      · simp [splitSign, sign]
      · simp [splitSign, sign, plain]

/-- A run of digits is read again where no digit follows. -/
theorem digits_again (text : List Char) {other : List Char} (stops : Stops Char.isDigit other) :
    (text.takeWhile Char.isDigit ++ other).takeWhile Char.isDigit = text.takeWhile Char.isDigit
      ∧ (text.takeWhile Char.isDigit ++ other).dropWhile Char.isDigit = other :=
  ⟨takeWhile_run (fun _ => List.mem_takeWhile_imp) stops,
    dropWhile_run (fun _ => List.mem_takeWhile_imp) stops⟩

theorem wholePart_reads (found : wholePart text = some (literal, rest)) :
    ReadsLiteral wholePart Char.isDigit text literal rest ∧ literal ≠ [] := by
  obtain ⟨split, signs⟩ := splitSign_spec ['-'] text
  have numericSign : ∀ character ∈ (splitSign ['-'] text).1, isNumeric character = true := by
    intro character member
    rw [List.mem_singleton.1 (signs character member)]
    decide
  rw [wholePart] at found
  cases behind : (splitSign ['-'] text).2 with
  | nil => simp [behind] at found
  | cons first later =>
      rw [behind] at split found
      simp only at found
      split at found
      · rename_i zero
        cases found
        subst zero
        refine ⟨⟨by simpa using split, ?_, fun other _ => ?_⟩, by simp⟩
        · intro character member
          rcases List.mem_append.1 member with sign | digit
          · exact numericSign character sign
          · rw [List.mem_singleton.1 digit]
            decide
        · have again := splitSign_again ['-'] text other '0' (by decide)
          rw [wholePart, List.append_assoc, List.singleton_append, again]
          simp
      · rename_i nonzero
        split at found
        · rename_i digit
          cases found
          have plain : first ∉ ['-'] := by
            intro minus
            rw [List.mem_singleton.1 minus] at digit
            exact absurd digit (by decide)
          refine ⟨⟨?_, ?_, fun other stops => ?_⟩, by simp⟩
          · rw [List.append_assoc, List.cons_append, List.takeWhile_append_dropWhile]
            exact split
          · intro character member
            rcases List.mem_append.1 member with sign | digits
            · exact numericSign character sign
            · rcases List.mem_cons.1 digits with rfl | more
              · exact isNumeric_of_digit digit
              · exact digits_numeric more
          · have again :=
              splitSign_again ['-'] text (later.takeWhile Char.isDigit ++ other) first plain
            rw [wholePart, List.append_assoc, List.cons_append, again]
            simp [nonzero, digit, digits_again later stops]
        · cases found

theorem fractionPart_reads (text : List Char) :
    ReadsLiteral (fun text => some (fractionPart text))
        (fun character => character.isDigit || character = '.') text (fractionPart text).1
        (fractionPart text).2
      ∧ Stops Char.isDigit (fractionPart text).1 := by
  cases text with
  | nil =>
      refine ⟨⟨rfl, by simp [fractionPart], fun other stops => ?_⟩, .nil⟩
      cases other with
      | nil => rfl
      | cons next later =>
          have outside : next ≠ '.' := fun same => by simpa [same] using stops next rfl
          simp [fractionPart, outside]
  | cons first later =>
      rw [fractionPart]
      split
      · rename_i point
        obtain ⟨rfl, digits⟩ := point
        refine ⟨⟨by simp, ?_, fun other stops => ?_⟩, .cons (by decide)⟩
        · intro character member
          rcases List.mem_cons.1 member with rfl | more
          · decide
          · exact digits_numeric more
        · have noDigit : Stops Char.isDigit other :=
            stops.mono fun character fails => by simpa using (Bool.or_eq_false_iff.1 fails).1
          simp [fractionPart, digits_again later noDigit, digits]
      · refine ⟨⟨rfl, by simp, fun other stops => ?_⟩, .nil⟩
        cases other with
        | nil => rfl
        | cons next later =>
            have outside : next ≠ '.' := fun same => by simpa [same] using stops next rfl
            simp [fractionPart, outside]

theorem exponentPart_reads (text : List Char) :
    ReadsLiteral (fun text => some (exponentPart text))
        (fun character => character.isDigit || character = 'e' || character = 'E') text
        (exponentPart text).1 (exponentPart text).2
      ∧ Stops (fun character => character.isDigit || character = '.') (exponentPart text).1 := by
  have absent : ∀ other, Stops
      (fun character => character.isDigit || character = 'e' || character = 'E') other →
      exponentPart other = ([], other) := by
    intro other stops
    cases other with
    | nil => rfl
    | cons next later =>
        have lower : next ≠ 'e' := fun same => by simpa [same] using stops next rfl
        have upper : next ≠ 'E' := fun same => by simpa [same] using stops next rfl
        simp [exponentPart, lower, upper]
  cases text with
  | nil =>
      refine ⟨⟨rfl, by simp [exponentPart], fun other stops => ?_⟩, .nil⟩
      exact congrArg some (absent other stops)
  | cons first later =>
      obtain ⟨split, signs⟩ := splitSign_spec ['-', '+'] later
      rw [exponentPart]
      split
      · rename_i mark
        obtain ⟨mark, digits⟩ := mark
        refine ⟨⟨?_, ?_, fun other stops => ?_⟩, ?_⟩
        · rw [List.cons_append, List.cons_append, List.append_assoc,
            List.takeWhile_append_dropWhile, ← split]
        · intro character member
          rcases List.mem_append.1 member with front | digit
          · rcases List.mem_cons.1 front with rfl | sign
            · rcases mark with rfl | rfl <;> decide
            · have listed := signs character sign
              simp only [List.mem_cons, List.not_mem_nil, or_false] at listed
              rcases listed with rfl | rfl <;> decide
          · exact digits_numeric digit
        · have noDigit : Stops Char.isDigit other :=
            stops.mono fun character fails => by
              simpa using (Bool.or_eq_false_iff.1 (Bool.or_eq_false_iff.1 fails).1).1
          cases run : (splitSign ['-', '+'] later).2.takeWhile Char.isDigit with
          | nil => exact absurd run digits
          | cons digit more =>
              have isDigit : digit.isDigit = true :=
                List.mem_takeWhile_imp (run ▸ List.mem_cons_self)
              have plain : digit ∉ ['-', '+'] := by
                intro sign
                simp only [List.mem_cons, List.not_mem_nil, or_false] at sign
                rcases sign with rfl | rfl <;> exact absurd isDigit (by decide)
              have again := splitSign_again ['-', '+'] later (more ++ other) digit plain
              have whole := digits_again (splitSign ['-', '+'] later).2 noDigit
              rw [run, List.cons_append] at whole
              have both : first :: (splitSign ['-', '+'] later).1 ++ digit :: more ++ other
                  = first :: ((splitSign ['-', '+'] later).1 ++ digit :: (more ++ other)) := by
                simp
              rw [both]
              simp only [exponentPart, again, whole]
              simp [mark]
        · rcases mark with rfl | rfl <;> exact .cons (by decide)
      · exact ⟨⟨rfl, by simp, fun other stops => by simp [absent other stops]⟩, .nil⟩

/-- A number literal is read again wherever no numeric character follows. -/
theorem matchNumber_reads (found : matchNumber text = some (literal, rest)) :
    ReadsLiteral matchNumber isNumeric text literal rest ∧ literal ≠ [] := by
  rw [matchNumber, Option.map_eq_some_iff] at found
  obtain ⟨⟨whole, afterWhole⟩, read, parts⟩ := found
  obtain ⟨rfl, rfl⟩ := Prod.mk.inj parts
  obtain ⟨wholeReads, nonempty⟩ := wholePart_reads read
  obtain ⟨fractionReads, fractionFirst⟩ := fractionPart_reads afterWhole
  obtain ⟨exponentReads, exponentFirst⟩ := exponentPart_reads (fractionPart afterWhole).2
  refine ⟨⟨?_, ?_, fun other stops => ?_⟩, by simp [nonempty]⟩
  · rw [List.append_assoc, ← exponentReads.split, List.append_assoc, ← fractionReads.split]
    exact wholeReads.split
  · intro character member
    rcases List.mem_append.1 member with front | exponent
    · rcases List.mem_append.1 front with digit | fraction
      · exact wholeReads.numeric character digit
      · exact fractionReads.numeric character fraction
    · exact exponentReads.numeric character exponent
  · have plain : ∀ character, isNumeric character = false → character.isDigit = false
        ∧ character ≠ '.' ∧ character ≠ 'e' ∧ character ≠ 'E' := by
      intro character fails
      simp only [isNumeric, Bool.or_eq_false_iff, decide_eq_false_iff_not] at fails
      exact ⟨fails.1.1.1.1.1, fails.1.1.2, fails.1.2, fails.2⟩
    have exponentAgain := exponentReads.again other
      (stops.mono fun character fails => by simp [plain character fails])
    have fractionAgain := fractionReads.again
      ((exponentPart (fractionPart afterWhole).2).1 ++ other)
      ((stops.mono fun character fails => by simp [plain character fails]).append exponentFirst)
    have wholeAgain := wholeReads.again
      ((fractionPart afterWhole).1 ++ ((exponentPart (fractionPart afterWhole).2).1 ++ other))
      (((stops.mono fun character fails => by simp [plain character fails]).append
        (exponentFirst.mono fun character fails => by
          simpa using (Bool.or_eq_false_iff.1 fails).1)).append fractionFirst)
    simp only [Option.some.injEq] at exponentAgain fractionAgain
    simp only [matchNumber, List.append_assoc, wholeAgain, Option.map_some, fractionAgain,
      exponentAgain]

end Numbers

/-! ## Values -/

/-- A decoded value; an object lists its fields in the order of the text. -/
inductive Value where
  | null
  | bool (value : Bool)
  | number (literal : List Char)
  | str (codes : List Nat)
  | arr (items : List Value)
  | obj (fields : List (List Nat × Value))

/-- What an interpreter limits: the number literals it converts, and how deep values nest. -/
structure Limits where
  converts : List Char → Bool
  nesting : Nat

/-- The names of constants, those of numbers that JSON does not have among them. -/
def constants : List (List Char × Value) := [
  (['n', 'u', 'l', 'l'], .null),
  (['t', 'r', 'u', 'e'], .bool true),
  (['f', 'a', 'l', 's', 'e'], .bool false),
  (['N', 'a', 'N'], .number ['N', 'a', 'N']),
  (['I', 'n', 'f', 'i', 'n', 'i', 't', 'y'], .number ['I', 'n', 'f', 'i', 'n', 'i', 't', 'y']),
  (['-', 'I', 'n', 'f', 'i', 'n', 'i', 't', 'y'],
    .number ['-', 'I', 'n', 'f', 'i', 'n', 'i', 't', 'y'])]

/-- The constant whose name is in front of a text. -/
def constantOf (text : List Char) : Option (List Char × Value) :=
  constants.find? fun constant => constant.1.isPrefixOf text

/-- A constant or a number. -/
def scanScalar (limits : Limits) (text : List Char) : Option (Value × List Char) :=
  match constantOf text with
  | some (name, value) => some (value, text.drop name.length)
  | none =>
      match matchNumber text with
      | some (literal, rest) =>
          if limits.converts literal then some (.number literal, rest) else none
      | none => none

section Scalars

variable {limits : Limits} {text rest : List Char} {value : Value}

/-- The constants are told apart by their first characters. -/
theorem constantOf_name {constant : List Char × Value} (listed : constant ∈ constants)
    (other : List Char) : constantOf (constant.1 ++ other) = some constant := by
  simp only [constants, List.mem_cons, List.not_mem_nil, or_false] at listed
  rcases listed with rfl | rfl | rfl | rfl | rfl | rfl <;> rfl

theorem constant_plain : ∀ constant ∈ constants,
    constant.1 ≠ [] ∧ ∀ character ∈ constant.1, isStructural character = false := by
  have plain : constants.all
      (fun constant => !constant.1.isEmpty && !constant.1.any isStructural) = true := by rfl
  intro constant listed
  have here := List.all_eq_true.1 plain constant listed
  simpa using here

/-- No constant begins like a number that is delimited behind it. -/
theorem constantOf_numeric {literal : List Char} (nonempty : literal ≠ [])
    (numeric : ∀ character ∈ literal, isNumeric character = true) (delimited : Delimited rest) :
    constantOf (literal ++ rest) = none := by
  rw [constantOf, List.find?_eq_none]
  intro constant listed named
  cases literal with
  | nil => exact nonempty rfl
  | cons first later =>
      have apart : ∀ letter, isNumeric letter = false → letter ≠ first := by
        intro letter fails same
        simpa [← same, fails] using numeric first List.mem_cons_self
      simp only [constants, List.mem_cons, List.not_mem_nil, or_false] at listed
      rcases listed with rfl | rfl | rfl | rfl | rfl | rfl
      all_goals
        simp only [List.cons_append, List.isPrefixOf, Bool.and_eq_true, beq_iff_eq] at named
      · exact apart 'n' (by decide) named.1
      · exact apart 't' (by decide) named.1
      · exact apart 'f' (by decide) named.1
      · exact apart 'N' (by decide) named.1
      · exact apart 'I' (by decide) named.1
      -- Behind a minus the name goes on with a letter, which neither a number nor a delimiter is.
      · cases later with
        | nil =>
            cases rest with
            | nil => simp at named
            | cons next tail =>
                have delimits := delimited next rfl
                simp only [List.nil_append, List.isPrefixOf, Bool.and_eq_true, beq_iff_eq] at named
                rw [← named.2.1] at delimits
                exact absurd delimits (by decide)
        | cons second tail =>
            have secondNumeric := numeric second (by simp)
            simp only [List.cons_append, List.isPrefixOf, Bool.and_eq_true, beq_iff_eq] at named
            rw [← named.2.1] at secondNumeric
            exact absurd secondNumeric (by decide)

/-- A scalar has no structural characters, and is read again wherever it is delimited. -/
theorem scanScalar_reads (found : scanScalar limits text = some (value, rest)) :
    ∃ token, text = token ++ rest ∧ token ≠ []
      ∧ (∀ character ∈ token, isStructural character = false)
      ∧ ∀ other, Delimited other → scanScalar limits (token ++ other) = some (value, other) := by
  rw [scanScalar] at found
  split at found
  · rename_i name constant named
    cases found
    rw [constantOf] at named
    have listed := List.mem_of_find?_eq_some named
    have starts := List.find?_some named
    obtain ⟨behind, rfl⟩ := List.isPrefixOf_iff_prefix.1 starts
    obtain ⟨nonempty, plain⟩ := constant_plain _ listed
    refine ⟨name, by simp, nonempty, plain, fun other _ => ?_⟩
    have again := constantOf_name listed other
    simp only at again
    rw [scanScalar, again]
    simp
  · split at found
    · rename_i literal behind matched
      obtain ⟨reads, nonempty⟩ := matchNumber_reads matched
      split at found
      · rename_i converted
        cases found
        refine ⟨literal, reads.split, nonempty, ?_, fun other delimited => ?_⟩
        · intro character member
          have numeric := reads.numeric character member
          by_contra structural
          rw [numeric_of_structural (by simpa using structural)] at numeric
          cases numeric
        · simp only [scanScalar, constantOf_numeric nonempty reads.numeric delimited,
            reads.again other delimited.stops, converted, if_true]
      · cases found
    · cases found

end Scalars

/-! ## Strings -/

/-- The escapes of one character. -/
def simpleEscape : Char → Option Nat
  | '"' => some 34
  | '\\' => some 92
  | '/' => some 47
  | 'b' => some 8
  | 'f' => some 12
  | 'n' => some 10
  | 'r' => some 13
  | 't' => some 9
  | _ => none

def hexValue (character : Char) : Option Nat :=
  if character.isDigit then some (character.toNat - 48)
  else if 97 ≤ character.toNat ∧ character.toNat ≤ 102 then some (character.toNat - 87)
  else if 65 ≤ character.toNat ∧ character.toNat ≤ 70 then some (character.toNat - 55)
  else none

/-- Four hexadecimal digits. -/
def hexUnit (first second third fourth : Char) : Option Nat := do
  let a ← hexValue first
  let b ← hexValue second
  let c ← hexValue third
  let d ← hexValue fourth
  return ((a * 16 + b) * 16 + c) * 16 + d

/-- The characters of a string up to its closing quote, each as one unit. -/
def scanString : List Char → Option (List Nat × List Char)
  | [] => none
  | '"' :: rest => some ([], rest)
  | '\\' :: 'u' :: first :: second :: third :: fourth :: rest =>
      match hexUnit first second third fourth with
      | some unit => (scanString rest).map fun (units, behind) => (unit :: units, behind)
      | none => none
  | '\\' :: escaped :: rest =>
      match simpleEscape escaped with
      | some unit => (scanString rest).map fun (units, behind) => (unit :: units, behind)
      | none => none
  | character :: rest =>
      if character.toNat < 32 then none
      else (scanString rest).map fun (units, behind) => (character.toNat :: units, behind)

/-- Adjacent halves of a surrogate pair are one code point. -/
def joinSurrogates : List Nat → List Nat
  | high :: low :: rest =>
      if (0xD800 ≤ high ∧ high < 0xDC00) ∧ 0xDC00 ≤ low ∧ low < 0xE000 then
        (0x10000 + (high - 0xD800) * 0x400 + (low - 0xDC00)) :: joinSurrogates rest
      else high :: joinSurrogates (low :: rest)
  | units => units

/-- The text between the quotes of a string. -/
inductive StringText : List Char → List Nat → Prop where
  | nil : StringText [] []
  | plain {character : Char} {raw : List Char} {units : List Nat} :
      character ≠ '"' → character ≠ '\\' → 32 ≤ character.toNat → StringText raw units →
      StringText (character :: raw) (character.toNat :: units)
  | escape {escaped : Char} {unit : Nat} {raw : List Char} {units : List Nat} :
      simpleEscape escaped = some unit → StringText raw units →
      StringText ('\\' :: escaped :: raw) (unit :: units)
  | unicode {first second third fourth : Char} {unit : Nat} {raw : List Char}
      {units : List Nat} :
      hexUnit first second third fourth = some unit → StringText raw units →
      StringText ('\\' :: 'u' :: first :: second :: third :: fourth :: raw) (unit :: units)

section Strings

variable {text raw rest : List Char} {units : List Nat}

theorem scanString_sound (found : scanString text = some (units, rest)) :
    ∃ raw, text = raw ++ '"' :: rest ∧ StringText raw units := by
  fun_induction scanString text generalizing units with
  | case1 => cases found
  | case2 behind =>
      cases found
      exact ⟨[], rfl, .nil⟩
  | case3 first second third fourth behind unit digits ih =>
      rw [Option.map_eq_some_iff] at found
      obtain ⟨⟨later, left⟩, read, parts⟩ := found
      obtain ⟨rfl, rfl⟩ := Prod.mk.inj parts
      obtain ⟨raw, rfl, string⟩ := ih read
      exact ⟨_, rfl, .unicode digits string⟩
  | case4 => cases found
  | case5 escaped behind _ unit known ih =>
      rw [Option.map_eq_some_iff] at found
      obtain ⟨⟨later, left⟩, read, parts⟩ := found
      obtain ⟨rfl, rfl⟩ := Prod.mk.inj parts
      obtain ⟨raw, rfl, string⟩ := ih read
      exact ⟨_, rfl, .escape known string⟩
  | case6 => cases found
  | case7 => cases found
  | case8 character behind notQuote _ notEscape printable ih =>
      rw [Option.map_eq_some_iff] at found
      obtain ⟨⟨later, left⟩, read, parts⟩ := found
      obtain ⟨rfl, rfl⟩ := Prod.mk.inj parts
      obtain ⟨raw, rfl, string⟩ := ih read
      refine ⟨character :: raw, rfl, .plain notQuote ?_ (by omega) string⟩
      intro same
      cases raw with
      | nil => exact notEscape '"' left same rfl
      | cons first tail => exact notEscape first (tail ++ '"' :: left) same rfl

theorem scanString_complete (string : StringText raw units) (rest : List Char) :
    scanString (raw ++ '"' :: rest) = some (units, rest) := by
  induction string with
  | nil => rfl
  | plain notQuote notEscape printable _ ih =>
      have small : ¬ _ < 32 := Nat.not_lt.2 printable
      simp [scanString, notEscape, small, ih]
  | escape known _ ih =>
      have notUnicode : ∀ {escaped unit}, simpleEscape escaped = some unit → escaped ≠ 'u' := by
        intro escaped unit known same
        rw [same] at known
        cases known
      simp [scanString, notUnicode known, known, ih]
  | unicode digits _ ih =>
      simp [scanString, digits, ih]

end Strings

end Sastsimi.Lib.Grammar
