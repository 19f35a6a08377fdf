import Sastsimi.Reporting.Locations

/-!
# The prose behind the encoded text

The references of the canonical text are compared with the references of the prose itself.
Quotes, backslashes and the punctuation of JSON separate references, so the text of a content
is scanned string by string.  Only an escape that ends in letters or digits becomes part of a
path: it is glued to the reference, or the rest of one, that stands directly behind the control
character it encodes.
-/

namespace Sastsimi.Reporting

open Sastsimi.Lib

/-! ## Characters -/

/-- A character that no reference contains and behind which one may start. -/
structure Separates (word : WordClass) (character : Char) : Prop where
  path : isPathOrSlash character = false
  colon : character ≠ ':'
  digit : character.isDigit = false
  opens : word.opens character = true

section Characters

variable {word : WordClass} {character : Char}

theorem pathOrSlash_small (inPath : isPathOrSlash character = true) : character.toNat < 128 := by
  have value : character.toNat = character.val.toNat := rfl
  have upperZ : 'Z'.val.toNat = 90 := rfl
  have lowerZ : 'z'.val.toNat = 122 := rfl
  have nine : '9'.val.toNat = 57 := rfl
  have letters : character.isAlpha =
      (decide (character.val ≥ 'A'.val ∧ character.val ≤ 'Z'.val) ||
        (decide (character.val ≥ 'a'.val) && decide (character.val ≤ 'z'.val))) := rfl
  simp only [isPathOrSlash, isPathChar, Char.isAlphanum, letters,
    Char.isDigit, Bool.or_eq_true, Bool.and_eq_true, decide_eq_true_eq, beq_iff_eq, ge_iff_le,
    UInt32.le_iff_toNat_le] at inPath
  rcases inPath with ((((letter | digit) | rfl) | rfl) | rfl) | rfl
  · omega
  · omega
  all_goals decide

/-- In the basic range a match starts exactly behind the characters outside of paths. -/
theorem opens_ascii (small : character.toNat < 128) :
    word.opens character = !isPathOrSlash character := by
  rw [WordClass.opens, word.ascii character small]
  have same : ∀ code < 128,
      (!((Char.ofNat code).isAlphanum || Char.ofNat code == '_' || Char.ofNat code == '.' ||
        Char.ofNat code == '/' || Char.ofNat code == '-')) = !isPathOrSlash (Char.ofNat code) := by
    decide +kernel
  exact Char.ofNat_toNat character ▸ same character.toNat small

theorem opens_pathOrSlash (inPath : isPathOrSlash character = true) :
    word.opens character = false := by
  rw [opens_ascii (pathOrSlash_small inPath), inPath, Bool.not_true]

theorem opens_colon : word.opens ':' = true := opens_ascii (by decide)

theorem pathOrSlash_of_pathChar (inSegment : isPathChar character = true) :
    isPathOrSlash character = true := by
  rw [isPathOrSlash, inSegment, Bool.true_or]

theorem pathOrSlash_of_digit (digit : character.isDigit = true) :
    isPathOrSlash character = true := by
  simp [isPathOrSlash, isPathChar, Char.isAlphanum, digit]

theorem separates_ascii (small : character.toNat < 128)
    (outside : isPathOrSlash character = false) (other : character ≠ ':') :
    Separates word character where
  path := outside
  colon := other
  digit := by
    by_contra digit
    rw [Bool.not_eq_false] at digit
    rw [pathOrSlash_of_digit digit] at outside
    cases outside
  opens := by rw [opens_ascii small, outside, Bool.not_false]

end Characters

/-! ## Matches -/

/-- A match at the start of a text, taken apart. -/
structure LocationAt (text path line after : List Char) : Prop where
  split : text = path ++ ':' :: (line ++ after)
  inPath : path.all isPathOrSlash = true
  formed : pathFrom true path = true
  starts : startsLine line = true
  digits : line.all Char.isDigit = true
  ends : after.head?.all (fun next => !next.isDigit) = true

/-- The reference of a match. -/
def referenceOf (path line : List Char) : Reference :=
  ⟨String.ofList path, Nat.ofDigitChars 10 line 0⟩

section Matches

variable {text path line after back : List Char} {found : Reference} {separator : Char}
  {word : WordClass}

theorem head_dropWhile {test : Char → Bool} {first : Char} {rest : List Char}
    (dropped : text.dropWhile test = first :: rest) : test first = false := by
  have nonempty : text.dropWhile test ≠ [] := by simp [dropped]
  simpa [dropped] using List.head_dropWhile_not test nonempty

theorem takeWhile_path {rest : List Char} (split : text = path ++ ':' :: rest)
    (inPath : path.all isPathOrSlash = true) : text.takeWhile isPathOrSlash = path := by
  have outside : isPathOrSlash ':' = false := by decide
  rw [split, List.takeWhile_append_of_pos (List.all_eq_true.1 inPath), List.takeWhile_cons,
    outside, if_neg Bool.false_ne_true, List.append_nil]

theorem LocationAt.matchLocation (located : LocationAt text path line after) :
    matchLocation text = some (referenceOf path line, after) := by
  have outside : isPathOrSlash ':' = false := by decide
  have dropped : text.dropWhile isPathOrSlash = ':' :: (line ++ after) := by
    rw [located.split, List.dropWhile_append_of_pos (List.all_eq_true.1 located.inPath),
      List.dropWhile_cons, outside, if_neg Bool.false_ne_true]
  have taken : text.takeWhile isPathOrSlash = path := takeWhile_path located.split located.inPath
  have starts : startsLine (line ++ after) = true := by
    cases line with
    | nil => cases located.starts
    | cons first rest => exact located.starts
  have noDigit : after.takeWhile Char.isDigit = [] ∧ after.dropWhile Char.isDigit = after := by
    cases after with
    | nil => exact ⟨rfl, rfl⟩
    | cons next rest =>
        have ends : next.isDigit = false := by simpa using located.ends
        simp [ends]
  rw [Reporting.matchLocation, dropped, taken]
  simp only [located.formed, starts, Bool.and_self, if_true]
  rw [List.takeWhile_append_of_pos (List.all_eq_true.1 located.digits), noDigit.1,
    List.dropWhile_append_of_pos (List.all_eq_true.1 located.digits), noDigit.2, List.append_nil,
    referenceOf]

/-- Every match is a path, a colon and a line number that ends there. -/
theorem locationAt_of_match (matched : matchLocation text = some (found, after)) :
    ∃ path line, LocationAt text path line after ∧ found = referenceOf path line := by
  rw [matchLocation] at matched
  split at matched
  · rename_i rest dropped
    simp only [Option.ite_none_right_eq_some, Bool.and_eq_true, Option.some.injEq,
      Prod.mk.injEq] at matched
    obtain ⟨⟨formed, starts⟩, rfl, rfl⟩ := matched
    refine ⟨text.takeWhile isPathOrSlash, rest.takeWhile Char.isDigit, ?_, rfl⟩
    constructor
    · rw [List.takeWhile_append_dropWhile, ← dropped, List.takeWhile_append_dropWhile]
    · exact List.all_takeWhile
    · exact formed
    · cases rest with
      | nil => cases starts
      | cons first rest =>
          rw [startsLine, Bool.and_eq_true] at starts
          rw [List.takeWhile_cons, if_pos starts.1, startsLine, starts.1, starts.2, Bool.and_self]
    · exact List.all_takeWhile
    · cases remaining : rest.dropWhile Char.isDigit with
      | nil => rfl
      | cons next others => simp [head_dropWhile remaining]
  · cases matched

theorem LocationAt.path_cons (located : LocationAt text path line after) :
    ∃ first others, path = first :: others := by
  cases path with
  | nil => cases located.formed
  | cons first others => exact ⟨first, others, rfl⟩

theorem LocationAt.line_concat (located : LocationAt text path line after) :
    ∃ front last, line = front ++ [last] ∧ last.isDigit = true := by
  rcases List.eq_nil_or_concat line with rfl | ⟨front, last, rfl⟩
  · cases located.starts
  · exact ⟨front, last, List.concat_eq_append, List.all_eq_true.1 located.digits last (by simp)⟩

theorem LocationAt.lt (located : LocationAt text path line after) :
    (line ++ after).length < text.length := by
  rw [located.split]
  simp
  omega

/-- A match does not reach over a separator. -/
theorem LocationAt.before (separates : Separates word separator)
    (located : LocationAt (text ++ separator :: back) path line after) :
    ∃ rest, LocationAt text path line rest ∧ after = rest ++ separator :: back := by
  have apart : separator ∉ path ++ ':' :: line := by
    intro member
    rcases List.mem_append.1 member with inPath | member
    · have inside := List.all_eq_true.1 located.inPath separator inPath
      rw [separates.path] at inside
      cases inside
    · rcases List.mem_cons.1 member with colon | digit
      · exact separates.colon colon
      · have inside := List.all_eq_true.1 located.digits separator digit
        rw [separates.digit] at inside
        cases inside
  have split : text ++ separator :: back = (path ++ ':' :: line) ++ after := by
    rw [located.split, List.append_assoc, List.cons_append]
  rcases List.append_eq_append_iff.1 split with ⟨rest, front, behind⟩ | ⟨rest, front, behind⟩
  · cases rest with
    | nil =>
        refine ⟨[], ⟨?_, located.inPath, located.formed, located.starts, located.digits, rfl⟩, ?_⟩
        · rw [List.append_nil, front, List.append_nil]
        · exact behind.symm
    | cons first rest =>
        have same : separator = first := (List.cons.inj behind).1
        exact absurd (front ▸ List.mem_append_right _ (same ▸ List.mem_cons_self)) apart
  · refine ⟨rest, ⟨?_, located.inPath, located.formed, located.starts, located.digits, ?_⟩, behind⟩
    · rw [front, List.append_assoc, List.cons_append]
    · have ends := located.ends
      cases rest with
      | nil => rfl
      | cons first rest =>
          rw [behind] at ends
          exact ends

/-- A match in front of a separator is a match with the separator behind it. -/
theorem LocationAt.append (separates : Separates word separator)
    (located : LocationAt text path line after) :
    LocationAt (text ++ separator :: back) path line (after ++ separator :: back) where
  split := by rw [located.split]; simp
  inPath := located.inPath
  formed := located.formed
  starts := located.starts
  digits := located.digits
  ends := by
    cases after with
    | nil => simp [separates.digit]
    | cons next rest => exact located.ends

end Matches

/-! ## Scanning -/

section Scanning

variable {word : WordClass} {opens : Bool} {text front path line after back : List Char}
  {character separator : Char}

@[simp] theorem scan_nil {skip : Nat} : word.scan opens skip [] = [] := by
  cases skip <;> rfl

@[simp] theorem scan_closed :
    word.scan false 0 (character :: back) = word.scan (word.opens character) 0 back := rfl

theorem scan_unmatched (unmatched : matchLocation (character :: back) = none) :
    word.scan opens 0 (character :: back) = word.scan (word.opens character) 0 back := by
  cases opens with
  | false => rfl
  | true => simp only [WordClass.scan, unmatched]

/-- The characters of a match are passed without another match. -/
theorem scan_pass {last : Char} :
    word.scan opens (front.length + 1) (front ++ last :: back) =
      word.scan (word.opens last) 0 back := by
  induction front generalizing opens with
  | nil => rfl
  | cons character front ih => exact ih

/-- Inside of a path no match starts. -/
theorem scan_inPath (inPath : front.all isPathOrSlash = true) :
    word.scan false 0 (front ++ back) = word.scan false 0 back := by
  induction front with
  | nil => rfl
  | cons character front ih =>
      rw [List.all_cons, Bool.and_eq_true] at inPath
      rw [List.cons_append, scan_closed, opens_pathOrSlash inPath.1, ih inPath.2]

theorem scan_match (located : LocationAt text path line after) :
    word.scan true 0 text = referenceOf path line :: word.scan false 0 after := by
  obtain ⟨first, others, rfl⟩ := located.path_cons
  obtain ⟨digits, last, rfl, digit⟩ := located.line_concat
  have matched := located.matchLocation
  have rest : text = first :: ((others ++ ':' :: digits) ++ last :: after) := by
    rw [located.split]; simp
  have skip : ((others ++ ':' :: digits) ++ last :: after).length - after.length =
      (others ++ ':' :: digits).length + 1 := by
    simp
    omega
  rw [rest] at matched ⊢
  simp only [WordClass.scan, matched, skip]
  rw [scan_pass, opens_pathOrSlash (pathOrSlash_of_digit digit)]

theorem matchLocation_outside (outside : isPathOrSlash character = false) :
    matchLocation (character :: back) = none := by
  cases matched : matchLocation (character :: back) with
  | none => rfl
  | some found =>
      obtain ⟨path, line, located, -⟩ := locationAt_of_match matched
      obtain ⟨first, others, rfl⟩ := located.path_cons
      have same : character = first := (List.cons.inj located.split).1
      have inPath := List.all_eq_true.1 located.inPath first List.mem_cons_self
      rw [← same, outside] at inPath
      cases inPath

theorem scan_colon : word.scan opens 0 (':' :: back) = word.scan true 0 back := by
  rw [scan_unmatched (matchLocation_outside (by decide)), opens_colon]

theorem scan_separator (separates : Separates word separator) :
    word.scan opens 0 (separator :: back) = word.scan true 0 back := by
  rw [scan_unmatched (matchLocation_outside separates.path), separates.opens]

/-- A separator splits the scan of a text. -/
theorem scan_append (separates : Separates word separator) :
    word.scan opens 0 (front ++ separator :: back) =
      word.scan opens 0 front ++ word.scan true 0 back := by
  induction size : front.length using Nat.strongRecOn generalizing front opens with
  | ind length ih =>
      cases front with
      | nil => rw [List.nil_append, scan_separator separates, scan_nil, List.nil_append]
      | cons character rest =>
          have step : word.scan (word.opens character) 0 (rest ++ separator :: back) =
              word.scan (word.opens character) 0 rest ++ word.scan true 0 back :=
            ih rest.length (by simp [← size]) rfl
          cases opens with
          | false => exact step
          | true =>
              cases matched : matchLocation (character :: rest) with
              | none =>
                  have unmatched : matchLocation (character :: (rest ++ separator :: back)) = none := by
                    cases found : matchLocation (character :: (rest ++ separator :: back)) with
                    | none => rfl
                    | some result =>
                        obtain ⟨path, line, located, -⟩ := locationAt_of_match found
                        rw [← List.cons_append] at located
                        obtain ⟨after, before, -⟩ := located.before separates
                        rw [before.matchLocation] at matched
                        cases matched
                  rw [List.cons_append, scan_unmatched unmatched, scan_unmatched matched, step]
              | some found =>
                  obtain ⟨path, line, located, -⟩ := locationAt_of_match matched
                  have shorter : found.2.length < length := by
                    have lt := located.lt
                    rw [List.length_append] at lt
                    omega
                  rw [scan_match located, scan_match (located.append separates),
                    ih found.2.length shorter rfl, List.cons_append]

end Scanning

/-! ## Letters in front of a text -/

/-- The text holds what a reference needs behind a path character: the rest of a path, perhaps
empty, with its colon and its line number. -/
def continuesReference (text : List Char) : Bool := (matchLocation ('n' :: text)).isSome

/-- Path characters that start with no digit, as an escape sequence leaves them. -/
structure Letters (text : List Char) : Prop where
  nonempty : text ≠ []
  inSegment : text.all isPathChar = true
  noDigit : text.head?.all (fun first => !first.isDigit) = true

section Letters

variable {word : WordClass} {letters text path line after : List Char}

theorem pathFrom_segment {character : Char} {afterSlash : Bool}
    (inSegment : isPathChar character = true) :
    pathFrom afterSlash (character :: path) = pathFrom false path := by
  have noSlash : ¬ (character == '/') = true := by
    intro slash
    rw [beq_iff_eq] at slash
    rw [slash] at inSegment
    exact absurd inSegment (by decide)
  rw [pathFrom, if_neg noSlash]

theorem pathFrom_letters (inSegment : letters.all isPathChar = true) :
    pathFrom false (letters ++ path) = pathFrom false path := by
  induction letters with
  | nil => rfl
  | cons character letters ih =>
      rw [List.all_cons, Bool.and_eq_true] at inSegment
      rw [List.cons_append, pathFrom_segment inSegment.1, ih inSegment.2]

theorem Letters.pathFrom (isLetters : Letters letters) :
    pathFrom true (letters ++ path) = pathFrom false path := by
  cases letters with
  | nil => exact absurd rfl isLetters.nonempty
  | cons character letters =>
      have inSegment := isLetters.inSegment
      rw [List.all_cons, Bool.and_eq_true] at inSegment
      rw [List.cons_append, pathFrom_segment inSegment.1, pathFrom_letters inSegment.2]

theorem Letters.inPath (isLetters : Letters letters) : letters.all isPathOrSlash = true :=
  List.all_eq_true.2 fun character member =>
    pathOrSlash_of_pathChar (List.all_eq_true.1 isLetters.inSegment character member)

theorem letters_n : Letters ['n'] := ⟨by simp, by decide, by decide⟩

/-- A match with letters in front is a match with other letters in front. -/
theorem LocationAt.exchange {others : List Char} (isLetters : Letters letters)
    (isOthers : Letters others) (located : LocationAt (letters ++ text) (letters ++ path) line after) :
    LocationAt (others ++ text) (others ++ path) line after where
  split := by
    have split := located.split
    rw [List.append_assoc, List.append_cancel_left_eq] at split
    rw [split, List.append_assoc]
  inPath := by
    have inPath := located.inPath
    rw [List.all_append, Bool.and_eq_true] at inPath
    rw [List.all_append, isOthers.inPath, inPath.2, Bool.and_self]
  formed := by rw [isOthers.pathFrom, ← isLetters.pathFrom, located.formed]
  starts := located.starts
  digits := located.digits
  ends := located.ends

/-- The path of a match contains the letters in front of the text. -/
theorem LocationAt.path_letters (isLetters : Letters letters)
    (located : LocationAt (letters ++ text) path line after) :
    ∃ rest, path = letters ++ rest := by
  rcases List.append_eq_append_iff.1 located.split with ⟨rest, whole, -⟩ | ⟨rest, whole, behind⟩
  · exact ⟨rest, whole⟩
  · cases rest with
    | nil => exact ⟨[], by rw [List.append_nil, whole, List.append_nil]⟩
    | cons first rest =>
        have colon : ':' = first := (List.cons.inj behind).1
        have inPath := List.all_eq_true.1 isLetters.inPath first
          (whole ▸ List.mem_append_right _ List.mem_cons_self)
        rw [← colon] at inPath
        exact absurd inPath (by decide)

theorem continuesReference_iff (isLetters : Letters letters) :
    continuesReference text = true ↔
      ∃ path line after, LocationAt (letters ++ text) (letters ++ path) line after := by
  constructor
  · intro continues
    obtain ⟨found, matched⟩ := Option.isSome_iff_exists.1 continues
    obtain ⟨path, line, located, -⟩ := locationAt_of_match matched
    obtain ⟨rest, rfl⟩ := LocationAt.path_letters letters_n located
    exact ⟨rest, line, found.2, LocationAt.exchange letters_n isLetters located⟩
  · rintro ⟨path, line, after, located⟩
    have relabeled := (located.exchange isLetters letters_n).matchLocation
    exact Option.isSome_iff_exists.2 ⟨_, relabeled⟩

/-- A match is what a reference needs behind a path character. -/
theorem LocationAt.continues (located : LocationAt text path line after) :
    continuesReference text = true := by
  obtain ⟨first, others, rfl⟩ := located.path_cons
  have shift : pathFrom false (first :: others) = true := by
    have formed := located.formed
    rw [pathFrom] at formed
    split at formed
    · cases formed
    · rename_i noSlash
      rw [pathFrom, if_neg noSlash, formed]
  refine (continuesReference_iff letters_n).2 ⟨first :: others, line, after, ?_⟩
  constructor
  · rw [located.split, List.append_assoc]
  · rw [List.all_append, letters_n.inPath, located.inPath, Bool.and_self]
  · rw [letters_n.pathFrom, shift]
  · exact located.starts
  · exact located.digits
  · exact located.ends

/-- Whether a match may start at the front of a text changes its references by one at most. -/
theorem scan_bounds :
    (word.scan false 0 text).length ≤ (word.scan true 0 text).length ∧
      (word.scan true 0 text).length ≤ (word.scan false 0 text).length + 1 := by
  induction size : text.length using Nat.strongRecOn generalizing text with
  | ind length ih =>
      cases matched : matchLocation text with
      | none =>
          cases text with
          | nil => simp
          | cons character rest =>
              have same : word.scan true 0 (character :: rest) =
                  word.scan false 0 (character :: rest) := scan_unmatched matched
              rw [same]
              omega
      | some found =>
          obtain ⟨path, line, located, -⟩ := locationAt_of_match matched
          have shorter := ih _ (size ▸ located.lt) rfl
          have digits : line.all isPathOrSlash = true := List.all_eq_true.2 fun digit member =>
            pathOrSlash_of_digit (List.all_eq_true.1 located.digits digit member)
          have behind : word.scan false 0 text = word.scan true 0 (line ++ found.2) := by
            conv_lhs => rw [located.split]
            rw [scan_inPath located.inPath, scan_colon]
          rw [scan_inPath digits] at shorter
          rw [behind, scan_match located, List.length_cons]
          omega

/-- Letters in front of a text that holds no rest of a reference change nothing. -/
theorem scan_letters_apart (isLetters : Letters letters)
    (apart : continuesReference text = false) :
    word.scan true 0 (letters ++ text) = word.scan true 0 text := by
  have unmatched : matchLocation (letters ++ text) = none := by
    cases matched : matchLocation (letters ++ text) with
    | none => rfl
    | some found =>
        obtain ⟨path, line, located, -⟩ := locationAt_of_match matched
        obtain ⟨rest, rfl⟩ := located.path_letters isLetters
        rw [(continuesReference_iff isLetters).2 ⟨rest, line, found.2, located⟩] at apart
        cases apart
  have front : word.scan true 0 (letters ++ text) = word.scan false 0 (letters ++ text) := by
    cases letters with
    | nil => exact absurd rfl isLetters.nonempty
    | cons character letters => exact scan_unmatched unmatched
  have behind : word.scan true 0 text = word.scan false 0 text := by
    cases text with
    | nil => simp
    | cons character rest =>
        cases matched : matchLocation (character :: rest) with
        | none => exact scan_unmatched matched
        | some found =>
            obtain ⟨path, line, located, -⟩ := locationAt_of_match matched
            rw [located.continues] at apart
            cases apart
  rw [front, scan_inPath isLetters.inPath, behind]

theorem referenceOf_ne {other digits : List Char} (differs : path ≠ other) :
    referenceOf path line ≠ referenceOf other digits := by
  intro same
  exact differs (String.ofList_injective (Reference.mk.inj same).1)

/-- Letters in front of the rest of a reference make another list of references, which is not
shorter. -/
theorem scan_letters_glued (isLetters : Letters letters)
    (continues : continuesReference text = true) :
    (word.scan true 0 text).length ≤ (word.scan true 0 (letters ++ text)).length ∧
      word.scan true 0 (letters ++ text) ≠ word.scan true 0 text := by
  obtain ⟨path, line, after, located⟩ := (continuesReference_iff isLetters).1 continues
  have split : text = path ++ ':' :: (line ++ after) := by
    have split := located.split
    rwa [List.append_assoc, List.append_cancel_left_eq] at split
  have pathChars : path.all isPathOrSlash = true := by
    have inPath := located.inPath
    rw [List.all_append, Bool.and_eq_true] at inPath
    exact inPath.2
  have digits : line.all isPathOrSlash = true := List.all_eq_true.2 fun digit member =>
    pathOrSlash_of_digit (List.all_eq_true.1 located.digits digit member)
  rw [scan_match located]
  by_cases formed : pathFrom true path = true
  -- a reference of the text gets a longer path
  · have plain : LocationAt text path line after :=
      ⟨split, pathChars, formed, located.starts, located.digits, located.ends⟩
    rw [scan_match plain]
    refine ⟨by simp, fun same => ?_⟩
    refine referenceOf_ne (fun whole => ?_) (List.cons.inj same).1
    exact isLetters.nonempty (by simpa using whole)
  -- a reference is invented, and may hide the one that starts at its line number
  · have unmatched : matchLocation text = none := by
      cases matched : matchLocation text with
      | none => rfl
      | some found =>
          obtain ⟨other, number, plain, -⟩ := locationAt_of_match matched
          have same : path = other := by
            rw [← takeWhile_path split pathChars, takeWhile_path plain.split plain.inPath]
          exact absurd (same ▸ plain.formed) formed
    have behind : word.scan true 0 text = word.scan true 0 (line ++ after) := by
      have closed : word.scan true 0 text = word.scan false 0 text := by
        cases text with
        | nil => simp
        | cons character rest => exact scan_unmatched unmatched
      rw [closed, split, scan_inPath pathChars, scan_colon]
    have bounds : (word.scan true 0 (line ++ after)).length ≤
        (word.scan false 0 after).length + 1 := by
      rw [← scan_inPath digits]
      exact scan_bounds.2
    rw [behind]
    refine ⟨by simpa using bounds, fun same => ?_⟩
    cases matched : matchLocation (line ++ after) with
    | none =>
        have shorter : word.scan true 0 (line ++ after) = word.scan false 0 after := by
          rw [← scan_inPath digits]
          cases whole : line ++ after with
          | nil => simp
          | cons character rest => exact scan_unmatched (whole ▸ matched)
        rw [shorter] at same
        exact List.cons_ne_self _ _ same
    | some found =>
        obtain ⟨other, number, chained, -⟩ := locationAt_of_match matched
        rw [scan_match chained] at same
        refine referenceOf_ne (fun whole => ?_) (List.cons.inj same).1
        -- the hidden path starts with a digit of the line number, the invented one with a letter
        have headDigit : (letters ++ path).head?.all Char.isDigit = true := by
          obtain ⟨first, others, rfl⟩ := chained.path_cons
          rw [whole]
          cases line with
          | nil => cases located.starts
          | cons digit rest =>
              have same : digit = first := (List.cons.inj chained.split).1
              have isDigit := List.all_eq_true.1 located.digits digit List.mem_cons_self
              simpa [← same] using isDigit
        have noDigit := isLetters.noDigit
        cases letters with
        | nil => exact isLetters.nonempty rfl
        | cons first rest =>
            have digit : first.isDigit = true := by simpa using headDigit
            have noDigit : first.isDigit = false := by simpa using noDigit
            rw [digit] at noDigit
            cases noDigit

end Letters

/-! ## Escapes -/

/-- A control character stands directly in front of a reference or the rest of one. -/
def gluesReference : List Char → Bool
  | [] => false
  | character :: rest =>
      (isControl character && continuesReference rest) || gluesReference rest

section Escapes

variable {word : WordClass} {letters text : List Char} {character : Char}

theorem separates_special (special : isPlain character = false) : Separates word character := by
  have small : character.toNat < 128 ∧ isPathOrSlash character = false ∧ character ≠ ':' := by
    rcases special_cases special with control | ⟨-, rfl | rfl⟩
    · have every : ∀ code < 32, (Char.ofNat code).toNat < 128 ∧
          isPathOrSlash (Char.ofNat code) = false ∧ Char.ofNat code ≠ ':' := by
        decide +kernel
      have here := every character.toNat (by simpa [isControl] using control)
      rwa [Char.ofNat_toNat] at here
    all_goals decide
  exact separates_ascii small.1 small.2.1 small.2.2

/-- The escape of a character that is not plain is a backslash in front of letters, for a control
character, or in front of the character itself. -/
theorem escapeChar_special (special : isPlain character = false) :
    ∃ rest, (escapeChar character).toList = '\\' :: rest ∧
      ((isControl character = true ∧ Letters rest) ∨
        (isControl character = false ∧ rest = [character])) := by
  rcases special_cases special with control | ⟨other, rfl | rfl⟩
  · have every : ∀ code < 32, (escapeChar (Char.ofNat code)).toList.head? = some '\\' ∧
        (escapeChar (Char.ofNat code)).toList.tail ≠ [] ∧
        (escapeChar (Char.ofNat code)).toList.tail.all isPathChar = true ∧
        (escapeChar (Char.ofNat code)).toList.tail.head?.all (fun first => !first.isDigit) =
          true := by
      decide +kernel
    have here := every character.toNat (by simpa [isControl] using control)
    rw [Char.ofNat_toNat] at here
    refine ⟨(escapeChar character).toList.tail, ?_,
      .inl ⟨control, here.2.1, here.2.2.1, here.2.2.2⟩⟩
    cases whole : (escapeChar character).toList with
    | nil => simp [whole] at here
    | cons first rest =>
        have first : first = '\\' := by simpa [whole] using here.1
        rw [first, List.tail_cons]
  · exact ⟨['"'], by decide, .inr ⟨other, rfl⟩⟩
  · exact ⟨['\\'], by decide, .inr ⟨other, rfl⟩⟩

theorem gluesReference_plain (plain : text.all isPlain = true) {back : List Char} :
    gluesReference (text ++ back) = gluesReference back := by
  induction text with
  | nil => rfl
  | cons character rest ih =>
      rw [List.all_cons, Bool.and_eq_true] at plain
      have noControl : isControl character = false := by
        have plain := plain.1
        rw [isPlain, Bool.and_eq_true, Bool.and_eq_true, Bool.not_eq_true'] at plain
        exact plain.1.1
      rw [List.cons_append, gluesReference, noControl, Bool.false_and, Bool.false_or, ih plain.2]

/-- What stands behind a separator does not complete a reference in front of it. -/
theorem continuesReference_separator {separator : Char} {back : List Char}
    (separates : Separates word separator) :
    continuesReference (text ++ separator :: back) = continuesReference text := by
  rw [Bool.eq_iff_iff, continuesReference_iff letters_n, continuesReference_iff letters_n]
  constructor
  · rintro ⟨path, line, after, located⟩
    rw [← List.append_assoc] at located
    obtain ⟨rest, before, -⟩ := located.before separates
    exact ⟨path, line, rest, before⟩
  · rintro ⟨path, line, after, located⟩
    refine ⟨path, line, after ++ separator :: back, ?_⟩
    rw [← List.append_assoc]
    exact located.append separates

/-- Lists whose parts are not shorter are equal only part by part. -/
theorem append_eq_of_le {α : Type} {front other back rest : List α}
    (first : other.length ≤ front.length) (second : rest.length ≤ back.length) :
    front ++ back = other ++ rest ↔ front = other ∧ back = rest := by
  constructor
  · intro same
    have sizes := congrArg List.length same
    rw [List.length_append, List.length_append] at sizes
    exact List.append_inj same (by omega)
  · rintro ⟨rfl, rfl⟩
    rfl

/-- A text between letters and a separator. -/
theorem scan_letters (isLetters : letters = [] ∨ Letters letters) :
    (word.scan true 0 text).length ≤ (word.scan true 0 (letters ++ text)).length ∧
      (word.scan true 0 (letters ++ text) = word.scan true 0 text ↔
        ¬ (letters ≠ [] ∧ continuesReference text = true)) := by
  rcases isLetters with rfl | isLetters
  · simp
  · cases continues : continuesReference text with
    | false =>
        rw [scan_letters_apart isLetters continues]
        simp
    | true =>
        exact ⟨(scan_letters_glued isLetters continues).1,
          iff_of_false (scan_letters_glued isLetters continues).2 fun apart =>
            apart ⟨isLetters.nonempty, rfl⟩⟩

/-- The references of an encoded string, with letters of an escape in front, are those of the
string itself exactly when nothing is glued to them. -/
theorem scan_escaped (isLetters : letters = [] ∨ Letters letters) :
    (word.scan true 0 text).length ≤ (word.scan true 0 (letters ++ escaped text)).length ∧
      (word.scan true 0 (letters ++ escaped text) = word.scan true 0 text ↔
        ¬ (letters ≠ [] ∧ continuesReference text = true) ∧ gluesReference text = false) := by
  induction size : text.length using Nat.strongRecOn generalizing text letters with
  | ind length ih =>
      have split : text.takeWhile isPlain ++ text.dropWhile isPlain = text :=
        List.takeWhile_append_dropWhile
      have plain : (text.takeWhile isPlain).all isPlain = true := List.all_takeWhile
      cases behind : text.dropWhile isPlain with
      | nil =>
          rw [behind, List.append_nil] at split
          rw [split] at plain
          have whole : gluesReference text = false := by
            rw [← List.append_nil text, gluesReference_plain plain, gluesReference]
          rw [escaped_plain plain, whole]
          exact ⟨(scan_letters isLetters).1, (scan_letters isLetters).2.trans (by simp)⟩
      | cons character back =>
          rw [behind] at split
          generalize text.takeWhile isPlain = front at split plain
          have special : isPlain character = false := head_dropWhile behind
          have separates : Separates word character := separates_special special
          have backslash : Separates word '\\' :=
            separates_ascii (by decide) (by decide) (by decide)
          obtain ⟨rest, escape, ending⟩ := escapeChar_special special
          rw [← split] at size ⊢
          rw [escaped_append, escaped_cons, escaped_plain plain, escape, ← List.append_assoc,
            List.cons_append, scan_append backslash, scan_append separates,
            gluesReference_plain plain, continuesReference_separator separates]
          have shorter : back.length < length := by
            rw [← size, List.length_append, List.length_cons]
            omega
          have first : _ ∧ (word.scan true 0 (letters ++ front) = word.scan true 0 front ↔ _) :=
            scan_letters isLetters
          rcases ending with ⟨control, isRest⟩ | ⟨other, rfl⟩
          · have second : _ ∧ (_ = word.scan true 0 back ↔ _) :=
              ih back.length shorter (.inr isRest) rfl
            refine ⟨by simpa using Nat.add_le_add first.1 second.1, ?_⟩
            rw [append_eq_of_le first.1 second.1, first.2, second.2, gluesReference, control]
            have nonempty := isRest.nonempty
            simp [nonempty]
          · have second : _ ∧ (_ = word.scan true 0 back ↔ _) :=
              ih back.length shorter (.inl rfl) rfl
            rw [List.nil_append] at second
            rw [List.singleton_append, scan_separator separates]
            refine ⟨by simpa using Nat.add_le_add first.1 second.1, ?_⟩
            rw [append_eq_of_le first.1 second.1, first.2, second.2, gluesReference, other]
            simp

end Escapes

/-! ## Encoded values -/

/-- The references that an encoded string shows. -/
def WordClass.encodedReferences (word : WordClass) (text : String) : List Reference :=
  word.references (escaped text.toList)

section Values

variable {word : WordClass} {text back : List Char} {separator : Char}

theorem separates_quote : Separates word '"' :=
  separates_ascii (by decide) (by decide) (by decide)

theorem separates_comma : Separates word ',' :=
  separates_ascii (by decide) (by decide) (by decide)

theorem separates_bracket : Separates word ']' :=
  separates_ascii (by decide) (by decide) (by decide)

theorem separates_brace : Separates word '\x7d' :=
  separates_ascii (by decide) (by decide) (by decide)

/-- Without a colon there is no reference. -/
theorem scan_noColon (noColon : ':' ∉ text) {opens : Bool} : word.scan opens 0 text = [] := by
  induction text generalizing opens with
  | nil => simp
  | cons character rest ih =>
      have unmatched : matchLocation (character :: rest) = none := by
        cases matched : matchLocation (character :: rest) with
        | none => rfl
        | some found =>
            obtain ⟨path, line, located, -⟩ := locationAt_of_match matched
            exact absurd (located.split ▸ List.mem_append_right _ List.mem_cons_self) noColon
      rw [scan_unmatched unmatched]
      exact ih fun member => noColon (List.mem_cons_of_mem _ member)

/-- A text that starts with a separator, as every text behind an encoded value. -/
def Closed (word : WordClass) (back : List Char) : Prop :=
  ∃ separator rest, back = separator :: rest ∧ Separates word separator

theorem scan_word (noColon : ':' ∉ text) (closed : Closed word back) :
    word.scan true 0 (text ++ back) = word.scan true 0 back := by
  obtain ⟨separator, rest, rfl, separates⟩ := closed
  rw [scan_append separates, scan_noColon noColon, List.nil_append, scan_separator separates]

theorem scan_quoted {string : String} :
    word.scan true 0 (quoted string ++ back) =
      word.encodedReferences string ++ word.scan true 0 back := by
  rw [quoted, List.cons_append, scan_separator separates_quote, List.append_assoc,
    List.singleton_append, scan_append separates_quote]
  rfl

theorem toString_noColon (value : Int) : ':' ∉ (toString value).toList := by
  intro member
  have digits (number : Nat) : ':' ∉ number.repr.toList := by
    intro member
    exact absurd (List.all_eq_true.1 (repr_digits number) ':' member) (by decide)
  cases value with
  | ofNat number => exact digits number member
  | negSucc number =>
      have whole : (toString (Int.negSucc number)).toList = '-' :: (number + 1).repr.toList := by
        simp [toString, Int.repr]
      rw [whole] at member
      rcases List.mem_cons.1 member with dash | member
      · exact absurd dash (by decide)
      · exact digits _ member

theorem closed_bracket : Closed word (']' :: back) := ⟨']', back, rfl, separates_bracket⟩

theorem closed_brace : Closed word ('\x7d' :: back) := ⟨'\x7d', back, rfl, separates_brace⟩

theorem closed_items (items : List Json) (closed : Closed word back) :
    Closed word (Json.itemsText items ++ back) := by
  cases items with
  | nil => exact closed
  | cons first rest => exact ⟨',', _, rfl, separates_comma⟩

theorem closed_fields (fields : List (String × Json)) (closed : Closed word back) :
    Closed word (Json.fieldsText fields ++ back) := by
  cases fields with
  | nil => exact closed
  | cons first rest => exact ⟨',', _, rfl, separates_comma⟩

theorem separates_openBracket : Separates word '[' :=
  separates_ascii (by decide) (by decide) (by decide)

theorem separates_openBrace : Separates word '\x7b' :=
  separates_ascii (by decide) (by decide) (by decide)

mutual

/-- The references of an encoded value are those of its strings. -/
theorem scan_json : ∀ (value : Json) (back : List Char), value.integral = true →
    Closed word back →
    word.scan true 0 (value.text ++ back) =
      value.strings.flatMap word.encodedReferences ++ word.scan true 0 back
  | .null, _, _, closed => scan_word (by decide) closed
  | .bool true, _, _, closed => scan_word (by decide) closed
  | .bool false, _, _, closed => scan_word (by decide) closed
  | .int number, _, _, closed => scan_word (toString_noColon number) closed
  | .float _, _, integral, _ => by cases integral
  | .str string, _, _, _ => by rw [Json.text, scan_quoted, Json.strings, List.flatMap_singleton]
  | .arr [], _, _, closed => scan_word (by decide) closed
  | .arr (first :: rest), back, integral, closed => by
      rw [Json.integral, Json.integralItems, Bool.and_eq_true] at integral
      have inner : Closed word (']' :: back) := closed_bracket
      have items := scan_items rest (']' :: back) integral.2 inner
      have value := scan_json first _ integral.1 (closed_items rest inner)
      rw [Json.text, List.cons_append, scan_separator separates_openBracket, List.append_assoc,
        List.append_assoc, List.singleton_append, value, items, scan_separator separates_bracket,
        Json.strings, Json.itemStrings, List.flatMap_append, List.append_assoc]
  | .obj [], _, _, closed => scan_word (by decide) closed
  | .obj ((key, first) :: rest), back, integral, closed => by
      rw [Json.integral, Json.integralFields, Bool.and_eq_true] at integral
      have inner : Closed word ('\x7d' :: back) := closed_brace
      have fields := scan_fields rest ('\x7d' :: back) integral.2 inner
      have value := scan_json first _ integral.1 (closed_fields rest inner)
      rw [Json.text, List.cons_append, scan_separator separates_openBrace, List.append_assoc,
        scan_quoted, List.cons_append, scan_colon, List.append_assoc, List.append_assoc,
        List.singleton_append, value, fields, scan_separator separates_brace, Json.strings,
        Json.fieldStrings, List.flatMap_cons, List.flatMap_append, List.append_assoc,
        List.append_assoc]

theorem scan_items : ∀ (items : List Json) (back : List Char), Json.integralItems items = true →
    Closed word back →
    word.scan true 0 (Json.itemsText items ++ back) =
      (Json.itemStrings items).flatMap word.encodedReferences ++ word.scan true 0 back
  | [], _, _, _ => rfl
  | first :: rest, back, integral, closed => by
      rw [Json.integralItems, Bool.and_eq_true] at integral
      have value := scan_json first _ integral.1 (closed_items rest closed)
      rw [Json.itemsText, List.cons_append, scan_separator separates_comma, List.append_assoc,
        value, scan_items rest back integral.2 closed, Json.itemStrings, List.flatMap_append,
        List.append_assoc]

theorem scan_fields : ∀ (fields : List (String × Json)) (back : List Char),
    Json.integralFields fields = true → Closed word back →
    word.scan true 0 (Json.fieldsText fields ++ back) =
      (Json.fieldStrings fields).flatMap word.encodedReferences ++ word.scan true 0 back
  | [], _, _, _ => rfl
  | (key, first) :: rest, back, integral, closed => by
      rw [Json.integralFields, Bool.and_eq_true] at integral
      have value := scan_json first _ integral.1 (closed_fields rest closed)
      rw [Json.fieldsText, List.cons_append, scan_separator separates_comma, List.append_assoc,
        scan_quoted, List.cons_append, scan_colon, List.append_assoc, value,
        scan_fields rest back integral.2 closed, Json.fieldStrings, List.flatMap_cons,
        List.flatMap_append, List.append_assoc, List.append_assoc]

end

/-- The references of the text of a value are those of its strings. -/
theorem references_json {value : Json} (integral : value.integral = true) :
    word.references value.text = value.strings.flatMap word.encodedReferences := by
  have closed : Closed word ['"'] := ⟨'"', [], rfl, separates_quote⟩
  have front := scan_json value ['"'] integral closed
  rw [scan_append separates_quote, scan_separator separates_quote, scan_nil, List.append_nil,
    List.append_nil] at front
  exact front

end Values

/-! ## The prose of a content -/

/-- The texts of a citation, in the order of the canonical text. -/
def CodeLocation.texts (location : CodeLocation) : List String :=
  [location.commitId, location.filePath, location.workspaceId]

/-- The prose of a content, in the order of the canonical text. -/
def ReportContent.prose (content : ReportContent) : List String :=
  [content.details, content.recommendation, content.summary, content.title]

def ReportProse.texts (prose : ReportProse) : List String :=
  prose.details :: prose.impact :: (prose.limitations ++
    (prose.recommendation :: (prose.reviewItems ++ [prose.summary, prose.title])))

def Content.prose : Content → List String
  | .single content => content.prose
  | .bilingual content => content.en.texts ++ content.ko.texts

/-- The references that a reader of the prose sees. -/
def Content.proseReferences (word : WordClass) (content : Content) : List Reference :=
  content.prose.flatMap fun text => word.references text.toList

section Contents

variable {word : WordClass} {content : Content}

theorem encodedReferences_key {key : String} (plain : ':' ∉ escaped key.toList) :
    word.encodedReferences key = [] := scan_noColon plain

theorem strings_location (location : CodeLocation) :
    location.json.sorted.strings.flatMap word.encodedReferences =
      location.texts.flatMap word.encodedReferences := by
  have noStrings (value : Option Nat) : (column value).sorted = column value ∧
      (column value).strings = [] := by
    cases value <;> exact ⟨rfl, rfl⟩
  simp (disch := decide) [CodeLocation.json, CodeLocation.texts, Json.sorted, Json.sortedFields,
    Json.strings, Json.fieldStrings, encodedReferences_key, noStrings]

theorem strings_locations (locations : List CodeLocation) :
    (Json.itemStrings (Json.sortedItems (locations.map CodeLocation.json))).flatMap
      word.encodedReferences =
        (locations.flatMap CodeLocation.texts).flatMap word.encodedReferences := by
  induction locations with
  | nil => rfl
  | cons location rest ih =>
      rw [List.map_cons, Json.sortedItems, Json.itemStrings, List.flatMap_append,
        strings_location, ih, List.flatMap_cons, List.flatMap_append]

theorem strings_texts (texts : List String) :
    Json.itemStrings (Json.sortedItems (texts.map Json.str)) = texts := by
  induction texts with
  | nil => rfl
  | cons text rest ih =>
      rw [List.map_cons, Json.sortedItems, Json.itemStrings, ih]
      rfl

theorem strings_prose (prose : ReportProse) :
    prose.json.sorted.strings.flatMap word.encodedReferences =
      prose.texts.flatMap word.encodedReferences := by
  simp (disch := decide) [ReportProse.json, ReportProse.texts, Json.sorted, Json.sortedFields,
    Json.strings, Json.fieldStrings, encodedReferences_key, strings_texts]

theorem integral_locations (locations : List CodeLocation) :
    Json.integralItems (locations.map CodeLocation.json) = true := by
  have one (location : CodeLocation) : location.json.integral = true := by
    have noStrings (value : Option Nat) : (column value).integral = true := by
      cases value <;> rfl
    simp [CodeLocation.json, Json.integral, Json.integralFields, noStrings]
  simp [Json.integralItems_eq, one]

theorem integral_texts (texts : List String) :
    Json.integralItems (texts.map Json.str) = true := by
  simp [Json.integralItems_eq, Json.integral]

theorem integral_prose (prose : ReportProse) : prose.json.integral = true := by
  simp [ReportProse.json, Json.integral, Json.integralFields, integral_texts]

theorem integral_content (content : Content) : content.json.integral = true := by
  cases content <;>
    simp [Content.json, ReportContent.json, BilingualReportContent.json, Json.integral,
      Json.integralFields, integral_prose, integral_locations]

/-- The canonical text shows the references of its strings. -/
theorem references_canonicalText (content : Content) :
    word.references content.canonicalText =
      (content.citations.flatMap CodeLocation.texts).flatMap word.encodedReferences ++
        content.prose.flatMap word.encodedReferences := by
  have integral : content.json.sorted.integral = true := by
    rw [Json.integral_sorted, integral_content]
  rw [Content.canonicalText, references_json integral]
  cases content with
  | single content =>
      simp (disch := decide) [Content.json, ReportContent.json, Content.citations, Content.prose,
        ReportContent.prose, Json.sorted, Json.sortedFields, Json.strings, Json.fieldStrings,
        encodedReferences_key, strings_locations]
  | bilingual content =>
      simp (disch := decide) [Content.json, BilingualReportContent.json, Content.citations,
        Content.prose, Json.sorted, Json.sortedFields, Json.strings, Json.fieldStrings,
        encodedReferences_key, strings_locations, strings_prose]

/-- A string shows its own references exactly when nothing is glued to them. -/
theorem encodedReferences_eq (text : String) :
    (word.references text.toList).length ≤ (word.encodedReferences text).length ∧
      (word.encodedReferences text = word.references text.toList ↔
        gluesReference text.toList = false) := by
  have shown : word.encodedReferences text = word.scan true 0 ([] ++ escaped text.toList) := rfl
  rw [shown]
  refine ⟨(scan_escaped (.inl rfl)).1, (scan_escaped (.inl rfl)).2.trans ?_⟩
  simp

/-- Lists of lists of which none is shorter are equal only one by one. -/
theorem flatMap_eq_of_le {α β : Type} {texts : List α} {longer shorter : α → List β}
    (le : ∀ text ∈ texts, (shorter text).length ≤ (longer text).length) :
    (texts.flatMap shorter).length ≤ (texts.flatMap longer).length ∧
      (texts.flatMap longer = texts.flatMap shorter ↔
        ∀ text ∈ texts, longer text = shorter text) := by
  induction texts with
  | nil => simp
  | cons text rest ih =>
      have rest := ih fun other member => le other (List.mem_cons_of_mem _ member)
      have first := le text List.mem_cons_self
      constructor
      · simpa using Nat.add_le_add first rest.1
      · rw [List.flatMap_cons, List.flatMap_cons, append_eq_of_le first rest.1, rest.2,
          List.forall_mem_cons]

end Contents

/-! ## The check against the prose -/

/-- Every reference of the prose is a bare endpoint or lies inside an allowed location. -/
def Content.Supported (word : WordClass) (allowed : List CodeLocation) (content : Content) : Prop :=
  ∀ text ∈ content.prose, ∀ reference ∈ word.references text.toList,
    reference.permitted allowed = true

instance {word : WordClass} {allowed : List CodeLocation} {content : Content} :
    Decidable (content.Supported word allowed) :=
  inferInstanceAs (Decidable (∀ text ∈ content.prose, ∀ reference ∈ word.references text.toList,
    reference.permitted allowed = true))

/-- The check judges the prose of a content: the canonical text shows the references of the
prose, none invented, altered or hidden, and the check accepts exactly the content whose
references are supported. -/
structure JudgesProse (word : WordClass) (content : Content) : Prop where
  shows : word.references content.canonicalText = content.proseReferences word
  checks : ∀ allowed, checkReferences word allowed content.canonicalText =
    if content.Supported word allowed then .ok () else .error locationUnsupported
  validates : ∀ checks allowed, checks.pass content = .ok () →
    (∀ citation ∈ content.citations, citation.supported allowed = true) →
    validateReportContent word checks allowed content =
      if content.Supported word allowed then .ok content.canonicalText
      else .error locationUnsupported

/-- No control character of the prose stands directly in front of a reference or the rest of one,
and the texts of the citations show no reference. -/
structure Unglued (word : WordClass) (content : Content) : Prop where
  prose : ∀ text ∈ content.prose, gluesReference text.toList = false
  citations : ∀ text ∈ content.citations.flatMap CodeLocation.texts,
    gluesReference text.toList = false ∧ word.references text.toList = []

section Judging

variable {word : WordClass} {content : Content} {allowed : List CodeLocation}

theorem forM_raiseIf {α : Type} (items : List α) (wrong : α → Bool) (reason : String) :
    (items.forM fun item => raiseIf (wrong item) reason) =
      if ∀ item ∈ items, wrong item = false then .ok () else .error reason := by
  induction items with
  | nil => simp [pure, Except.pure]
  | cons item rest ih =>
      have step : ((item :: rest).forM fun item => raiseIf (wrong item = true) reason) =
          raiseIf (wrong item = true) reason >>= fun _ =>
            rest.forM fun item => raiseIf (wrong item = true) reason := rfl
      rw [step, ih]
      cases broken : wrong item with
      | true => simp [raiseIf, broken, bind, Except.bind]
      | false => simp [raiseIf, broken, bind, Except.bind]

theorem supported_iff :
    content.Supported word allowed ↔
      ∀ reference ∈ content.proseReferences word, reference.permitted allowed = true := by
  simp only [Content.Supported, Content.proseReferences, List.mem_flatMap]
  constructor
  · rintro every reference ⟨text, member, shown⟩
    exact every text member reference shown
  · intro every text member reference shown
    exact every reference ⟨text, member, shown⟩

theorem checkReferences_eq (shows : word.references content.canonicalText =
    content.proseReferences word) :
    checkReferences word allowed content.canonicalText =
      if content.Supported word allowed then .ok () else .error locationUnsupported := by
  have every := forM_raiseIf (word.references content.canonicalText)
    (fun reference => !reference.permitted allowed) locationUnsupported
  rw [checkReferences, every, shows]
  simp only [supported_iff, Bool.not_eq_false']

theorem validateReportContent_eq {checks : OtherChecks}
    (shows : word.references content.canonicalText = content.proseReferences word)
    (passes : checks.pass content = .ok ())
    (cited : ∀ citation ∈ content.citations, citation.supported allowed = true) :
    validateReportContent word checks allowed content =
      if content.Supported word allowed then .ok content.canonicalText
      else .error locationUnsupported := by
  have citations := forM_raiseIf content.citations (fun citation => !citation.supported allowed)
    locationUnsupported
  rw [if_pos fun citation member => by rw [cited citation member, Bool.not_true]] at citations
  rw [validateReportContent, passes, citations, checkReferences_eq shows]
  split <;> rfl

/-- The canonical text shows the references of the prose exactly when nothing is glued. -/
theorem shows_iff :
    word.references content.canonicalText = content.proseReferences word ↔
      Unglued word content := by
  have atLeast (text : String) : (word.references text.toList).length ≤
      (word.encodedReferences text).length := (encodedReferences_eq text).1
  have prose := flatMap_eq_of_le fun text (_ : text ∈ content.prose) => atLeast text
  have atLeastNone : ∀ text ∈ content.citations.flatMap CodeLocation.texts,
      (Function.const String ([] : List Reference) text).length ≤
        (word.encodedReferences text).length := fun _ _ => Nat.zero_le _
  have citations := flatMap_eq_of_le atLeastNone
  have nothing : (content.citations.flatMap CodeLocation.texts).flatMap
      (Function.const String ([] : List Reference)) = [] := by simp
  rw [nothing] at citations
  rw [references_canonicalText, Content.proseReferences,
    ← List.nil_append (List.flatMap (fun text => word.references text.toList) content.prose),
    append_eq_of_le citations.1 prose.1, citations.2, prose.2]
  constructor
  · rintro ⟨cited, shown⟩
    refine ⟨fun text member => (encodedReferences_eq text).2.1 (shown text member),
      fun text member => ?_⟩
    have empty := cited text member
    have none : word.references text.toList = [] := by
      have size := atLeast text
      rw [empty] at size
      exact List.length_eq_zero_iff.1 (Nat.le_zero.1 size)
    exact ⟨(encodedReferences_eq text).2.1 (empty.trans none.symm), none⟩
  · intro unglued
    refine ⟨fun text member => ?_,
      fun text member => (encodedReferences_eq text).2.2 (unglued.prose text member)⟩
    have apart := unglued.citations text member
    rw [(encodedReferences_eq text).2.2 apart.1, apart.2, Function.const_apply]

end Judging

/-- The check judges the prose of a content exactly when no escape is glued to a reference. -/
theorem judgesProse_iff (word : WordClass) (content : Content) :
    JudgesProse word content ↔ Unglued word content := by
  rw [← shows_iff]
  constructor
  · exact JudgesProse.shows
  · intro shows
    exact ⟨shows, fun _ => checkReferences_eq shows, fun _ _ => validateReportContent_eq shows⟩

/-! ## A reference at the start of a line -/

namespace Concrete

/-- The word characters of the basic range. -/
def asciiWord : WordClass := ⟨fun character => character.isAlphanum || character == '_', fun _ _ => rfl⟩

def located : CodeLocation := ⟨"workspace", "commit", "src/app.py", 1, none, 9, none⟩

/-- A report whose details name a file at the start of their second line. -/
def lineReport : Content :=
  .single ⟨"Path traversal", "A path is not checked.", "The file is opened in\nsrc/app.py:3.",
    "Check the path.", [located]⟩

/-- The reference at the start of a line is supported, and the content is rejected. -/
theorem lineReport_rejected :
    lineReport.Supported asciiWord [located] ∧
      checkReferences asciiWord [located] lineReport.canonicalText = .error locationUnsupported ∧
      ¬ JudgesProse asciiWord lineReport := by
  have supported : lineReport.Supported asciiWord [located] := by decide +kernel
  have rejected : checkReferences asciiWord [located] lineReport.canonicalText =
      .error locationUnsupported := by decide +kernel
  refine ⟨supported, rejected, fun judges => ?_⟩
  have accepted := judges.checks [located]
  rw [if_pos supported, rejected] at accepted
  cases accepted

end Concrete

end Sastsimi.Reporting
