import Mathlib.Data.List.Basic

/-!
# Backtracking patterns

The patterns of `re` and the places that a match from a place may end at, in the order in which the
backtracking tries them.  A text is cut by a pattern into the parts that it finds, from the left,
and the characters between them; substituting goes part by part.
-/

namespace Sastsimi.Lib

/-- A pattern. -/
inductive Regex where
  | empty
  | one (test : Char → Bool)
  | seq (first second : Regex)
  | alt (first second : Regex)
  | star (greedy : Bool) (body : Regex)
  /-- `(?<!...)` and `(?<=...)` with a pattern for one character. -/
  | behind (test : Option Char → Bool)
  | ahead (body : Regex)
  | notAhead (body : Regex)
  /-- `\b`. -/
  | boundary (word : Char → Bool)
  /-- `$`. -/
  | atEnd

/-- A place in a text: what is before it, from the right, and what is behind it. -/
structure Place where
  before : List Char
  after : List Char

namespace Regex

/-! ## Matching -/

/-- The ends of repeated steps, each of which goes on. -/
def repeats (greedy : Bool) (step : Place → List Place) : Nat → Place → List Place
  | 0, place => [place]
  | rounds + 1, place =>
      let more := ((step place).filter fun next =>
        decide (next.after.length < place.after.length)).flatMap (repeats greedy step rounds)
      if greedy then more ++ [place] else place :: more

/-- The places where a match may end, in the order of the search. -/
def run : Regex → Place → List Place
  | empty, place => [place]
  | one test, place =>
      match place.after with
      | [] => []
      | next :: rest => if test next then [⟨next :: place.before, rest⟩] else []
  | seq first second, place => (first.run place).flatMap second.run
  | alt first second, place => first.run place ++ second.run place
  | star greedy body, place => repeats greedy body.run place.after.length place
  | behind test, place => if test place.before.head? then [place] else []
  | ahead body, place => if (body.run place).isEmpty then [] else [place]
  | notAhead body, place => if (body.run place).isEmpty then [place] else []
  | boundary word, place =>
      if place.before.head?.any word = place.after.head?.any word then [] else [place]
  | atEnd, place => if place.after = [] ∨ place.after = ['\n'] then [place] else []

/-- `fullmatch`. -/
def fullMatch (pattern : Regex) (text : List Char) : Bool :=
  (pattern.run ⟨[], text⟩).any fun place => place.after.isEmpty

/-! ### Derived patterns -/

/-- `?`. -/
def opt (body : Regex) : Regex := alt body empty

/-- `+`. -/
def plus (body : Regex) : Regex := seq body (star true body)

/-- The patterns one after the other. -/
def all : List Regex → Regex
  | [] => empty
  | first :: rest => seq first (all rest)

/-- One of the patterns. -/
def any : List Regex → Regex
  | [] => one fun _ => false
  | first :: rest => alt first (any rest)

/-- `{n}`. -/
def times : Nat → Regex → Regex
  | 0, _ => empty
  | count + 1, body => seq body (times count body)

/-- `{n,}`. -/
def atLeast (count : Nat) (body : Regex) : Regex := seq (times count body) (star true body)

/-- The characters of a text. -/
def literal (text : String) : Regex := all (text.toList.map fun letter => one (· == letter))

/-- A class of characters. -/
def oneOf (text : String) : Regex := one fun character => text.toList.contains character

/-- A class of all other characters. -/
def noneOf (text : String) : Regex := one fun character => !text.toList.contains character

/-! ## Cutting a text -/

/-- A part of a text that was searched. -/
inductive Piece where
  | kept (character : Char)
  | found (text : List Char)

def Piece.text : Piece → List Char
  | kept character => [character]
  | found text => text

def Piece.isFound : Piece → Bool
  | kept _ => false
  | found _ => true

/-- The first match at a place: its text, and the place behind it. -/
def matchAt (pattern : Regex) (place : Place) : Option (List Char × Place) :=
  (pattern.run place).head?.map fun next =>
    (place.after.take (place.after.length - next.after.length), next)

/-- The parts of a text behind a place.  Matches are taken to be filled. -/
def piecesFrom (pattern : Regex) : Nat → Place → List Piece
  | 0, _ => []
  | fuel + 1, place =>
      match place.after with
      | [] => []
      | next :: rest =>
          let passed : Place := ⟨next :: place.before, rest⟩
          match pattern.matchAt place with
          | some (first :: more, later) => .found (first :: more) :: piecesFrom pattern fuel later
          | _ => .kept next :: piecesFrom pattern fuel passed

/-- The parts of a text. -/
def pieces (pattern : Regex) (text : List Char) : List Piece :=
  pattern.piecesFrom text.length ⟨[], text⟩

/-- `search`. -/
def search (pattern : Regex) (text : List Char) : Bool := (pattern.pieces text).any Piece.isFound

/-- The text with other parts in place of those that were found. -/
def substitute (replacement : List Char → List Char) (parts : List Piece) : List Char :=
  parts.flatMap fun
    | .kept character => [character]
    | .found text => replacement text

/-- `sub`. -/
def sub (pattern : Regex) (replacement : List Char → List Char) (text : List Char) : List Char :=
  substitute replacement (pattern.pieces text)

/-! ## Places that are reached -/

/-- A text leads from a place to another one. -/
def Leads (place : Place) (text : List Char) (later : Place) : Prop :=
  place.after = text ++ later.after ∧ later.before = text.reverse ++ place.before

section Reached

variable {place later last : Place} {text more : List Char} {pattern : Regex}

theorem Leads.refl (place : Place) : Leads place [] place := ⟨rfl, rfl⟩

theorem Leads.trans (front : Leads place text later) (back : Leads later more last) :
    Leads place (text ++ more) last := by
  refine ⟨?_, ?_⟩
  · rw [front.1, back.1, List.append_assoc]
  · rw [back.2, front.2, List.reverse_append, List.append_assoc]

theorem repeats_leads {greedy : Bool} {step : Place → List Place}
    (steps : ∀ place, ∀ later ∈ step place, ∃ text, Leads place text later) (rounds : Nat) :
    ∀ later ∈ repeats greedy step rounds place, ∃ text, Leads place text later := by
  induction rounds generalizing place with
  | zero =>
      intro later member
      rw [List.mem_singleton.1 member]
      exact ⟨[], .refl place⟩
  | succ rounds ih =>
      intro later member
      have cases : later ∈ ((step place).filter fun next =>
          decide (next.after.length < place.after.length)).flatMap (repeats greedy step rounds) ∨
          later = place := by
        rw [repeats] at member
        cases greedy with
        | true => simpa using member
        | false => simpa [or_comm] using member
      rcases cases with inside | rfl
      · obtain ⟨next, stepped, reached⟩ := List.mem_flatMap.1 inside
        obtain ⟨first, leads⟩ := steps place next (List.mem_of_mem_filter stepped)
        obtain ⟨rest, leads'⟩ := ih later reached
        exact ⟨_, leads.trans leads'⟩
      · exact ⟨[], .refl later⟩

/-- A match ends behind some of the text. -/
theorem run_leads (pattern : Regex) (place : Place) :
    ∀ later ∈ pattern.run place, ∃ text, Leads place text later := by
  induction pattern generalizing place with
  | empty =>
      intro later member
      rw [List.mem_singleton.1 member]
      exact ⟨[], .refl place⟩
  | one test =>
      intro later member
      rw [run] at member
      split at member
      · cases member
      · rename_i next rest behind
        split at member
        · rw [List.mem_singleton.1 member]
          exact ⟨[next], behind, rfl⟩
        · cases member
  | seq first second ihFirst ihSecond =>
      intro later member
      obtain ⟨middle, inFirst, inSecond⟩ := List.mem_flatMap.1 member
      obtain ⟨text, leads⟩ := ihFirst place middle inFirst
      obtain ⟨more, leads'⟩ := ihSecond middle later inSecond
      exact ⟨_, leads.trans leads'⟩
  | alt first second ihFirst ihSecond =>
      intro later member
      rcases List.mem_append.1 member with inFirst | inSecond
      · exact ihFirst place later inFirst
      · exact ihSecond place later inSecond
  | star greedy body ih => exact repeats_leads ih _
  | behind | ahead | notAhead | boundary | atEnd =>
      intro later member
      have stays : later = place := by
        rw [run] at member
        split at member <;> simp_all
      exact ⟨[], stays ▸ .refl place⟩

theorem matchAt_leads (found : pattern.matchAt place = some (text, later)) :
    later ∈ pattern.run place ∧ Leads place text later := by
  obtain ⟨next, first, parts⟩ := Option.map_eq_some_iff.1 found
  obtain ⟨rfl, rfl⟩ := Prod.mk.inj parts
  have member := List.mem_of_head? first
  obtain ⟨matched, leads⟩ := run_leads pattern place next member
  have length := congrArg List.length leads.1
  rw [List.length_append] at length
  have taken : place.after.take (place.after.length - next.after.length) = matched := by
    rw [leads.1, List.take_left' (by rw [← leads.1]; omega)]
  exact ⟨member, taken ▸ leads⟩

/-! ## Parts of a text -/

theorem piecesFrom_text {fuel : Nat} (enough : place.after.length ≤ fuel) :
    (pattern.piecesFrom fuel place).flatMap Piece.text = place.after := by
  induction fuel generalizing place with
  | zero =>
      rw [List.length_eq_zero_iff.1 (Nat.le_zero.1 enough)]
      rfl
  | succ fuel ih =>
      rw [piecesFrom]
      split
      · rename_i ended
        rw [ended]
        rfl
      · rename_i next rest behind
        rw [behind, List.length_cons] at enough
        simp only
        split
        · rename_i first more later found
          obtain ⟨-, leads⟩ := matchAt_leads found
          have length := congrArg List.length leads.1
          rw [behind, List.length_append, List.length_cons, List.length_cons] at length
          rw [List.flatMap_cons, ih (by omega), leads.1]
          rfl
        · rw [List.flatMap_cons, ih (by simpa using enough), behind]
          rfl

/-- The parts of a text are the text. -/
theorem pieces_text (pattern : Regex) (text : List Char) :
    (pattern.pieces text).flatMap Piece.text = text :=
  piecesFrom_text (Nat.le_refl _)

/-- Nothing is replaced where nothing is found. -/
theorem sub_of_not_search {replacement : List Char → List Char}
    (nothing : pattern.search text = false) : pattern.sub replacement text = text := by
  rw [search, List.any_eq_false] at nothing
  calc pattern.sub replacement text
      = (pattern.pieces text).flatMap Piece.text := by
        apply List.flatMap_congr
        intro piece member
        cases piece with
        | kept character => rfl
        | found found => exact absurd rfl (nothing _ member)
    _ = text := pieces_text pattern text

/-- A part that was found is what the pattern matched at a place. -/
theorem matchAt_of_found {fuel : Nat} (found : Piece.found text ∈ pattern.piecesFrom fuel place) :
    ∃ place later, pattern.matchAt place = some (text, later) := by
  induction fuel generalizing place with
  | zero => cases found
  | succ fuel ih =>
      rw [piecesFrom] at found
      split at found
      · cases found
      · simp only at found
        split at found
        · rename_i first more later matched
          rcases List.mem_cons.1 found with same | later
          · cases same
            exact ⟨place, _, matched⟩
          · exact ih later
        · rcases List.mem_cons.1 found with same | later
          · cases same
          · exact ih later

/-- Replacing leaves the characters of a kind as they are, if the replacements do. -/
theorem sub_filter {replacement : List Char → List Char} {kind : Char → Bool} {whole : List Char}
    (kept : ∀ text, Piece.found text ∈ pattern.pieces whole →
      (replacement text).filter kind = text.filter kind) :
    (pattern.sub replacement whole).filter kind = whole.filter kind := by
  calc (pattern.sub replacement whole).filter kind
      = ((pattern.pieces whole).flatMap Piece.text).filter kind := by
        rw [sub, substitute, List.filter_flatMap, List.filter_flatMap]
        apply List.flatMap_congr
        intro piece member
        cases piece with
        | kept character => rfl
        | found text => exact kept text member
    _ = whole.filter kind := by rw [pieces_text]

theorem literal_run {letters : List Char}
    (reached : later ∈ (all (letters.map fun letter => one (· == letter))).run place) :
    place.after = letters ++ later.after := by
  induction letters generalizing place with
  | nil =>
      rw [List.mem_singleton.1 reached]
      rfl
  | cons letter rest ih =>
      obtain ⟨middle, front, back⟩ := List.mem_flatMap.1 reached
      rw [run] at front
      split at front
      · cases front
      · rename_i next others behind
        split at front
        · rename_i same
          rw [List.mem_singleton.1 front] at back
          rw [behind, beq_iff_eq.1 same, List.cons_append, ← ih back]
        · cases front

/-- A literal finds itself. -/
theorem found_literal {letters : String} {whole : List Char}
    (found : Piece.found text ∈ (literal letters).pieces whole) : text = letters.toList := by
  obtain ⟨place, later, matched⟩ := matchAt_of_found found
  obtain ⟨reached, leads⟩ := matchAt_leads matched
  have split := literal_run reached
  rw [leads.1] at split
  exact List.append_cancel_right split

/-- Single characters are replaced each on its own. -/
theorem sub_one {test : Char → Bool} {replacement : List Char → List Char} (text : List Char) :
    (all [one test]).sub replacement text =
      text.flatMap fun character => if test character then replacement [character] else [character] := by
  have parts : ∀ before : List Char,
      substitute replacement ((all [one test]).piecesFrom text.length ⟨before, text⟩) =
        text.flatMap fun character =>
          if test character then replacement [character] else [character] := by
    induction text with
    | nil => exact fun _ => rfl
    | cons next rest ih =>
        intro before
        rw [List.length_cons, piecesFrom]
        cases fits : test next with
        | true =>
            have matched : (all [one test]).matchAt ⟨before, next :: rest⟩ =
                some ([next], ⟨next :: before, rest⟩) := by
              simp [matchAt, all, run, fits]
            simp only [matched]
            rw [List.flatMap_cons, if_pos fits, ← ih (next :: before)]
            rfl
        | false =>
            have matched : (all [one test]).matchAt ⟨before, next :: rest⟩ = none := by
              simp [matchAt, all, run, fits]
            simp only [matched]
            rw [List.flatMap_cons, if_neg (by simp [fits]), ← ih (next :: before)]
            rfl
  exact parts []

end Reached

end Regex

end Sastsimi.Lib
