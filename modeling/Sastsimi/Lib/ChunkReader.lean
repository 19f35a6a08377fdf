import Mathlib.Data.List.Basic

/-!
# Reading a text in chunks

A reader buffers one chunk of its stream at a time and shows one character of it.  What it returns
depends only on the text that is left, wherever the stream is cut.
-/

namespace Sastsimi.Lib

/-- A stream of chunks and the part of the last one that is not read yet. -/
structure Reader where
  buffer : List Char
  stream : List (List Char)
  nonempty : ∀ chunk ∈ stream, chunk ≠ []

namespace Reader

variable {reader : Reader}

/-- The text that is left. -/
def unread (reader : Reader) : List Char := reader.buffer ++ reader.stream.flatten

/-- The next character, which stays in the buffer. -/
def peek (reader : Reader) : Option Char × Reader :=
  match reader with
  | ⟨first :: rest, stream, nonempty⟩ => (some first, ⟨first :: rest, stream, nonempty⟩)
  | ⟨[], [], nonempty⟩ => (none, ⟨[], [], nonempty⟩)
  | ⟨[], chunk :: stream, nonempty⟩ =>
      (chunk.head?, ⟨chunk, stream, fun other member => nonempty other (.tail _ member)⟩)

/-- The next character, which leaves the buffer. -/
def take (reader : Reader) : Option Char × Reader :=
  (reader.peek.1, { reader.peek.2 with buffer := reader.peek.2.buffer.tail })

@[simp] theorem peek_unread (reader : Reader) : reader.peek.2.unread = reader.unread := by
  match reader with
  | ⟨_ :: _, _, _⟩ => rfl
  | ⟨[], [], _⟩ => rfl
  | ⟨[], _ :: _, _⟩ => simp [peek, unread]

theorem peek_value (reader : Reader) : reader.peek.1 = reader.unread.head? := by
  match reader with
  | ⟨_ :: _, _, _⟩ => rfl
  | ⟨[], [], _⟩ => rfl
  | ⟨[], [] :: _, nonempty⟩ => exact absurd rfl (nonempty [] (.head _))
  | ⟨[], (_ :: _) :: _, _⟩ => rfl

theorem take_value (reader : Reader) : reader.take.1 = reader.unread.head? := reader.peek_value

@[simp] theorem take_unread (reader : Reader) : reader.take.2.unread = reader.unread.tail := by
  match reader with
  | ⟨_ :: _, _, _⟩ => rfl
  | ⟨[], [], _⟩ => rfl
  | ⟨[], [] :: _, nonempty⟩ => exact absurd rfl (nonempty [] (.head _))
  | ⟨[], (_ :: _) :: _, _⟩ => simp [take, peek, unread]

/-! ## Loops over characters -/

end Reader

/-- What a loop does with a character it sees. -/
inductive Turn (σ ε : Type) where
  /-- End before the character. -/
  | stop
  /-- Take the character and end. -/
  | last
  /-- Take the character and go on. -/
  | next (state : σ)
  | raise (error : ε)

section Loops

variable {σ ε : Type} (turn : σ → Char → Turn σ ε) (atEnd : Except ε Unit)

/-- The characters a loop takes from a text, and the text behind them. -/
def consume : σ → List Char → Except ε (List Char × List Char)
  | _, [] => atEnd.map fun _ => ([], [])
  | state, first :: rest =>
      match turn state first with
      | .stop => .ok ([], first :: rest)
      | .last => .ok ([first], rest)
      | .next state => (consume state rest).map (Prod.map (first :: ·) id)
      | .raise error => .error error

/-- The characters a loop takes from a reader. -/
def Reader.loop (state : σ) (reader : Reader) : Except ε (List Char × Reader) :=
  match _seen : reader.peek.1 with
  | none => atEnd.map fun _ => ([], reader.peek.2)
  | some first =>
      match turn state first with
      | .stop => .ok ([], reader.peek.2)
      | .last => .ok ([first], reader.take.2)
      | .next state => (Reader.loop state reader.take.2).map (Prod.map (first :: ·) id)
      | .raise error => .error error
termination_by reader.unread.length
decreasing_by
  rw [Reader.peek_value, List.head?_eq_some_iff] at _seen
  obtain ⟨rest, left⟩ := _seen
  simp [left]

/-- A loop over a reader takes what it takes from the text that is left. -/
theorem Reader.loop_unread (state : σ) (reader : Reader) :
    (reader.loop turn atEnd state).map (Prod.map id Reader.unread)
      = consume turn atEnd state reader.unread := by
  induction left : reader.unread generalizing state reader with
  | nil =>
      have ended : reader.peek.1 = none := by rw [Reader.peek_value, left]; rfl
      rw [Reader.loop]
      split
      · cases atEnd with
        | error raised => rfl
        | ok done => simp [consume, Except.map, left]
      · rename_i seen
        rw [ended] at seen
        cases seen
  | cons first rest ih =>
      have shown : reader.peek.1 = some first := by rw [Reader.peek_value, left]; rfl
      rw [Reader.loop]
      split
      · rename_i seen
        rw [shown] at seen
        cases seen
      · rename_i character seen
        rw [shown] at seen
        cases seen
        rw [consume]
        cases turn state first with
        | stop => simp [Except.map, left]
        | last => simp [Except.map, left]
        | raise error => rfl
        | next state =>
            have later := ih state reader.take.2 (by simp [left])
            simp only [← later]
            cases Reader.loop turn atEnd state reader.take.2 with
            | error raised => rfl
            | ok taken => rfl

variable {turn atEnd} {state : σ} {reader : Reader}

/-- The loop ends where it ends in the text. -/
theorem Reader.loop_ok {taken rest : List Char}
    (consumed : consume turn atEnd state reader.unread = .ok (taken, rest)) :
    ∃ after, reader.loop turn atEnd state = .ok (taken, after) ∧ after.unread = rest := by
  have same := reader.loop_unread turn atEnd state
  rw [consumed] at same
  cases looped : reader.loop turn atEnd state with
  | error raised =>
      rw [looped] at same
      cases same
  | ok result =>
      rw [looped] at same
      obtain ⟨rfl, rfl⟩ := Prod.mk.inj (Except.ok.inj same)
      exact ⟨result.2, rfl, rfl⟩

theorem Reader.consume_of_loop {taken : List Char} {after : Reader}
    (looped : reader.loop turn atEnd state = .ok (taken, after)) :
    consume turn atEnd state reader.unread = .ok (taken, after.unread) := by
  rw [← reader.loop_unread, looped]
  rfl

theorem Reader.consume_of_error {raised : ε}
    (looped : reader.loop turn atEnd state = .error raised) :
    consume turn atEnd state reader.unread = .error raised := by
  rw [← reader.loop_unread, looped]
  rfl

/-! ### Parts of a text -/

variable (turn atEnd) in
/-- The loop takes the whole text and goes on in another state. -/
def Carries (state : σ) (text : List Char) (later : σ) : Prop :=
  ∀ rest, consume turn atEnd state (text ++ rest)
    = (consume turn atEnd later rest).map (Prod.map (text ++ ·) id)

variable {text more : List Char} {later final : σ}

theorem Carries.nil : Carries turn atEnd state [] state := by
  intro rest
  rw [List.nil_append]
  cases consume turn atEnd state rest <;> rfl

theorem Carries.single {character : Char} (goes : turn state character = .next later) :
    Carries turn atEnd state [character] later := by
  intro rest
  rw [List.singleton_append, consume, goes]
  rfl

theorem Carries.append (first : Carries turn atEnd state text later)
    (second : Carries turn atEnd later more final) :
    Carries turn atEnd state (text ++ more) final := by
  intro rest
  rw [List.append_assoc, first, second]
  cases consume turn atEnd final rest with
  | error raised => rfl
  | ok taken => simp [Except.map, Prod.map]

theorem Carries.cons {character : Char} (goes : turn state character = .next later)
    (second : Carries turn atEnd later more final) :
    Carries turn atEnd state (character :: more) final :=
  (Carries.single goes).append second

/-- Characters that leave the state alone are taken. -/
theorem Carries.run (stays : ∀ character ∈ text, turn state character = .next state) :
    Carries turn atEnd state text state := by
  induction text with
  | nil => exact .nil
  | cons first rest ih =>
      exact .cons (stays first List.mem_cons_self)
        (ih fun character member => stays character (List.mem_cons_of_mem _ member))

/-- A loop ends at the last character of a text it takes. -/
theorem Carries.last {character : Char} (carries : Carries turn atEnd state text later)
    (ends : turn later character = .last) (rest : List Char) :
    consume turn atEnd state (text ++ character :: rest) = .ok (text ++ [character], rest) := by
  rw [carries, consume, ends]
  rfl

/-- What a loop has taken is the front of the text, up to where it ended. -/
theorem consume_ok {taken rest : List Char}
    (consumed : consume turn atEnd state text = .ok (taken, rest)) :
    text = taken ++ rest
      ∧ ((∃ state next later, rest = next :: later ∧ turn state next = .stop)
        ∨ (∃ front last state, taken = front ++ [last] ∧ turn state last = .last)
        ∨ rest = [] ∧ atEnd = .ok ()) := by
  induction text generalizing state taken with
  | nil =>
      rw [consume] at consumed
      cases atEnd with
      | error raised => cases consumed
      | ok done =>
          cases consumed
          exact ⟨rfl, .inr (.inr ⟨rfl, rfl⟩)⟩
  | cons first tail ih =>
      rw [consume] at consumed
      split at consumed
      · rename_i stops
        cases consumed
        exact ⟨rfl, .inl ⟨state, first, tail, rfl, stops⟩⟩
      · rename_i ends
        cases consumed
        exact ⟨rfl, .inr (.inl ⟨[], first, state, rfl, ends⟩)⟩
      · rename_i goes
        cases further : consume turn atEnd _ tail with
        | error raised =>
            rw [further] at consumed
            cases consumed
        | ok result =>
            rw [further] at consumed
            obtain ⟨rfl, rfl⟩ := Prod.mk.inj (Except.ok.inj consumed)
            obtain ⟨split, ended⟩ := ih further
            refine ⟨congrArg (first :: ·) split, ?_⟩
            rcases ended with stops | ⟨front, last, state, same, ends⟩ | all
            · exact .inl stops
            · exact .inr (.inl ⟨first :: front, last, state, congrArg (first :: ·) same, ends⟩)
            · exact .inr (.inr all)
      · cases consumed

/-- What a loop raises is raised by a turn, or at the end of the text. -/
theorem consume_error {raised : ε} (consumed : consume turn atEnd state text = .error raised) :
    (∃ state character, turn state character = .raise raised) ∨ atEnd = .error raised := by
  induction text generalizing state with
  | nil =>
      rw [consume] at consumed
      cases atEnd with
      | error other =>
          cases consumed
          exact .inr rfl
      | ok done => cases consumed
  | cons first tail ih =>
      rw [consume] at consumed
      split at consumed
      · cases consumed
      · cases consumed
      · cases further : consume turn atEnd _ tail with
        | error other =>
            rw [further] at consumed
            cases consumed
            exact ih further
        | ok result =>
            rw [further] at consumed
            cases consumed
      · rename_i raises
        cases consumed
        exact .inl ⟨state, first, raises⟩

end Loops

end Sastsimi.Lib
