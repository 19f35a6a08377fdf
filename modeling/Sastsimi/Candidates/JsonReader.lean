import Sastsimi.Lib.ChunkReader
import Sastsimi.Lib.JsonGrammar

/-!
# Streaming the rows of a result file

`_JsonReader` scans a result file structurally and keeps one row at a time in memory, and
`_raw_rows` walks to the places where an engine lists its results.  Strings, scalars and rows are
cut out of the text and handed to the decoder; everything else is skipped.
-/

namespace Sastsimi.Candidates.RawRows

open Sastsimi.Lib Sastsimi.Lib.Grammar

/-- Why no further rows are read: an exception, or a recursion that was given too little fuel. -/
inductive Halt where
  | raised (message : String)
  | spent
  deriving DecidableEq

def invalid : Halt := .raised "CANDIDATE_RAW_JSON_INVALID"

def tooDeep : Halt := .raised "CANDIDATE_RAW_JSON_TOO_DEEP"

/-- The limits of an interpreter, which recurses deeper than the reader goes. -/
structure Interpreter extends Limits where
  deep : 132 ≤ nesting

variable (limits : Limits)

/-! ## Tokens -/

/-- `whitespace`: the next character behind spaces. -/
def whitespace (reader : Reader) : Option Char × Reader :=
  match _seen : reader.peek.1 with
  | some first => if isSpace first then whitespace reader.take.2 else (some first, reader.peek.2)
  | none => (none, reader.peek.2)
termination_by reader.unread.length
decreasing_by
  rw [Reader.peek_value, List.head?_eq_some_iff] at _seen
  obtain ⟨rest, left⟩ := _seen
  simp [left]

/-- `expect`. -/
def expect (expected : Char) (reader : Reader) : Except Halt Reader :=
  if (whitespace reader).1 = some expected then .ok (whitespace reader).2.take.2
  else .error invalid

/-- The loop of `string`, whose state tells whether the character before was an escape. -/
def stringTurn (escaped : Bool) (character : Char) : Turn Bool Halt :=
  if character = '"' ∧ ¬ escaped then .last else .next (character = '\\' ∧ ¬ escaped)

/-- `string`. -/
def string (reader : Reader) : Except Halt (List Nat × Reader) :=
  if (whitespace reader).1 = some '"' then
    match (whitespace reader).2.take.2.loop stringTurn (.error invalid) false with
    | .error halt => .error halt
    | .ok (chars, rest) =>
        match loads limits ('"' :: chars) with
        | some (.str codes) => .ok (codes, rest)
        | _ => .error invalid
  else .error invalid

/-- The loop of `scalar`. -/
def scalarTurn (_ : Unit) (character : Char) : Turn Unit Halt :=
  if isDelimiter character then .stop else .next ()

/-- `scalar`; a number the interpreter does not convert raises an error of its own there. -/
def scalar (reader : Reader) : Except Halt (Value × Reader) :=
  match reader.loop scalarTurn (.ok ()) () with
  | .error halt => .error halt
  | .ok (chars, rest) =>
      match loads limits chars with
      | some value => .ok (value, rest)
      | none => .error invalid

/-- The local variables of `row`. -/
structure Brackets where
  depth : Int
  inString : Bool
  escaped : Bool

/-- The loop of `row`. -/
def rowTurn (state : Brackets) (character : Char) : Turn Brackets Halt :=
  if state.inString then
    .next { state with
      inString := ¬ (character = '"' ∧ ¬ state.escaped)
      escaped := character = '\\' ∧ ¬ state.escaped }
  else if character = '"' then .next { state with inString := true }
  else if character = '\x7b' ∨ character = '[' then
    if 128 < state.depth + 1 then .raise tooDeep
    else .next { state with depth := state.depth + 1 }
  else if character = '\x7d' ∨ character = ']' then
    if state.depth - 1 = 0 then .last
    else if state.depth - 1 < 0 then .raise invalid
    else .next { state with depth := state.depth - 1 }
  else .next state

/-- `row`. -/
def row (reader : Reader) : Except Halt (Value × Reader) :=
  if (whitespace reader).1 = some '\x7b' then
    match (whitespace reader).2.loop rowTurn (.error invalid) ⟨0, false, false⟩ with
    | .error halt => .error halt
    | .ok (chars, rest) =>
        match loads limits chars with
        | some (.obj fields) => .ok (.obj fields, rest)
        | some _ => .error (.raised "CANDIDATE_RAW_RESULT_INVALID")
        | none => .error invalid
  else .error (.raised "CANDIDATE_RAW_RESULT_INVALID")

/-! ## Nested values -/

/-- The tools whose results are read. -/
inductive Engine where
  | opengrep
  | codeql
  deriving DecidableEq

/-- What a part of the walk does: the rows it yields, whether it meets a list of results, and the
reader it leaves if it does not raise. -/
structure Walked where
  rows : List (Engine × Value)
  found : Bool
  ended : Except Halt Reader

namespace Walked

/-- A part that yields nothing. -/
def silent (ended : Except Halt Reader) : Walked := ⟨[], false, ended⟩

/-- What follows is done unless an exception was raised. -/
def andThen (walked : Walked) (next : Reader → Walked) : Walked :=
  match walked.ended with
  | .error _ => walked
  | .ok reader =>
      ⟨walked.rows ++ (next reader).rows, walked.found || (next reader).found, (next reader).ended⟩

end Walked

/-- The elements of an array or an object up to its closing bracket. -/
def elements (close : Char) (element : Reader → Walked) : Nat → Reader → Walked
  | 0, _ => .silent (.error .spent)
  | fuel + 1, reader =>
      (element reader).andThen fun reader =>
        if (whitespace reader).1 = some close then .silent (.ok (whitespace reader).2.take.2)
        else
          (Walked.silent (expect ',' (whitespace reader).2)).andThen
            (elements close element fuel)

/-- An array or an object behind its opening bracket. -/
def collection (close : Char) (element : Reader → Walked) (fuel : Nat) (reader : Reader) :
    Walked :=
  if (whitespace reader).1 = some close then .silent (.ok (whitespace reader).2.take.2)
  else elements close element fuel (whitespace reader).2

/-- A key, and what is done with its value. -/
def keyed (value : List Nat → Reader → Walked) (reader : Reader) : Walked :=
  match string limits reader with
  | .error halt => .silent (.error halt)
  | .ok (key, reader) => (Walked.silent (expect ':' reader)).andThen (value key)

/-- `skip`. -/
def skip : Nat → Nat → Reader → Walked
  | 0, _, _ => .silent (.error .spent)
  | fuel + 1, depth, reader =>
      if 128 < depth then .silent (.error tooDeep)
      else
        match (whitespace reader).1 with
        | none => .silent (.error invalid)
        | some token =>
            if token = '\x7b' then
              collection '\x7d' (keyed limits fun _ => skip fuel (depth + 1)) fuel
                (whitespace reader).2.take.2
            else if token = '[' then
              collection ']' (skip fuel (depth + 1)) fuel (whitespace reader).2.take.2
            else if token = '"' then
              .silent ((string limits (whitespace reader).2).map Prod.snd)
            else .silent ((scalar limits (whitespace reader).2).map Prod.snd)

/-! ## Targets -/

/-- The code points of a text. -/
def codes (text : String) : List Nat := text.toList.map Char.toNat

/-- `targets`. -/
def targets : List (List (List Nat) × Engine) := [
  ([codes "results"], .opengrep),
  ([codes "runs", codes "*", codes "results"], .codeql)]

/-- A target begins with the path. -/
def leadsToTarget (path : List (List Nat)) : Bool :=
  targets.any fun target => target.1.take path.length = path

/-- `yield engine, reader.row()`. -/
def yieldRow (engine : Engine) (reader : Reader) : Walked :=
  match row limits reader with
  | .error halt => .silent (.error halt)
  | .ok (value, rest) => ⟨[(engine, value)], false, .ok rest⟩

/-- `walk`. -/
def walk : Nat → List (List Nat) → Nat → Reader → Walked
  | 0, _, _, _ => .silent (.error .spent)
  | fuel + 1, path, depth, reader =>
      if 128 < depth then .silent (.error tooDeep)
      else
        match targets.lookup path with
        | some engine =>
            (Walked.mk [] true (expect '[' reader)).andThen
              (collection ']' (yieldRow limits engine) fuel)
        | none =>
            if ¬ leadsToTarget path then skip limits fuel depth reader
            else if (whitespace reader).1 = some '\x7b' then
              collection '\x7d'
                (keyed limits fun key => walk fuel (path ++ [key]) (depth + 1)) fuel
                (whitespace reader).2.take.2
            else if (whitespace reader).1 = some '[' then
              collection ']' (walk fuel (path ++ [codes "*"]) (depth + 1)) fuel
                (whitespace reader).2.take.2
            else .silent (.error invalid)

/-- The end of the text behind the walk. -/
def finish (found : Bool) (reader : Reader) : Except Halt Reader :=
  if (whitespace reader).1.isSome then .error invalid
  else if ¬ found then .error (.raised "CANDIDATE_RAW_RESULTS_MISSING")
  else .ok (whitespace reader).2

/-- `_raw_rows`; a recursion enters fewer values than the text has characters. -/
def rawRows (reader : Reader) : Walked :=
  let walked := walk limits (reader.unread.length + 2) [] 0 reader
  walked.andThen fun reader => .silent (finish walked.found reader)

end Sastsimi.Candidates.RawRows
