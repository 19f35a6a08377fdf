import Mathlib.Data.Char
import Mathlib.Data.List.Lex
import Sastsimi.Lib.JsonEncoding
import Sastsimi.Lib.Raising

/-!
# Canonical JSON

`_normalize` of JSON values and the bytes and the hash of what it returns.  A set-list policy
names lists by the path of keys that leads to them, where `*` stands for the items of a list; the
items of a list it names are sorted by their encoding or by the encoding of one member.

Bytes are the characters that they encode, which UTF-8 keeps in order.  The branches for contract
models, enumerations, times and UUIDs, which no JSON value takes, are left out.
-/

namespace Sastsimi.Contracts

open Sastsimi.Lib

/-- Why a value has no canonical form. -/
inductive CanonicalError where
  | typeError (message : String)
  | valueError (message : String)
  deriving DecidableEq

/-- `SetListPolicy`: the paths of the lists to sort, each with the member to sort by. -/
abbrev SetListPolicy : Type := List String → Option (Option String)

/-- `_encode`. -/
def encode (value : Json) : List Char := value.sorted.text

/-- `sort_key`. -/
def sortKey (key : Option String) (item : Json) : Except CanonicalError (List Char) :=
  match key with
  | none => .ok (encode item)
  | some name => do
      let value ← required (item.get? name)
        (.valueError ("Semantic list item missing key " ++ name))
      pure (encode value)

/-- `items.sort(key=sort_key)`. -/
def sortItems (key : Option String) (items : List Json) : Except CanonicalError (List Json) := do
  let keyed ← items.mapM fun item => (sortKey key item).map fun text => (text, item)
  pure ((keyed.insertionSort fun left right => left.1 ≤ right.1).map Prod.snd)

/-- Sort the items of a list that the policy names. -/
def orderItems (policy : SetListPolicy) (path : List String) (items : List Json) :
    Except CanonicalError (List Json) :=
  match policy path with
  | none => .ok items
  | some key => sortItems key items

mutual

/-- `_normalize`. -/
def normalize (policy : SetListPolicy) (rejectHash : Bool) (path : List String) :
    Json → Except CanonicalError Json
  | .float _ =>
      .error (.typeError "Unsupported canonical JSON value: float; numbers must be integers")
  | .arr items => do
      let items ← normalizeItems policy rejectHash (path ++ ["*"]) items
      let items ← orderItems policy path items
      pure (.arr items)
  | .obj fields => do
      raiseIf (rejectHash = true ∧ path = [] ∧ "content_hash" ∈ fields.map Prod.fst)
        (.valueError "content_hash member would be self-referential")
      let fields ← normalizeFields policy rejectHash path fields
      pure (.obj fields)
  | value => .ok value

def normalizeItems (policy : SetListPolicy) (rejectHash : Bool) (path : List String) :
    List Json → Except CanonicalError (List Json)
  | [] => .ok []
  | item :: rest => do
      let item ← normalize policy rejectHash path item
      let rest ← normalizeItems policy rejectHash path rest
      pure (item :: rest)

def normalizeFields (policy : SetListPolicy) (rejectHash : Bool) (path : List String) :
    List (String × Json) → Except CanonicalError (List (String × Json))
  | [] => .ok []
  | (key, value) :: rest => do
      let value ← normalize policy rejectHash (path ++ [key]) value
      let rest ← normalizeFields policy rejectHash path rest
      pure ((key, value) :: rest)

end

/-- `canonical_bytes`. -/
def canonicalBytes (policy : SetListPolicy) (value : Json) : Except CanonicalError (List Char) :=
  (normalize policy false [] value).map encode

/-- `content_hash`. -/
def contentHash (sha256 : List Char → String) (policy : SetListPolicy) (value : Json) :
    Except CanonicalError String :=
  (normalize policy true [] value).map fun normal => sha256 (encode normal)

end Sastsimi.Contracts
