import Mathlib.Data.List.Sort
import Mathlib.Data.Prod.Lex
import Sastsimi.Lib.JsonEncoding
import Sastsimi.Lib.Table
import Sastsimi.Runtime.CandidateBatch

/-!
# Candidate batches

`iter_candidate_batches` reads the selected candidates of a scope page by page, in the order of
path and id, and packs them greedily into batches of one path, at most sixteen candidates and a
bounded prompt.

What prepares and renders the context of a file is a parameter; so is the hash.
-/

namespace Sastsimi.Candidates

open Sastsimi.Lib Sastsimi.Runtime

/-! ## Stored candidates -/

/-- A row of `simple_static_candidates`, with the path of its candidate. -/
structure StaticCandidate where
  key : CandidateKey
  path : String
  decision : String
  content : Json

/-- `candidate_id`. -/
def StaticCandidate.candidateId (candidate : StaticCandidate) : String := candidate.key.candidateId

/-- What a page is ordered by. -/
def StaticCandidate.place (candidate : StaticCandidate) : String ×ₗ String :=
  toLex (candidate.path, candidate.candidateId)

/-- `simple_static_candidates`. -/
abbrev CandidateTable : Type := Table StaticCandidate.key

/-- The candidate is of a scope, and `decision IN ('INCLUDE', 'UNDECIDED')`. -/
def StaticCandidate.selected (scope : ScopeKey) (scopeFingerprint : String)
    (candidate : StaticCandidate) : Bool :=
  decide (candidate.key.scope = scope ∧ candidate.key.scopeFingerprint = scopeFingerprint) &&
    decide (candidate.decision = "INCLUDE" ∨ candidate.decision = "UNDECIDED")

/-- `path > ? OR (path = ? AND candidate_id > ?)`. -/
def StaticCandidate.isAfter (after : Option (String × String)) (candidate : StaticCandidate) :
    Bool :=
  after.all fun cursor =>
    decide (cursor.1 < candidate.path ∨
      (candidate.path = cursor.1 ∧ cursor.2 < candidate.candidateId))

/-- `ORDER BY path, candidate_id`. -/
def ordered (rows : List StaticCandidate) : List StaticCandidate :=
  rows.insertionSort fun left right => left.place ≤ right.place

/-- `_candidate_scope_key`. -/
def candidateScopeKey (identity : CheckpointIdentity) (scopeFingerprint : String) :
    Except PyError ScopeKey :=
  (candidateKey identity scopeFingerprint "").map (·.scope)

/-- `list_candidate_batch_page`. -/
def listCandidateBatchPage (table : CandidateTable) (identity : CheckpointIdentity)
    (scopeFingerprint : String) (after : Option (String × String)) (limit : Nat) :
    Except PyError (List StaticCandidate) := do
  raiseIf (limit ≤ 0) (.valueError "CANDIDATE_PAGE_ARGUMENT_INVALID")
  let scope ← candidateScopeKey identity scopeFingerprint
  pure ((ordered (table.rows.filter fun row =>
    row.selected scope scopeFingerprint && row.isAfter after)).take limit)

/-! ## Batches -/

/-- A rendered context: the hash of its artifact and the bytes of the prompt data. -/
structure Rendering where
  contextHash : String
  bytes : Nat
  deriving DecidableEq

/-- What reads the files: the index of the AST manifest, `prepare_file_context` of a path, and
the context and prompt data of candidates of a prepared path. -/
structure FileContexts where
  index : Except PyError Unit
  prepare : String → Except PyError Unit
  render : String → List StaticCandidate → Except PyError Rendering

/-- `CandidateBatch`. -/
structure CandidateBatch where
  batchId : String
  scopeFingerprint : String
  path : String
  candidateIds : List String
  candidates : List StaticCandidate
  contextHash : String
  promptBytes : Nat
  maxPromptBytes : Nat

/-- Why the iteration raises. -/
inductive BatchError where
  | contextOverflow (candidateIds : List String)
  | other (reason : PyError)
  deriving DecidableEq

/-- `MAX_CANDIDATES_PER_BATCH`. -/
def maxCandidatesPerBatch : Nat := 16

/-- `PROMPT_HEADROOM_BYTES`. -/
def promptHeadroomBytes : Nat := 4096

/-- What a batch is made for. -/
structure BatchScope where
  sha256 : List Char → String
  files : FileContexts
  scopeFingerprint : String
  maxPromptBytes : Nat

/-- `candidate_batch_id`. -/
def candidateBatchId (sha256 : List Char → String) (scopeFingerprint path : String)
    (candidateIds : List String) (contextHash : String) : String :=
  sha256 (Json.obj
    [("kind", .str "simple_candidate_batch_v1"), ("scope_fingerprint", .str scopeFingerprint),
      ("path", .str path), ("candidate_ids", .arr (candidateIds.map .str)),
      ("shared_context_hash", .str contextHash)]).sorted.text

/-- `_assemble_batch`. -/
def assembleBatch (scope : BatchScope) (path : String) (candidates : List StaticCandidate) :
    Except BatchError CandidateBatch :=
  match scope.files.render path candidates with
  | .error reason => .error (.other reason)
  | .ok rendering =>
      let candidateIds := candidates.map (·.candidateId)
      if promptHeadroomBytes + rendering.bytes > scope.maxPromptBytes then
        .error (.contextOverflow candidateIds)
      else
        .ok {
          batchId := candidateBatchId scope.sha256 scope.scopeFingerprint path candidateIds
            rendering.contextHash
          scopeFingerprint := scope.scopeFingerprint
          path
          candidateIds
          candidates
          contextHash := rendering.contextHash
          promptBytes := promptHeadroomBytes + rendering.bytes
          maxPromptBytes := scope.maxPromptBytes }

/-! ## Iteration -/

/-- The state of the loop, with the batches that it yielded. -/
structure Packing where
  yielded : List CandidateBatch := []
  prepared : Option String := none
  pending : List StaticCandidate := []
  current : Option CandidateBatch := none

/-- How the iteration ends. -/
inductive BatchEnd where
  | exhausted
  | raised (reason : BatchError)
  deriving DecidableEq

/-- What the iteration yields, and how it ends. -/
structure Generated where
  yielded : List CandidateBatch
  ending : BatchEnd

/-- Raise behind what was yielded. -/
def raiseBehind {α : Type} (yielded : List CandidateBatch) (reason : BatchError) :
    Except Generated α :=
  .error ⟨yielded, .raised reason⟩

/-- Yield the batch of the path before, and prepare the path of a candidate. -/
def enterPath (scope : BatchScope) (state : Packing) (path : String) : Except Generated Packing :=
  if state.prepared = some path then .ok state
  else
    let yielded := state.yielded ++ state.current.toList
    match scope.files.prepare path with
    | .error reason => raiseBehind yielded (.other reason)
    | .ok () => .ok { yielded, prepared := some path, pending := [], current := none }

/-- Yield a full batch. -/
def makeRoom (state : Packing) : Except Generated Packing :=
  if state.pending.length ≥ maxCandidatesPerBatch then
    match state.current with
    | none =>
        raiseBehind state.yielded (.other (.runtimeError "CANDIDATE_BATCH_INTERNAL_MISSING"))
    | some batch =>
        .ok { state with yielded := state.yielded ++ [batch], pending := [], current := none }
  else .ok state

/-- Add a candidate to the pending ones, or yield their batch and start with the candidate. -/
def propose (scope : BatchScope) (state : Packing) (candidate : StaticCandidate) :
    Except Generated Packing :=
  match assembleBatch scope candidate.path (state.pending ++ [candidate]) with
  | .ok batch =>
      .ok { state with pending := state.pending ++ [candidate], current := some batch }
  | .error (.other reason) => raiseBehind state.yielded (.other reason)
  | .error (.contextOverflow _) =>
      match state.current with
      | none => raiseBehind state.yielded (.contextOverflow [candidate.candidateId])
      | some batch =>
          match assembleBatch scope candidate.path [candidate] with
          | .error reason => raiseBehind (state.yielded ++ [batch]) reason
          | .ok alone =>
              .ok { state with
                yielded := state.yielded ++ [batch]
                pending := [candidate]
                current := some alone }

/-- One turn of the loop over a page. -/
def packCandidate (scope : BatchScope) (state : Packing) (candidate : StaticCandidate) :
    Except Generated Packing := do
  let entered ← enterPath scope state candidate.path
  let roomy ← makeRoom entered
  propose scope roomy candidate

/-- Yield the last batch. -/
def finishPacking (state : Packing) : Generated :=
  ⟨state.yielded ++ state.current.toList, .exhausted⟩

/-- The loop over the pages, for at most a number of rounds. -/
def packPages (scope : BatchScope)
    (page : Option (String × String) → Except PyError (List StaticCandidate)) :
    Nat → Option (String × String) → Packing → Option Generated
  | 0, _, _ => none
  | rounds + 1, after, state =>
      match page after with
      | .error reason => some ⟨state.yielded, .raised (.other reason)⟩
      | .ok rows =>
          match rows.getLast? with
          | none => some (finishPacking state)
          | some last =>
              match rows.foldlM (packCandidate scope) state with
              | .error raised => some raised
              | .ok next => packPages scope page rounds (some (last.path, last.candidateId)) next

/-- The arguments of `iter_candidate_batches`. -/
structure BatchCall where
  identity : CheckpointIdentity
  scope : BatchScope
  contextVersion : Nat

/-- `iter_candidate_batches`; there is nothing when the rounds do not suffice. -/
def iterCandidateBatches (table : CandidateTable) (call : BatchCall) (dbPageSize : Nat) :
    Option Generated :=
  if call.scope.maxPromptBytes < 1024 ∨ dbPageSize < 1 ∨
      call.contextVersion ∉ [1, 2, 3, 4, 5] then
    some ⟨[], .raised (.other (.valueError "CANDIDATE_BATCH_BUDGET_INVALID"))⟩
  else
    match call.scope.files.index with
    | .error reason => some ⟨[], .raised (.other reason)⟩
    | .ok () =>
        packPages call.scope
          (fun after => listCandidateBatchPage table call.identity call.scope.scopeFingerprint
            after dbPageSize)
          (table.rows.length + 1) none {}

end Sastsimi.Candidates
