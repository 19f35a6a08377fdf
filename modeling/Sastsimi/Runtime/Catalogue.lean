import Mathlib.Data.Finset.Sort
import Mathlib.Data.String.Basic
import Sastsimi.Lib.Paging
import Sastsimi.Runtime.Store

/-!
# The hypothesis catalogue

`simple_candidate_hypotheses` of one scope, the registrations that add a hypothesis and its
pending first stage, and `list_incomplete_hypotheses`, which pages the hypotheses that are not
finished.
-/

namespace Sastsimi.Runtime

open SimpleStage Lib

variable [Platform]

/-! ## The table -/

/-- The other columns of a row of `simple_candidate_hypotheses`. -/
structure HypothesisRow where
  hypothesisRef : Option StoredDataRef
  chainDepth : Int
  parentHypothesisIds : List String
  deriving DecidableEq

/-- `simple_candidate_hypotheses` of one scope, by its primary key. -/
structure HypothesisTable where
  rows : String → Option HypothesisRow
  ids : Finset String
  listed : ∀ id, id ∈ ids ↔ rows id ≠ none

namespace HypothesisTable

/-- A table without rows. -/
def empty : HypothesisTable := ⟨fun _ => none, ∅, by simp⟩

/-- Insert a row or update it. -/
def put (table : HypothesisTable) (id : String) (row : HypothesisRow) : HypothesisTable where
  rows := Function.update table.rows id (some row)
  ids := insert id table.ids
  listed := by
    intro other
    rw [Finset.mem_insert, Function.update_apply, table.listed]
    split <;> simp_all

/-- The identifiers in the order of the primary key. -/
def ordered (table : HypothesisTable) : List String := table.ids.sort

end HypothesisTable

/-! ## Registration -/

/-- The characters `str.strip` removes. -/
def isSpace (char : Char) : Bool :=
  let code := char.toNat
  9 ≤ code && code ≤ 13 || 28 ≤ code && code ≤ 32 || code == 0x85 || code == 0xa0
    || code == 0x1680 || 0x2000 ≤ code && code ≤ 0x200a || code == 0x2028 || code == 0x2029
    || code == 0x202f || code == 0x205f || code == 0x3000

/-- `not text.strip()`. -/
def isBlank (text : String) : Bool := text.toList.all isSpace

/-- The identity of one hypothesis of a scope. -/
def CheckpointIdentity.child (scope : CheckpointIdentity) (hypothesisId : String) :
    CheckpointIdentity :=
  { scope with hypothesisId := some hypothesisId }

/-- `_candidate_ref_json`: a reference may be linked when it names an artifact of the scope. -/
def candidateRef (scope : CheckpointIdentity) (ref : Option StoredDataRef) :
    Except PyError (Option StoredDataRef) :=
  match ref with
  | none => .ok none
  | some ref =>
      if ref.workspaceId ≠ scope.workspaceId
          ∨ ref.commitId ≠ scope.commitId
          ∨ ref.recordId ≠ none
          ∨ ref.dataKind ≠ "artifact"
          ∨ ref.storedDataId ≠ ref.contentHash then
        .error (.valueError "CANDIDATE_REF_SCOPE_MISMATCH")
      else .ok (some ref)

/-- The checks on a hypothesis identifier and its chain. -/
def hypothesisIdInvalid (hypothesisId : String) (row : HypothesisRow) : Bool :=
  isBlank hypothesisId
    || decide (row.chainDepth < 0)
    || decide (hypothesisId ∈ row.parentHypothesisIds)
    || decide (¬ row.parentHypothesisIds.Nodup)

/-- `upsert_hypothesis`, on the table. -/
def upsertHypothesis (table : HypothesisTable) (scope : CheckpointIdentity)
    (hypothesisId : String) (row : HypothesisRow) : Except PyError HypothesisTable := do
  raiseIf (scope.hypothesisId ≠ none) (.valueError "CANDIDATE_HYPOTHESIS_SCOPE_INVALID")
  raiseIf (hypothesisIdInvalid hypothesisId row) (.valueError "CANDIDATE_HYPOTHESIS_ID_INVALID")
  let ref ← candidateRef scope row.hypothesisRef
  match table.rows hypothesisId with
  | none => pure (table.put hypothesisId { row with hypothesisRef := ref })
  | some stored => do
      raiseIf (stored.hypothesisRef ≠ none ∧ stored.hypothesisRef ≠ ref)
        (.valueError "CANDIDATE_HYPOTHESIS_REF_CONFLICT")
      raiseIf
        ((stored.chainDepth, stored.parentHypothesisIds)
            ≠ (row.chainDepth, row.parentHypothesisIds)
          ∧ (stored.chainDepth ≠ 0 ∨ stored.parentHypothesisIds ≠ []))
        (.valueError "CANDIDATE_HYPOTHESIS_METADATA_CONFLICT")
      pure (table.put hypothesisId
        { row with hypothesisRef := stored.hypothesisRef.or ref })

/-- The checks both registrations make on a row before they read the table. -/
def checkRegistration (scope : CheckpointIdentity) (hypothesisId : String)
    (row : HypothesisRow) : Except PyError HypothesisRow := do
  let ref ← candidateRef scope row.hypothesisRef
  raiseIf (hypothesisIdInvalid hypothesisId row) (.valueError "CANDIDATE_HYPOTHESIS_ID_INVALID")
  pure { row with hypothesisRef := ref }

/-- The row part of both registrations: a new row, or one that agrees with the stored row. -/
def registerRow (table : HypothesisTable) (hypothesisId : String) (row : HypothesisRow) :
    Except PyError HypothesisTable :=
  match table.rows hypothesisId with
  | none => pure (table.put hypothesisId row)
  | some stored => do
      raiseIf
        (stored.hypothesisRef ≠ none ∧ stored.hypothesisRef ≠ row.hypothesisRef
          ∨ (stored.chainDepth, stored.parentHypothesisIds)
            ≠ (row.chainDepth, row.parentHypothesisIds))
        (.valueError "CANDIDATE_HYPOTHESIS_REF_CONFLICT")
      pure (table.put hypothesisId
        { stored with hypothesisRef := stored.hypothesisRef.or row.hypothesisRef })

/-- `_insert_pending_pro_con_connection`. -/
def insertPendingProCon (db : Database) (scope : CheckpointIdentity) (hypothesisId : String)
    (hypothesisRef : StoredDataRef) (checkpoint : StageCheckpoint) :
    Except PyError Database := do
  let child := scope.child hypothesisId
  raiseIf
    (checkpoint.identity ≠ child
      ∨ checkpoint.stage ≠ proConDone
      ∨ checkpoint.stageVersion ≠ proConDone.stageVersion
      ∨ checkpoint.status ≠ .pending
      ∨ checkpoint.inputRefs.head? ≠ some hypothesisRef
      ∨ checkpoint.inputHash ≠ inputReferenceHash checkpoint.inputRefs)
    (.valueError "CANDIDATE_HYPOTHESIS_CHECKPOINT_INVALID")
  match db.checkpoints (child.key proConDone) with
  | none => pure (db.upsertCheckpoint checkpoint)
  | some existing => do
      raiseIf
        (existing.identity ≠ child
          ∨ existing.inputRefs ≠ checkpoint.inputRefs
          ∨ existing.inputHash ≠ checkpoint.inputHash)
        (.valueError "CANDIDATE_HYPOTHESIS_CHECKPOINT_CONFLICT")
      pure db

/-- `_register_free_hypothesis_connection`. -/
def registerFreeHypothesis (db : Database) (table : HypothesisTable)
    (scope : CheckpointIdentity) (hypothesisId : String) (hypothesisRef : StoredDataRef)
    (checkpoint : StageCheckpoint) (chainDepth : Int) (parents : List String) :
    Except PyError (Database × HypothesisTable) := do
  raiseIf (scope.hypothesisId ≠ none) (.valueError "CANDIDATE_HYPOTHESIS_SCOPE_INVALID")
  let row ← checkRegistration scope hypothesisId ⟨some hypothesisRef, chainDepth, parents⟩
  let table ← registerRow table hypothesisId row
  let db ← insertPendingProCon db scope hypothesisId hypothesisRef checkpoint
  pure (db, table)

/-- `_register_candidate_hypothesis_connection`, given the stored decision on its candidate. -/
def registerCandidateHypothesis (db : Database) (table : HypothesisTable)
    (scope : CheckpointIdentity) (scopeFingerprint : String) (decision : Option String)
    (hypothesisId : String)
    (hypothesisRef : StoredDataRef) (checkpoint : Option StageCheckpoint) (chainDepth : Int)
    (parents : List String) : Except PyError (Database × HypothesisTable) := do
  raiseIf (scope.hypothesisId ≠ none ∨ isBlank scopeFingerprint)
    (.valueError "CANDIDATE_SCOPE_INVALID")
  let row ← checkRegistration scope hypothesisId ⟨some hypothesisRef, chainDepth, parents⟩
  raiseIf (decision ≠ some "INCLUDE" ∧ decision ≠ some "UNDECIDED")
    (.valueError "CANDIDATE_HYPOTHESIS_LINK_INVALID")
  let table ← registerRow table hypothesisId row
  match checkpoint with
  | none => pure (db, table)
  | some checkpoint => do
      let db ← insertPendingProCon db scope hypothesisId hypothesisRef checkpoint
      pure (db, table)

/-! ## Incomplete hypotheses -/

/-- The artifact repository the store opens for an identity, when it has a data directory. -/
abbrev ArtifactDirectory : Type := Option (CheckpointIdentity → SimpleArtifactRepository)

/-- `except (OSError, ValueError, sqlite3.Error): return None`. -/
def evidenceOrNone {α : Type} (verified : Except PyError (Option α)) :
    Except PyError (Option α) :=
  match verified with
  | .ok outcome => .ok outcome
  | .error reason => if reason.isEvidenceError then .ok none else .error reason

/-- `SimpleCheckpointStore.verified_terminal_initial_outcome`. -/
def storeVerifiedInitial (artifacts : ArtifactDirectory) (checkpoint : Option StageCheckpoint) :
    Except PyError (Option TerminalOutcome) :=
  match terminalInitialOutcome checkpoint, artifacts, checkpoint with
  | some _, some open_, some checkpoint =>
      evidenceOrNone ((open_ checkpoint.identity).verifiedTerminalInitialOutcome checkpoint)
  | _, _, _ => .ok none

/-- `SimpleCheckpointStore.verified_terminal_poc_outcome`. -/
def storeVerifiedPoc (artifacts : ArtifactDirectory) (checkpoint : Option StageCheckpoint) :
    Except PyError (Option TerminalOutcome) :=
  match terminalPocOutcome checkpoint, artifacts, checkpoint with
  | some _, some open_, some checkpoint =>
      evidenceOrNone ((open_ checkpoint.identity).verifiedTerminalPocOutcome checkpoint)
  | _, _, _ => .ok none

/-- The stored checkpoints of one hypothesis. -/
def hypothesisRows (db : Database) (scope : CheckpointIdentity) (hypothesisId : String) :
    List StageCheckpoint :=
  stageOrder.filterMap fun stage => db.checkpoints ⟨scope.analysisId, hypothesisId, stage⟩

/-- The successful checkpoint of a stage in its current version. -/
def currentSuccess (rows : List StageCheckpoint) (stage : SimpleStage) :
    Option StageCheckpoint :=
  rows.find? fun checkpoint =>
    decide (checkpoint.stage = stage)
      && decide (checkpoint.status = .succeeded)
      && decide (checkpoint.stageVersion = checkpoint.stage.stageVersion)

/-- A checkpoint of an earlier stage version. -/
def StageCheckpoint.isStale (checkpoint : StageCheckpoint) : Bool :=
  decide (checkpoint.stage ∈ hypothesisStages)
    && decide (checkpoint.stageVersion ≠ checkpoint.stage.stageVersion)

/-- Whether a page of incomplete hypotheses lists this one. -/
def isIncomplete (db : Database) (scope : CheckpointIdentity) (artifacts : ArtifactDirectory)
    (hypothesisId : String) : Except PyError Bool := do
  let rows := hypothesisRows db scope hypothesisId
  raiseIf (rows.any fun checkpoint => checkpoint.identity ≠ scope.child hypothesisId)
    (.valueError "CANDIDATE_HYPOTHESIS_CHECKPOINT_CORRUPT")
  let staleStage := rows.any (·.isStale)
  let stalePocOrDownstream := rows.any fun checkpoint =>
    checkpoint.isStale && decide (pocExecutionDone.index ≤ checkpoint.stage.index)
  let final := currentSuccess rows verificationFinalDone
  let verifiedPoc ← storeVerifiedPoc artifacts (currentSuccess rows pocExecutionDone)
  let verifiedInitial ←
    storeVerifiedInitial artifacts (currentSuccess rows verificationInitialDone)
  let terminal :=
    verifiedInitial.isSome
      || verifiedPoc.isSome
      || (final.bind (·.verdict)) = some .isFalse
      || (final.bind (·.verdict)) = some .hold && (currentSuccess rows chainingDone).isSome
      || (terminalGateOutcome (currentSuccess rows techGateDone)).isSome
      || (currentSuccess rows reportDone).isSome
  pure (staleStage && !(verifiedPoc.isSome && !stalePocOrDownstream) || !terminal)

/-- `list_incomplete_hypotheses`. -/
def listIncompleteHypotheses (db : Database) (table : HypothesisTable)
    (scope : CheckpointIdentity) (artifacts : ArtifactDirectory) (afterId : Option String)
    (limit : Int) : Except PyError (List String) := do
  raiseIf (scope.hypothesisId ≠ none) (.valueError "CANDIDATE_HYPOTHESIS_SCOPE_INVALID")
  raiseIf (limit ≤ 0) (.valueError "CANDIDATE_PAGE_ARGUMENT_INVALID")
  readPage table.ordered (isIncomplete db scope artifacts) limit.toNat (max 32 limit.toNat)
    (afterId.getD "")

end Sastsimi.Runtime
