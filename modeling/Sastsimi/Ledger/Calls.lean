import Sastsimi.Lib.Json
import Sastsimi.Lib.Table
import Sastsimi.Runtime.CandidateBatch

/-!
# The call ledger

The tables in which `simple_runtime/store.py` records what a model was asked: a row for each
attempt, a row for each reserved Codex process with its status, and a row for each child the
process spawns.  Every operation is one transaction.  It returns its answer with the ledger
after the commit, or raises and leaves the ledger alone.

Moments count microseconds from the first day of the calendar, as `datetime` does, and a column
that holds JSON text is the value that was encoded.  Costs are rational numbers.
-/

namespace Sastsimi.Ledger

open Lib Sastsimi.Runtime

/-! ## Rows -/

/-- A row of `simple_llm_attempts`. -/
structure AttemptRow where
  attemptId : String
  analysisId : String
  agent : String
  model : String
  attemptNumber : Int
  status : String
  elapsedMs : Int
  inputTokens : Option Int
  outputTokens : Option Int
  costCents : Option Rat
  artifactRef : StoredDataRef
  deriving DecidableEq

/-- `AttemptOwner`. -/
structure AttemptOwner where
  analysisId : String
  stage : String
  candidateIds : List String := []
  hypothesisId : Option String := none
  surfaceId : Option String := none
  filePath : Option String := none
  batchId : Option String := none
  contextId : Option String := none
  checkpointAttemptId : Option String := none
  deriving DecidableEq

/-- `PromptByteCounts`. -/
structure PromptByteCounts where
  rawSourceBytes : Option Nat := none
  sharedContextBytes : Option Nat := none
  candidateSpecificBytes : Option Nat := none
  fixedPromptBytes : Option Nat := none
  deriving DecidableEq

/-- A row of `simple_llm_attempt_metadata`. -/
structure AttemptMetadata where
  attemptId : String
  analysisId : String
  owner : Option AttemptOwner
  retryOf : Option String
  promptBytes : PromptByteCounts
  deriving DecidableEq

/-- The statuses the column of `simple_codex_calls` admits. -/
inductive CallStatus where
  | inFlight
  | safe
  | confirmed
  deriving DecidableEq

/-- A row of `simple_codex_calls`. -/
structure CallRow where
  callId : String
  analysisId : String
  status : CallStatus
  startedAt : Nat
  resolvedAt : Option Nat := none
  confirmationRef : Option StoredDataRef := none
  deriving DecidableEq

/-- The row of a call whose attempt is recorded. -/
def CallRow.safeAt (call : CallRow) (now : Nat) : CallRow :=
  { call with status := .safe, resolvedAt := some now }

/-- The row of a call that a document confirms. -/
def CallRow.confirmedBy (call : CallRow) (now : Nat) (confirmation : StoredDataRef) : CallRow :=
  { call with
    status := .confirmed
    resolvedAt := some now
    confirmationRef := some confirmation }

/-- The statuses the column of `simple_codex_child_spawns` admits. -/
inductive ChildStatus where
  | spawning
  | captured
  | exited
  deriving DecidableEq

/-- A row of `simple_codex_child_spawns`. -/
structure ChildRow where
  callId : String
  analysisId : String
  phase : String
  status : ChildStatus
  pid : Option Int := none
  startIdentity : Option String := none
  deriving DecidableEq

/-- The primary key of `simple_codex_child_spawns`. -/
def ChildRow.key (row : ChildRow) : String × String := (row.callId, row.phase)

theorem ChildRow.key_exited (row : ChildRow) :
    { row with status := .exited : ChildRow }.key = row.key := rfl

/-- A row of `simple_codex_call_versions`. -/
structure VersionRow where
  callId : String
  analysisId : String
  candidatePipelineVersion : Int
  deriving DecidableEq

/-- A row of `simple_codex_orphaned_calls`, as far as a retry reads it. -/
structure OrphanRow where
  callId : String
  analysisId : String
  surfaceId : String
  contextId : String
  filePath : String
  model : String
  orphanedAt : Nat
  deriving DecidableEq

/-- `SimpleAnalysisRun`, as far as the ledger reads it. -/
structure SimpleAnalysisRun where
  analysisId : String
  workspaceId : String
  commitId : String
  provider : Option String := none
  model : Option String := none
  llmProvider : Option String := none
  startedAt : Option Nat := none
  candidatePipelineVersion : Option Int := none
  deriving DecidableEq

/-- What the document that confirms a call without children says. -/
structure PreSpawnConfirmation where
  analysisId : String
  workspaceId : String
  commitId : String
  callId : String
  callStartedAt : String
  confirmedAt : String

/-- The document that confirms a call without children. -/
def PreSpawnConfirmation.document (confirmation : PreSpawnConfirmation) : Json :=
  .obj
    [("kind", .str "simple_codex_pre_spawn_confirmation"),
      ("analysis_id", .str confirmation.analysisId),
      ("workspace_id", .str confirmation.workspaceId),
      ("commit_id", .str confirmation.commitId),
      ("call_id", .str confirmation.callId),
      ("call_started_at", .str confirmation.callStartedAt),
      ("confirmed_at", .str confirmation.confirmedAt),
      ("candidate_pipeline_version", .int 2),
      ("child_spawn_rows", .int 0),
      ("llm_attempt_rows", .int 0)]

variable [Platform]

/-- The tables of the ledger, with the tables of checkpoints and activity beside it. -/
structure CallLedger where
  db : Database
  runs : String → Option SimpleAnalysisRun
  attempts : Table AttemptRow.attemptId := .empty
  metadata : Table AttemptMetadata.attemptId := .empty
  calls : Table CallRow.callId := .empty
  children : Table ChildRow.key := .empty
  versions : Table VersionRow.callId := .empty
  orphans : Table OrphanRow.callId := .empty
  dashboard : Option (String → Option DashboardMark) := none

/-- The files of the artifact repositories: a reference names one content, and the document that
confirms a call without children is read back. -/
structure ArtifactFiles where
  read : StoredDataRef → Option Json
  putJson : PreSpawnConfirmation → StoredDataRef
  read_put : ∀ confirmation, read (putJson confirmation) = some confirmation.document

namespace CallLedger

variable (ledger : CallLedger)

/-- `mark_index_dirty_connection`. -/
def markDashboardDirty (analysisId marker : String) : CallLedger :=
  { ledger with
    dashboard := ledger.dashboard.map fun rows =>
      Function.update rows analysisId (some ⟨marker⟩) }

/-- The row the ledger holds for a call of an analysis. -/
def callOf (callId analysisId : String) : Option CallRow :=
  (ledger.calls.find callId).filter fun call => call.analysisId = analysisId

/-- The row of the call of an analysis that is in flight. -/
def inFlight (analysisId : String) : Option CallRow :=
  ledger.calls.rows.find? fun call =>
    decide (call.analysisId = analysisId) && decide (call.status = .inFlight)

/-- `unresolved_codex_call`. -/
def unresolvedCodexCall (analysisId : String) : Option String :=
  (ledger.inFlight analysisId).map (·.callId)

/-- The attempt an analysis recorded under an identifier. -/
def attemptOf (attemptId analysisId : String) : Option AttemptRow :=
  (ledger.attempts.find attemptId).filter fun attempt => attempt.analysisId = analysisId

/-! ## Attempts -/

/-- The row of `simple_llm_attempts`: inserted, or found unchanged. -/
def storeAttempt (attempt : AttemptRow) : Except PyError (Bool × CallLedger) :=
  match ledger.attempts.insert attempt with
  | some attempts => .ok (true, { ledger with attempts })
  | none =>
      if ledger.attempts.find attempt.attemptId = some attempt then .ok (false, ledger)
      else .error (.valueError "LLM_ATTEMPT_CONFLICT")

/-- The row of `simple_llm_attempt_metadata`: inserted, or found unchanged. -/
def storeMetadata (row : AttemptMetadata) : Except PyError (Bool × CallLedger) :=
  match ledger.metadata.insert row with
  | some metadata => .ok (true, { ledger with metadata })
  | none =>
      if ledger.metadata.find row.attemptId = some row then .ok (false, ledger)
      else .error (.valueError "LLM_ATTEMPT_CONFLICT")

/-- The call an attempt retries: the one named, or the single orphan of its surface context when
the attempt is a later Codex call. -/
def retryLineage (attempt : AttemptRow) (owner : Option AttemptOwner)
    (retryOf : Option String) : Except PyError (Option String) :=
  match retryOf, owner with
  | none, some owner =>
      match owner.surfaceId, owner.contextId with
      | some surfaceId, some contextId =>
          let orphans := ledger.orphans.rows.filter fun orphan =>
            decide (orphan.analysisId = attempt.analysisId)
              && decide (orphan.surfaceId = surfaceId)
              && decide (orphan.contextId = contextId)
          if owner.stage = "HYPOTHESIS_SURFACE" ∧ orphans ≠ []
              ∧ attempt.attemptId ∉ orphans.map (·.callId) then
            match ledger.callOf attempt.attemptId attempt.analysisId, orphans with
            | none, _ => .ok none
            | some call, [orphan] =>
                if owner.filePath ≠ some orphan.filePath ∨ orphan.model ≠ attempt.model
                    ∨ call.startedAt < orphan.orphanedAt then
                  .error (.valueError "CODEX_ORPHAN_RETRY_LINEAGE_INVALID")
                else .ok (some orphan.callId)
            | some _, _ => .error (.valueError "CODEX_ORPHAN_RETRY_LINEAGE_INVALID")
          else .ok none
      | _, _ => .ok none
  | retryOf, _ => .ok retryOf

/-- Describe an attempt, when its caller said anything about it. -/
def describeAttempt (attempt : AttemptRow) (owner : Option AttemptOwner)
    (retryOf : Option String) (promptBytes : Option PromptByteCounts) :
    Except PyError (Bool × CallLedger) :=
  if owner.isSome ∨ retryOf.isSome ∨ promptBytes.isSome then
    ledger.storeMetadata
      { attemptId := attempt.attemptId
        analysisId := attempt.analysisId
        owner, retryOf
        promptBytes := promptBytes.getD {} }
  else .ok (false, ledger)

/-- `record_llm_attempt`. -/
def recordLlmAttempt (attempt : AttemptRow) (owner : Option AttemptOwner)
    (retryOf : Option String) (promptBytes : Option PromptByteCounts) (marker : String) :
    Except PyError CallLedger := do
  raiseIf (∃ found ∈ owner, found.analysisId ≠ attempt.analysisId)
    (.valueError "LLM_ATTEMPT_OWNER_INVALID")
  let (inserted, recorded) ← ledger.storeAttempt attempt
  let retryOf ← recorded.retryLineage attempt owner retryOf
  let (annotated, described) ← recorded.describeAttempt attempt owner retryOf promptBytes
  pure (if inserted || annotated then described.markDashboardDirty attempt.analysisId marker
    else described)

/-! ## Calls -/

/-- The pipeline version that reserved a call, when its run has one. -/
def storeVersion (callId analysisId : String) : Except PyError (Table VersionRow.callId) :=
  match (ledger.runs analysisId).bind (·.candidatePipelineVersion) with
  | none => .ok ledger.versions
  | some candidatePipelineVersion =>
      required (ledger.versions.insert { callId, analysisId, candidatePipelineVersion })
        .sqliteError

/-- `begin_codex_call`. -/
def beginCodexCall (callId analysisId : String) (now : Nat) (marker : String) :
    Except PyError (Bool × CallLedger) := do
  raiseIf (callId = "" ∨ analysisId = "") (.valueError "CODEX_CALL_IDENTITY_INVALID")
  if (ledger.inFlight analysisId).isSome then pure (false, ledger)
  else
    let calls ← required
      (ledger.calls.insert { callId, analysisId, status := .inFlight, startedAt := now })
      .sqliteError
    let versions ← ledger.storeVersion callId analysisId
    pure (true, { ledger with calls, versions }.markDashboardDirty analysisId marker)

/-- `begin_codex_child_spawn`. -/
def beginCodexChildSpawn (callId analysisId phase : String) : Except PyError CallLedger := do
  raiseIf (phase ∉ ["VERSION", "LOGIN", "EXEC"]) (.valueError "CODEX_CHILD_IDENTITY_INVALID")
  raiseIf (∀ call ∈ ledger.callOf callId analysisId, call.status ≠ .inFlight)
    (.valueError "CODEX_CHILD_IDENTITY_INVALID")
  let children ← required
    (ledger.children.insert { callId, analysisId, phase, status := .spawning })
    (.valueError "CODEX_CHILD_IDENTITY_CONFLICT")
  pure { ledger with children }

/-- An update that must change exactly one child. -/
def settleChild (selects : ChildRow → Bool) (change : ChildRow → ChildRow)
    (keeps : ∀ row, (change row).key = row.key) : Except PyError CallLedger := do
  raiseIf (ledger.children.count selects ≠ 1) (.valueError "CODEX_CHILD_IDENTITY_CONFLICT")
  pure { ledger with children := ledger.children.update selects change keeps }

/-- `record_codex_child_spawn`. -/
def recordCodexChildSpawn (callId analysisId phase : String) (pid : Int)
    (startIdentity : String) : Except PyError CallLedger := do
  raiseIf (pid ≤ 0 ∨ startIdentity = "") (.valueError "CODEX_CHILD_IDENTITY_INVALID")
  ledger.settleChild
    (fun row => decide (row.callId = callId) && decide (row.analysisId = analysisId)
      && decide (row.phase = phase) && decide (row.status = .spawning))
    (fun row =>
      { row with status := .captured, pid := some pid, startIdentity := some startIdentity })
    fun _ => rfl

/-- `mark_codex_child_exited`. -/
def markCodexChildExited (callId analysisId phase : String) (pid : Int)
    (startIdentity : String) : Except PyError CallLedger :=
  ledger.settleChild
    (fun row => decide (row.callId = callId) && decide (row.analysisId = analysisId)
      && decide (row.phase = phase) && decide (row.pid = some pid)
      && decide (row.startIdentity = some startIdentity) && decide (row.status = .captured))
    (fun row => { row with status := .exited }) ChildRow.key_exited

/-- The rows of a call that is in flight: what every update of a status selects. -/
def selectsInFlight (callId analysisId : String) (call : CallRow) : Bool :=
  decide (call.callId = callId) && decide (call.analysisId = analysisId)
    && decide (call.status = .inFlight)

/-- `mark_codex_call_safe`. -/
def markCodexCallSafe (callId analysisId : String) (now : Nat) : Except PyError CallLedger := do
  let selects := fun call =>
    selectsInFlight callId analysisId call && (ledger.attemptOf callId analysisId).isSome
  raiseIf (ledger.calls.count selects ≠ 1) (.valueError "CODEX_CALL_SAFE_UNVERIFIED")
  pure
    { ledger with
      calls := ledger.calls.update selects
        (fun call => call.safeAt now) fun _ => rfl }

/-- Settle a call that is in flight by a confirmation, exactly once. -/
def confirmCall (callId analysisId : String) (now : Nat) (confirmation : StoredDataRef)
    (stale : PyError) : Except PyError CallLedger := do
  let selects := selectsInFlight callId analysisId
  raiseIf (ledger.calls.count selects ≠ 1) stale
  pure
    { ledger with
      calls := ledger.calls.update selects
        (fun call => call.confirmedBy now confirmation) fun _ => rfl }

/-! ## Calls that never spawned -/

/-- The attempt of a call without children. -/
def notSpawned (run : SimpleAnalysisRun) (callId : String) (confirmation : StoredDataRef) :
    AttemptRow where
  attemptId := callId
  analysisId := run.analysisId
  agent := "unknown"
  model := (textOr run.model none).getD "unknown"
  attemptNumber := 0
  status := "CODEX_NOT_SPAWNED"
  elapsedMs := 0
  inputTokens := some 0
  outputTokens := some 0
  costCents := some 0
  artifactRef := confirmation

/-- The call in flight was reserved by the pipeline of this run and left no trace of a child. -/
def Unspawned (run : SimpleAnalysisRun) (call : CallRow) (now : Nat) : Prop :=
  ((ledger.versions.find call.callId).filter fun version =>
      version.analysisId = run.analysisId).map (·.candidatePipelineVersion) = some 2
    ∧ ledger.runs run.analysisId = some run
    ∧ (∀ child ∈ ledger.children.rows, child.callId ≠ call.callId)
    ∧ ledger.attempts.find call.callId = none
    ∧ (∃ startedAt ∈ run.startedAt, startedAt ≤ call.startedAt)
    ∧ call.startedAt ≤ now

instance (run : SimpleAnalysisRun) (call : CallRow) (now : Nat) :
    Decidable (ledger.Unspawned run call now) :=
  inferInstanceAs (Decidable (_ ∧ _ ∧ _ ∧ _ ∧ _ ∧ _))

/-- `_reconcile_unspawned_codex_call_with_lease`. -/
def reconcileUnspawnedCodexCall (files : ArtifactFiles) (isoformat : Nat → String)
    (run : SimpleAnalysisRun) (sameDatabase : Bool) (now : Nat) :
    Except PyError (Bool × CallLedger) := do
  if run.candidatePipelineVersion ≠ some 2 ∨ run.provider ≠ some "codex"
      ∨ run.llmProvider ≠ some "codex" ∨ run.startedAt = none then
    pure (false, ledger)
  else
    raiseIf (sameDatabase = false) (.valueError "CODEX_PRE_SPAWN_DATABASE_MISMATCH")
    match ledger.inFlight run.analysisId with
    | none => pure (false, ledger)
    | some call =>
        if ¬ ledger.Unspawned run call now then pure (false, ledger)
        else
          let confirmation := files.putJson
            { analysisId := run.analysisId
              workspaceId := run.workspaceId
              commitId := run.commitId
              callId := call.callId
              callStartedAt := isoformat call.startedAt
              confirmedAt := isoformat now }
          let attempts ← required
            (ledger.attempts.insert (notSpawned run call.callId confirmation)) .sqliteError
          let confirmed ← { ledger with attempts }.confirmCall call.callId run.analysisId now
            confirmation (.valueError "CODEX_PRE_SPAWN_RECONCILIATION_STALE")
          pure (true, confirmed)

end CallLedger

end Sastsimi.Ledger
