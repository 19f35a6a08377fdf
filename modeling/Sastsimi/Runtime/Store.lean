import Sastsimi.Lib.Raising
import Sastsimi.Runtime.Checkpoint

/-!
# The checkpoint store

The durable tables of `simple_runtime/store.py` and the operations the runner commits on
them.  Every operation is one database transaction: it either fails and leaves the tables
alone, or returns its value with the tables after the commit.
-/

namespace Sastsimi.Runtime

open SimpleStage Lib

/-! ## Exceptions -/

/-- The Python exception classes the runtime distinguishes. -/
inductive PyError where
  | valueError (message : String)
  | lookupError (message : String)
  | runtimeError (message : String)
  | osError
  | sqliteError
  deriving DecidableEq, Repr

/-- `except ValueError`. -/
def PyError.isValueError : PyError → Bool
  | valueError _ => true
  | _ => false

/-- `except (OSError, ValueError, sqlite3.Error)`. -/
def PyError.isEvidenceError : PyError → Bool
  | valueError _ | osError | sqliteError => true
  | _ => false

/-- Python's `left or right` on optional texts: the empty text counts as missing. -/
def textOr (left right : Option String) : Option String :=
  match left with
  | none | some "" => right
  | some text => some text

/-! ## Tables -/

variable [Platform]

/-- The primary key of `simple_runtime_checkpoints`. -/
structure CheckpointKey where
  analysisId : String
  hypothesisKey : String
  stage : SimpleStage
  deriving DecidableEq, Repr

/-- `_hypothesis_key`. -/
def hypothesisKey (identity : CheckpointIdentity) : String :=
  identity.hypothesisId.getD ""

/-- The primary key of one stage of one identity. -/
def CheckpointIdentity.key (identity : CheckpointIdentity) (stage : SimpleStage) :
    CheckpointKey :=
  ⟨identity.analysisId, hypothesisKey identity, stage⟩

/-- The tables the runner reads and writes: checkpoints by key, and the append-only activity
events in insertion order.  Every row is stored under the key of its own content. -/
structure Database where
  checkpoints : CheckpointKey → Option StageCheckpoint
  activity : List AgentActivityEvent
  keyed : ∀ key checkpoint, checkpoints key = some checkpoint →
    checkpoint.identity.key checkpoint.stage = key

namespace Database

/-- A table without rows is keyed. -/
theorem no_rows (key : CheckpointKey) (checkpoint : StageCheckpoint)
    (found : (none : Option StageCheckpoint) = some checkpoint) :
    checkpoint.identity.key checkpoint.stage = key := by
  cases found

/-- `_upsert_checkpoint_connection`. -/
def upsertCheckpoint (db : Database) (checkpoint : StageCheckpoint) : Database :=
  { db with
    checkpoints :=
      Function.update db.checkpoints (checkpoint.identity.key checkpoint.stage)
        (some checkpoint)
    keyed := by
      intro key stored found
      rw [Function.update_apply] at found
      split at found
      · simp_all
      · exact db.keyed key stored found }

/-- Delete the checkpoints of an identity from `stage` on. -/
def deleteFrom (db : Database) (identity : CheckpointIdentity) (stage : SimpleStage) :
    Database :=
  { db with
    checkpoints := fun key =>
      if key.analysisId = identity.analysisId
          ∧ key.hypothesisKey = hypothesisKey identity
          ∧ stage.index ≤ key.stage.index then
        none
      else db.checkpoints key
    keyed := by
      intro key stored found
      split at found
      · cases found
      · exact db.keyed key stored found }

/-- `SimpleCheckpointStore.get`. -/
def get (db : Database) (identity : CheckpointIdentity) (stage : SimpleStage) :
    Option StageCheckpoint :=
  match db.checkpoints (identity.key stage) with
  | none => none
  | some checkpoint => if checkpoint.identity ≠ identity then none else some checkpoint

/-- `prior`: the stored checkpoints before a stage, in stage order. -/
def prior (db : Database) (identity : CheckpointIdentity) (stage : SimpleStage) :
    List (SimpleStage × StageCheckpoint) :=
  (stageOrder.take stage.index).filterMap fun item =>
    (db.get identity item).map fun checkpoint => (item, checkpoint)

/-- The nearest earlier stage that succeeded. -/
def nearestSuccess (db : Database) (identity : CheckpointIdentity) (stage : SimpleStage) :
    Option StageCheckpoint :=
  (stageOrder.take stage.index).reverse.findSome? fun item =>
    (db.get identity item).filter fun checkpoint => checkpoint.status = .succeeded

/-- `input_refs_for`. -/
def inputRefsFor (db : Database) (identity : CheckpointIdentity) (stage : SimpleStage) :
    List StoredDataRef :=
  match db.get identity stage with
  | some existing => existing.inputRefs
  | none => ((db.nearestSuccess identity stage).map (·.outputRefs)).getD []

/-- `reusable`. -/
def reusable (db : Database) (identity : CheckpointIdentity) (stage : SimpleStage)
    (inputRefs : List StoredDataRef) : Bool :=
  match db.get identity stage with
  | none => false
  | some checkpoint =>
      decide (checkpoint.status = .succeeded)
        && decide (checkpoint.stageVersion = stage.stageVersion)
        && decide (checkpoint.inputRefs = inputRefs)
        && decide (checkpoint.inputHash = inputReferenceHash inputRefs)

/-- `stage_activity`. -/
def stageActivity (db : Database) (identity : CheckpointIdentity) (stage : SimpleStage)
    (attemptId : String) : List AgentActivityEvent :=
  db.activity.filter fun event =>
    decide (event.analysisId = identity.analysisId)
      && decide (event.hypothesisId.getD "" = hypothesisKey identity)
      && decide (event.attemptId = attemptId)
      && decide (event.stage = stage.value)

/-- `has_stage_activity`. -/
def hasStageActivity (db : Database) (identity : CheckpointIdentity) (stage : SimpleStage)
    (attemptId : String) : Bool :=
  !(db.stageActivity identity stage attemptId).isEmpty

end Database

/-! ## Activity events -/

/-- `ROLE_BY_STAGE`. -/
def roleByStage : SimpleStage → String
  | staticDone => "Static Analysis Runtime"
  | hypothesisDone => "Hypothesis Agent"
  | proConDone => "Pro·Con Agents"
  | verificationInitialDone => "Verification Agent"
  | pocCandidateDone => "Dynamic Reproduction Agent"
  | pocExecutionDone => "Reproduction Runtime"
  | verificationFinalDone => "Verification Agent"
  | cweDone => "CWE Labeling Agent"
  | techGateDone => "Technical Gate Agent"
  | scopeGateDone => "Rule Scope Gate Agent"
  | primitiveAdmissionDone => "Primitive Admission Runtime"
  | chainingDone => "Chaining Agent"
  | findingDone => "Finding Runtime"
  | reportDone => "Reporter Agent"

/-- `_stage_sequence`. -/
def stageSequence (stage : SimpleStage) (offset : Nat) : Nat :=
  (stage.index + 1) * 100 + offset

/-- A text within the length bounds of its contract field. -/
def lengthWithin (least most : Nat) (text : String) : Bool :=
  least ≤ text.length && text.length ≤ most

/-- The field bounds and the `validate_public_event` validator of an activity event, for an
event without digests. -/
def validPublicEvent (event : AgentActivityEvent) : Bool :=
  lengthWithin 1 256 event.eventId
    && lengthWithin 1 128 event.analysisId
    && lengthWithin 1 256 event.workspaceId
    && lengthWithin 1 256 event.commitId
    && lengthWithin 1 256 event.attemptId
    && (event.inputRefs ++ event.outputRefs ++ event.toolResultRefs).all (fun ref =>
        ref.workspaceId = event.workspaceId && ref.commitId = event.commitId)
    && (match event.finishedAt with
        | some finished => decide (event.startedAt ≤ finished)
        | none => true)
    && ([some event.stage, some event.agentRole, some event.status, some event.summaryKo,
          event.toolName, event.provider, event.model, event.errorCode].reduceOption.all
        Platform.safeProviderText)

/-- The attempt an event of a checkpoint belongs to. -/
def StageCheckpoint.activityAttempt (checkpoint : StageCheckpoint) : String :=
  (textOr checkpoint.attemptId none).getD "checkpoint"

/-- The event `_lifecycle_event` builds. -/
def lifecycleRecord (checkpoint : StageCheckpoint) (kind : ActivityKind) (sequence : Nat)
    (status : StageStatus) (summaryKo : String) (outputRefs : List StoredDataRef)
    (errorCode : Option String) : AgentActivityEvent :=
  { eventId := Platform.sha256 (.activityEvent
      [checkpoint.identity.analysisId, hypothesisKey checkpoint.identity,
        checkpoint.activityAttempt, toString sequence, kind.value])
    analysisId := checkpoint.identity.analysisId
    workspaceId := checkpoint.identity.workspaceId
    commitId := checkpoint.identity.commitId
    hypothesisId := checkpoint.identity.hypothesisId
    stage := checkpoint.stage.value
    agentRole := roleByStage checkpoint.stage
    attemptId := checkpoint.activityAttempt
    sequence, kind
    status := status.value
    summaryKo
    inputRefs := checkpoint.inputRefs
    outputRefs, errorCode
    startedAt := checkpoint.updatedAt
    finishedAt := if kind = .stageStarted then none else some checkpoint.updatedAt }

/-- `_lifecycle_event`: the event, when it may be made public. -/
def lifecycleEvent (checkpoint : StageCheckpoint) (kind : ActivityKind) (sequence : Nat)
    (status : StageStatus) (summaryKo : String) (outputRefs : List StoredDataRef)
    (errorCode : Option String) : Except PyError AgentActivityEvent :=
  if validPublicEvent
      (lifecycleRecord checkpoint kind sequence status summaryKo outputRefs errorCode) then
    .ok (lifecycleRecord checkpoint kind sequence status summaryKo outputRefs errorCode)
  else .error (.valueError "AGENT_ACTIVITY_EVENT_INVALID")

/-- `AgentActivityStore.append_connection`: an event identifier names one event, and one
attempt uses a sequence number once. -/
def appendEvent (activity : List AgentActivityEvent) (event : AgentActivityEvent) :
    Except PyError (List AgentActivityEvent) :=
  match activity.find? (fun current => current.eventId = event.eventId) with
  | some current =>
      if current = event then .ok activity
      else .error (.valueError "AGENT_ACTIVITY_EVENT_CONFLICT")
  | none =>
      if activity.any fun current =>
          decide (current.analysisId = event.analysisId)
            && decide (current.hypothesisId.getD "" = event.hypothesisId.getD "")
            && decide (current.attemptId = event.attemptId)
            && decide (current.sequence = event.sequence) then
        .error (.valueError "AGENT_ACTIVITY_EVENT_CONFLICT")
      else .ok (activity ++ [event])

/-- Append several events in order. -/
def appendEvents (activity : List AgentActivityEvent) (events : List AgentActivityEvent) :
    Except PyError (List AgentActivityEvent) :=
  events.foldlM appendEvent activity

/-! ## Single-checkpoint writes -/

namespace Database

/-- `_write`: one checkpoint and its activity events in one transaction. -/
def write (db : Database) (checkpoint : StageCheckpoint)
    (activityEvents : List AgentActivityEvent) : Except PyError Database := do
  let activity ← appendEvents db.activity activityEvents
  pure { db.upsertCheckpoint checkpoint with activity }

/-- `save_checkpoint`. -/
def saveCheckpoint (db : Database) (checkpoint : StageCheckpoint) :
    Except PyError Database := do
  if checkpoint.status = .succeeded ∧ checkpoint.stage = proConDone then
    let event ← lifecycleEvent checkpoint .evidenceRecorded
      (stageSequence checkpoint.stage 10) .succeeded
      "Pro·Con Agent의 찬성·반대 근거를 연결했습니다." checkpoint.outputRefs none
    db.write checkpoint [event]
  else if checkpoint.status = .succeeded ∧ checkpoint.stage = verificationInitialDone then
    let event ← lifecycleEvent checkpoint .decisionRecorded
      (stageSequence checkpoint.stage 10) .succeeded
      "초기 검증 판정과 필요한 동적 재현 목적을 연결했습니다." checkpoint.outputRefs none
    db.write checkpoint [event]
  else
    db.write checkpoint []

/-- The checkpoint `mark_running` stores. -/
def runningCheckpoint (db : Database) (identity : CheckpointIdentity) (stage : SimpleStage)
    (inputRefs : List StoredDataRef) (attemptId : String)
    (inheritFrom : Option StageCheckpoint) (now : Nat) : StageCheckpoint :=
  let previous := db.get identity stage
  let reusableState := previous.or inheritFrom
  let recoveryRefs := (reusableState.map (·.recoveryDecisionRefs)).getD []
  let exactInputs := (inputRefs ++ recoveryRefs).eraseDups
  let attemptNumber :=
    match previous, inheritFrom with
    | some previous, _ => previous.attemptNumber + 1
    | none, some source =>
        if source.recoveryLineageId ≠ none then source.attemptNumber else 1
    | none, none => 1
  { identity, stage
    stageVersion := stage.stageVersion
    status := .running
    inputRefs := exactInputs
    inputHash := inputReferenceHash exactInputs
    attemptId := some attemptId
    attemptNumber
    gateRevisionCount := (reusableState.map (·.gateRevisionCount)).getD 0
    recoveryLineageId := reusableState.bind (·.recoveryLineageId)
    recoveryOriginStage := reusableState.bind (·.recoveryOriginStage)
    recoveryDecisionRefs := recoveryRefs
    recipeRef := reusableState.bind (·.recipeRef)
    imageDigest := reusableState.bind (·.imageDigest)
    containerId := reusableState.bind (·.containerId)
    updatedAt := now
    inputHashExact := rfl }

/-- `mark_running`. -/
def markRunning (db : Database) (identity : CheckpointIdentity) (stage : SimpleStage)
    (inputRefs : List StoredDataRef) (attemptId : String)
    (inheritFrom : Option StageCheckpoint) (now : Nat) :
    Except PyError (StageCheckpoint × Database) := do
  let checkpoint := db.runningCheckpoint identity stage inputRefs attemptId inheritFrom now
  let event ← lifecycleEvent checkpoint .stageStarted (stageSequence stage 1) .running
    "단계 실행을 시작했습니다." [] none
  let after ← db.write checkpoint [event]
  pure (checkpoint, after)

end Database

/-- The checkpoint `complete` stores: the recovery lineage ends at the stage it came from. -/
def StageCheckpoint.completed (checkpoint : StageCheckpoint) (result : StageResult)
    (now : Nat) : StageCheckpoint :=
  let updated : StageCheckpoint :=
    { checkpoint with
      status := .succeeded
      outputRefs := result.outputRefs
      errorCode := none
      retryable := false
      recipeRef := result.recipeRef.or checkpoint.recipeRef
      imageDigest := textOr result.imageDigest checkpoint.imageDigest
      containerId := textOr result.containerId checkpoint.containerId
      validatedPocRef := result.validatedPocRef
      externalPrerequisitesRef := result.externalPrerequisitesRef
      environmentBlockRef := result.environmentBlockRef
      reportRef := result.reportRef
      bundleManifestRef := result.bundleManifestRef
      bundleArchiveRef := result.bundleArchiveRef
      verdict := result.verdict
      gateDecision := result.gateDecision
      markdownPath := result.markdownPath
      updatedAt := now }
  if checkpoint.recoveryOriginStage = some checkpoint.stage then
    { updated with
      recoveryLineageId := none
      recoveryOriginStage := none
      recoveryDecisionRefs := [] }
  else updated

/-- The checkpoint `mark_failure` stores. -/
def StageCheckpoint.withFailure (checkpoint : StageCheckpoint) (failure : StageFailure)
    (status : StageStatus) (now : Nat) : StageCheckpoint :=
  { checkpoint with
    status
    outputRefs := failure.evidenceRefs
    errorCode := some failure.code
    retryable := failure.retryable
    updatedAt := now }

namespace Database

/-- `complete`. -/
def complete (db : Database) (checkpoint : StageCheckpoint) (result : StageResult)
    (now : Nat) : Except PyError (StageCheckpoint × Database) := do
  let completed := checkpoint.completed result now
  let finalSequence :=
    ((result.activityEvents.map (·.sequence)).max?.getD (stageSequence checkpoint.stage 1)) + 1
  let event ← lifecycleEvent completed .stageCompleted finalSequence .succeeded
    "단계 결과를 저장했습니다." result.outputRefs none
  let after ← db.write completed (result.activityEvents ++ [event])
  pure (completed, after)

/-- `mark_failure`. -/
def markFailure (db : Database) (checkpoint : StageCheckpoint) (failure : StageFailure)
    (status : StageStatus) (now : Nat) : Except PyError (StageCheckpoint × Database) := do
  raiseIf (status ≠ .blocked ∧ status ≠ .failed)
    (.valueError "SimpleRuntime failure status must be BLOCKED or FAILED")
  let failed := checkpoint.withFailure failure status now
  let kind := if status = .blocked then ActivityKind.stageBlocked else .stageFailed
  let event ← lifecycleEvent failed kind (stageSequence checkpoint.stage 99) status
    "단계가 완료되지 않아 중단했습니다." failure.evidenceRefs (some failure.code)
  let after ← db.write failed [event]
  pure (failed, after)

/-- `mark_recovery_exhausted`. -/
def markRecoveryExhausted (db : Database) (checkpoint : StageCheckpoint) (now : Nat) :
    Except PyError (StageCheckpoint × Database) := do
  let exhausted : StageCheckpoint :=
    { checkpoint with
      status := .blocked
      errorCode := some "RECOVERY_EXHAUSTED"
      retryable := false
      updatedAt := now }
  let event ← lifecycleEvent exhausted .stageBlocked (stageSequence exhausted.stage 100)
    .blocked
    ("자동 복구가 attempt " ++ toString exhausted.attemptNumber ++ "/"
      ++ toString maxRecoveryAttempts ++ "에서 종료됐습니다.")
    exhausted.outputRefs (some "RECOVERY_EXHAUSTED")
  let after ← db.write exhausted [event]
  pure (exhausted, after)

/-! ## Deleting and reseeding -/

/-- `invalidate_from`. -/
def invalidateFrom (db : Database) (identity : CheckpointIdentity) (stage : SimpleStage)
    (newInputs : List StoredDataRef) : Database :=
  if db.reusable identity stage newInputs then db else db.deleteFrom identity stage

/-- `replace_from`. -/
def replaceFrom (db : Database) (pending : StageCheckpoint) : Except PyError Database :=
  if pending.status ≠ .pending then .error (.valueError "REPLAY_CHECKPOINT_NOT_PENDING")
  else .ok ((db.deleteFrom pending.identity pending.stage).upsertCheckpoint pending)

end Database

/-! ## Recovery decisions -/

/-- `RecoveryAction`. -/
inductive RecoveryAction where
  | retryStage
  | rebuildEnvironment
  | replanEnvironment
  | regenerateInput
  | stop
  deriving DecidableEq, Repr

/-- The stored spelling of a recovery action. -/
def RecoveryAction.value : RecoveryAction → String
  | retryStage => "RETRY_STAGE"
  | rebuildEnvironment => "REBUILD_ENVIRONMENT"
  | replanEnvironment => "REPLAN_ENVIRONMENT"
  | regenerateInput => "REGENERATE_INPUT"
  | stop => "STOP"

/-- `RecoveryResolution`, with the action of its decision. -/
structure RecoveryResolution where
  action : RecoveryAction
  decisionRef : StoredDataRef
  deriving DecidableEq, Repr

/-- `_recovery_event`: a decision already recorded for this attempt is reused, otherwise it
takes the first free sequence number of the decision range. -/
def Database.recoveryEvent (db : Database) (failed : StageCheckpoint)
    (resolution : RecoveryResolution) : Except PyError AgentActivityEvent :=
  let base := stageSequence failed.stage 40
  let attemptId := failed.activityAttempt
  let rows := db.activity.filter fun event =>
    decide (event.analysisId = failed.identity.analysisId)
      && decide (event.hypothesisId.getD "" = hypothesisKey failed.identity)
      && decide (event.attemptId = attemptId)
      && decide (base ≤ event.sequence)
      && decide (event.sequence < base + 59)
  match rows.find? fun existing =>
      decide (existing.stage = failed.stage.value)
        && decide (existing.kind = .decisionRecorded)
        && decide (existing.outputRefs = [resolution.decisionRef]) with
  | some existing => .ok existing
  | none =>
      match (List.range 59).find? fun offset =>
          !(rows.any fun event => decide (event.sequence = base + offset)) with
      | none => .error (.valueError "RECOVERY_EVENT_SEQUENCE_EXHAUSTED")
      | some offset =>
          lifecycleEvent failed .decisionRecorded (base + offset) .blocked
            ("자동 복구 결정 " ++ resolution.action.value ++ " · attempt "
              ++ toString failed.attemptNumber ++ "/" ++ toString maxRecoveryAttempts)
            [resolution.decisionRef] failed.errorCode

/-- The lineage of a failed checkpoint: the one it carries, or a digest of the failure. -/
def StageCheckpoint.lineage (failed : StageCheckpoint) : String :=
  (textOr failed.recoveryLineageId none).getD
    (Platform.sha256 (.recoveryLineage failed.identity failed.stage.value
      failed.stageVersion failed.inputHash failed.errorCode))

/-- The checkpoint `prepare_recovery` seeds at the restart stage. -/
def StageCheckpoint.recoverySeed (failed : StageCheckpoint) (resolution : RecoveryResolution)
    (restartStage : SimpleStage) (restart : Option StageCheckpoint) (now : Nat) :
    StageCheckpoint :=
  let decisionRefs := (failed.recoveryDecisionRefs ++ [resolution.decisionRef]).eraseDups
  let originalInputs := (restart.map (·.inputRefs)).getD []
  let inputs :=
    (originalInputs ++ failed.inputRefs ++ failed.outputRefs ++ decisionRefs).eraseDups
  let rebuild :=
    resolution.action = .rebuildEnvironment ∨ resolution.action = .replanEnvironment
  { identity := failed.identity
    stage := restartStage
    stageVersion := restartStage.stageVersion
    status := .pending
    inputRefs := inputs
    inputHash := inputReferenceHash inputs
    attemptNumber := failed.attemptNumber
    gateRevisionCount := failed.gateRevisionCount
    recoveryLineageId := some failed.lineage
    recoveryOriginStage := some (failed.recoveryOriginStage.getD failed.stage)
    recoveryDecisionRefs := decisionRefs
    recipeRef := if rebuild then none else failed.recipeRef
    imageDigest := if rebuild then none else failed.imageDigest
    containerId := none
    updatedAt := now
    inputHashExact := rfl }

namespace Database

/-- `prepare_recovery`. -/
def prepareRecovery (db : Database) (failed : StageCheckpoint)
    (resolution : RecoveryResolution) (restartStage : SimpleStage) (now : Nat) :
    Except PyError (StageCheckpoint × Database) := do
  raiseIf (failed.status ≠ .blocked ∧ failed.status ≠ .failed)
    (.valueError "RECOVERY_CHECKPOINT_NOT_FAILED")
  raiseIf (resolution.action = .stop)
    (.valueError "RECOVERY_STOP_CANNOT_PREPARE")
  raiseIf (failed.stage.index < restartStage.index)
    (.valueError "RECOVERY_RESTART_STAGE_INVALID")
  let pending :=
    failed.recoverySeed resolution restartStage (db.get failed.identity restartStage) now
  let event ← db.recoveryEvent failed resolution
  let activity ← appendEvent db.activity event
  pure (pending,
    { (db.deleteFrom failed.identity restartStage).upsertCheckpoint pending with activity })

/-- `record_recovery_decision`. -/
def recordRecoveryDecision (db : Database) (failed : StageCheckpoint)
    (resolution : RecoveryResolution) : Except PyError Database := do
  let event ← db.recoveryEvent failed resolution
  let activity ← appendEvent db.activity event
  pure { db.upsertCheckpoint failed with activity }

/-- `record_recovery_stop`. -/
def recordRecoveryStop (db : Database) (failed : StageCheckpoint)
    (resolution : RecoveryResolution) (now : Nat) :
    Except PyError (StageCheckpoint × Database) := do
  raiseIf (resolution.action ≠ .stop)
    (.valueError "RECOVERY_STOP_ACTION_REQUIRED")
  let stopped : StageCheckpoint := { failed with retryable := false, updatedAt := now }
  let after ← db.recordRecoveryDecision stopped resolution
  pure (stopped, after)

/-! ## Gate revision -/

/-- The checkpoint `prepare_gate_revision` seeds. -/
def revisionSeed (gate candidate execution : StageCheckpoint) (now : Nat) :
    StageCheckpoint :=
  let inputs :=
    (gate.outputRefs ++ candidate.inputRefs ++ candidate.outputRefs
      ++ execution.outputRefs).eraseDups
  { identity := gate.identity
    stage := pocCandidateDone
    stageVersion := pocCandidateDone.stageVersion
    status := .pending
    inputRefs := inputs
    inputHash := inputReferenceHash inputs
    gateRevisionCount := gate.gateRevisionCount + 1
    recipeRef := candidate.recipeRef.or gate.recipeRef
    imageDigest := textOr candidate.imageDigest gate.imageDigest
    updatedAt := now
    inputHashExact := rfl }

/-- `prepare_gate_revision`. -/
def prepareGateRevision (db : Database) (gate : StageCheckpoint) (now : Nat) :
    Except PyError (StageCheckpoint × Database) :=
  if gate.stage ≠ techGateDone
      ∨ gate.stageVersion ≠ techGateDone.stageVersion
      ∨ gate.status ≠ .succeeded
      ∨ gate.gateDecision ≠ some .revise
      ∨ gate.outputRefs.length ≠ 1
      ∨ 2 ≤ gate.gateRevisionCount then
    .error (.valueError "GATE_REVISION_NOT_PREPARABLE")
  else
    let candidate := db.checkpoints (gate.identity.key pocCandidateDone)
    match db.checkpoints (gate.identity.key techGateDone) with
    | none =>
        match candidate with
        | some candidate =>
            if candidate.status = .pending
                ∧ candidate.gateRevisionCount = gate.gateRevisionCount + 1
                ∧ candidate.inputRefs ≠ []
                ∧ candidate.inputRefs.head? = gate.outputRefs.head? then
              .ok (candidate, db)
            else .error (.valueError "GATE_REVISION_STALE")
        | none => .error (.valueError "GATE_REVISION_STALE")
    | some current =>
        if current ≠ gate then .error (.valueError "GATE_REVISION_STALE")
        else
          match candidate, db.checkpoints (gate.identity.key pocExecutionDone) with
          | some candidate, execution =>
              if candidate.status ≠ .succeeded then
                .error (.valueError "GATE_REVISION_CANDIDATE_MISSING")
              else
                match execution with
                | some execution =>
                    if execution.status ≠ .succeeded then
                      .error (.valueError "GATE_REVISION_EXECUTION_MISSING")
                    else
                      let pending := revisionSeed gate candidate execution now
                      .ok (pending,
                        (db.deleteFrom gate.identity pocCandidateDone).upsertCheckpoint
                          pending)
                | none => .error (.valueError "GATE_REVISION_EXECUTION_MISSING")
          | none, _ => .error (.valueError "GATE_REVISION_CANDIDATE_MISSING")

end Database

/-! ## Terminal evidence and promotions -/

/-- `SimpleArtifactRepository`, as far as the runner asks it: what the content-addressed files
say about one checkpoint. -/
structure SimpleArtifactRepository where
  identity : CheckpointIdentity
  /-- The content checks of an early `HOLD`. -/
  initialEvidence : StageCheckpoint → Except PyError Unit
  /-- The content checks of a terminal PoC. -/
  pocEvidence : StageCheckpoint → Except PyError Unit
  /-- `build_initial_environment_block_from_checkpoint`. -/
  buildInitialEnvironmentBlock : StageCheckpoint → Except PyError (Option StoredDataRef)
  /-- `_verified_inconclusive_stop` over the events of the attempt. -/
  inconclusiveStop : List AgentActivityEvent → StageCheckpoint → Option StoredDataRef

namespace SimpleArtifactRepository

/-- `verified_terminal_initial_outcome`. -/
def verifiedTerminalInitialOutcome (artifacts : SimpleArtifactRepository)
    (checkpoint : StageCheckpoint) : Except PyError (Option TerminalOutcome) :=
  match terminalInitialOutcome (some checkpoint) with
  | none => .ok none
  | some outcome =>
      if checkpoint.identity ≠ artifacts.identity
          ∨ checkpoint.stageVersion ≠ verificationInitialDone.stageVersion then
        .error (.valueError "INITIAL_VERIFICATION_EVIDENCE_INVALID")
      else
        match artifacts.initialEvidence checkpoint with
        | .ok () => .ok (some outcome)
        | .error reason => .error reason

/-- `verified_terminal_poc_outcome`. -/
def verifiedTerminalPocOutcome (artifacts : SimpleArtifactRepository)
    (checkpoint : StageCheckpoint) : Except PyError (Option TerminalOutcome) :=
  match terminalPocOutcome (some checkpoint), checkpoint.pocStopDecisionRef with
  | none, none => .ok none
  | none, some _ => .error (.valueError "POC_STOP_EVIDENCE_INVALID")
  | some outcome, none =>
      match artifacts.pocEvidence checkpoint with
      | .ok () => .ok (some outcome)
      | .error reason => .error reason
  | some outcome, some _ =>
      if checkpoint.identity ≠ artifacts.identity then
        .error (.valueError "POC_STOP_EVIDENCE_INVALID")
      else
        match artifacts.pocEvidence checkpoint with
        | .ok () => .ok (some outcome)
        | .error reason => .error reason

end SimpleArtifactRepository

namespace Database

/-- `promote_initial_environment_inconclusive`. -/
def promoteInitialEnvironmentInconclusive (db : Database) (blocked : StageCheckpoint)
    (artifacts : SimpleArtifactRepository) (now : Nat) :
    Except PyError (StageCheckpoint × Database) := do
  raiseIf
    (blocked.stage ≠ verificationInitialDone
      ∨ blocked.stageVersion ≠ verificationInitialDone.stageVersion
      ∨ blocked.status ≠ .blocked
      ∨ ¬ (blocked.errorCode = some "POC_AUTO_BUNDLE_DOWNLOAD_FAILED"
          ∨ blocked.errorCode = some "RECOVERY_EXHAUSTED")
      ∨ blocked.attemptId = none
      ∨ blocked.attemptNumber < 1
      ∨ blocked.recipeRef ≠ none
      ∨ blocked.validatedPocRef ≠ none
      ∨ blocked.externalPrerequisitesRef ≠ none
      ∨ blocked.environmentBlockRef ≠ none
      ∨ artifacts.identity ≠ blocked.identity)
    (.valueError "INITIAL_ENVIRONMENT_INCONCLUSIVE_PROMOTION_INVALID")
  let built ← artifacts.buildInitialEnvironmentBlock blocked
  let block ← required built
    (.valueError "INITIAL_ENVIRONMENT_INCONCLUSIVE_EVIDENCE_INVALID")
  let completed : StageCheckpoint :=
    { blocked with
      status := .succeeded
      outputRefs := (blocked.outputRefs ++ [block]).eraseDups
      environmentBlockRef := some block
      verdict := some .hold
      errorCode := none
      retryable := false
      updatedAt := now }
  let verified ← artifacts.verifiedTerminalInitialOutcome completed
  let _ ← required verified
    (.valueError "INITIAL_ENVIRONMENT_INCONCLUSIVE_EVIDENCE_INVALID")
  raiseIf (db.checkpoints (blocked.identity.key blocked.stage) ≠ some blocked)
    (.valueError "INITIAL_ENVIRONMENT_INCONCLUSIVE_PROMOTION_STALE")
  let event ← lifecycleEvent completed .stageCompleted (stageSequence completed.stage 2)
    .succeeded "고정된 Python 배포본의 재현 환경 비호환을 검증된 미확정 상태로 기록했습니다."
    completed.outputRefs none
  let after ← db.write completed [event]
  pure (completed, after)

/-- The stop decision `_verified_inconclusive_stop` finds among the events of the attempt. -/
def verifiedInconclusiveStop (db : Database) (exhausted : StageCheckpoint)
    (artifacts : SimpleArtifactRepository) : Option StoredDataRef :=
  match exhausted.attemptId with
  | none => none
  | some attempt =>
      artifacts.inconclusiveStop
        (db.activity.filter fun event =>
          decide (event.analysisId = exhausted.identity.analysisId)
            && decide (event.hypothesisId.getD "" = hypothesisKey exhausted.identity)
            && decide (event.attemptId = attempt))
        exhausted

/-- An inconclusive execution that a verified recovery stop may make terminal. -/
def StoppedInconclusive (exhausted : StageCheckpoint)
    (artifacts : SimpleArtifactRepository) : Prop :=
  exhausted.errorCode = some "POC_INCONCLUSIVE"
    ∧ 1 ≤ exhausted.attemptNumber
    ∧ artifacts.identity = exhausted.identity

instance (exhausted : StageCheckpoint) (artifacts : SimpleArtifactRepository) :
    Decidable (StoppedInconclusive exhausted artifacts) :=
  inferInstanceAs (Decidable (_ ∧ _ ∧ _))

/-- `promote_inconclusive_execution`, as the runner calls it with an artifact repository. -/
def promoteInconclusiveExecution (db : Database) (exhausted : StageCheckpoint)
    (artifacts : SimpleArtifactRepository) (now : Nat) :
    Except PyError (StageCheckpoint × Database) := do
  raiseIf
    (exhausted.stage ≠ pocExecutionDone
      ∨ exhausted.stageVersion ≠ pocExecutionDone.stageVersion
      ∨ exhausted.status ≠ .blocked
      ∨ ¬ (exhausted.errorCode = some "RECOVERY_EXHAUSTED"
            ∧ maxRecoveryAttempts ≤ exhausted.attemptNumber
          ∨ StoppedInconclusive exhausted artifacts)
      ∨ exhausted.outputRefs.length ≠ 2
      ∨ exhausted.validatedPocRef ≠ none)
    (.valueError "POC_INCONCLUSIVE_PROMOTION_INVALID")
  raiseIf (db.checkpoints (exhausted.identity.key exhausted.stage) ≠ some exhausted)
    (.valueError "POC_INCONCLUSIVE_PROMOTION_STALE")
  let stopRef :=
    if StoppedInconclusive exhausted artifacts then
      db.verifiedInconclusiveStop exhausted artifacts
    else none
  raiseIf (StoppedInconclusive exhausted artifacts ∧ stopRef = none)
    (.valueError "POC_INCONCLUSIVE_STOP_UNVERIFIED")
  let completed : StageCheckpoint :=
    { exhausted with
      status := .succeeded
      verdict := some .hold
      errorCode := none
      retryable := false
      pocStopDecisionRef := stopRef
      updatedAt := now }
  let event ← lifecycleEvent completed .stageCompleted (stageSequence completed.stage 2)
    .succeeded
    (if stopRef ≠ none then
      "완료된 PoC 실행의 근거 부족과 복구 중단 결정을 미확정으로 기록했습니다."
    else "완료된 PoC 실행의 반복된 근거 부족을 미확정으로 기록했습니다.")
    completed.outputRefs none
  let after ← db.write completed [event]
  pure (completed, after)

end Database

end Sastsimi.Runtime
