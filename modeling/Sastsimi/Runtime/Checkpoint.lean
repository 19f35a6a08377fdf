import Mathlib.Logic.Function.Basic
import Mathlib.Data.List.Basic

/-!
# Stages and checkpoints of the simple runtime

The data model of `simple_runtime/models.py`: the fixed stage order with its stage versions,
the durable stage checkpoint, what a stage handler returns, and the three terminal outcomes.

Digests are values of an arbitrary function of what the source hashes, so no result depends
on SHA-256 beyond its being a function without empty values.
-/

namespace Sastsimi.Runtime

/-! ## References -/

/-- `StoredDataRef`. -/
structure StoredDataRef where
  storedDataId : String
  dataKind : String
  contentHash : String
  workspaceId : String
  commitId : String
  recordId : Option String
  deriving DecidableEq, Repr

/-- `CheckpointIdentity`. -/
structure CheckpointIdentity where
  analysisId : String
  workspaceId : String
  commitId : String
  hypothesisId : Option String
  deriving DecidableEq, Repr

/-! ## Stages -/

/-- `SimpleStage`, declared in the order of the source. -/
inductive SimpleStage where
  | staticDone
  | hypothesisDone
  | proConDone
  | verificationInitialDone
  | pocCandidateDone
  | pocExecutionDone
  | verificationFinalDone
  | cweDone
  | techGateDone
  | scopeGateDone
  | primitiveAdmissionDone
  | chainingDone
  | findingDone
  | reportDone
  deriving DecidableEq, Repr

namespace SimpleStage

/-- The stored spelling of a stage. -/
def value : SimpleStage → String
  | staticDone => "STATIC_DONE"
  | hypothesisDone => "HYPOTHESIS_DONE"
  | proConDone => "PRO_CON_DONE"
  | verificationInitialDone => "VERIFICATION_INITIAL_DONE"
  | pocCandidateDone => "POC_CANDIDATE_DONE"
  | pocExecutionDone => "POC_EXECUTION_DONE"
  | verificationFinalDone => "VERIFICATION_FINAL_DONE"
  | cweDone => "CWE_DONE"
  | techGateDone => "TECH_GATE_DONE"
  | scopeGateDone => "SCOPE_GATE_DONE"
  | primitiveAdmissionDone => "PRIMITIVE_ADMISSION_DONE"
  | chainingDone => "CHAINING_DONE"
  | findingDone => "FINDING_DONE"
  | reportDone => "REPORT_DONE"

/-- `STAGE_ORDER.index(stage)`. -/
def index : SimpleStage → Nat
  | staticDone => 0
  | hypothesisDone => 1
  | proConDone => 2
  | verificationInitialDone => 3
  | pocCandidateDone => 4
  | pocExecutionDone => 5
  | verificationFinalDone => 6
  | cweDone => 7
  | techGateDone => 8
  | scopeGateDone => 9
  | primitiveAdmissionDone => 10
  | chainingDone => 11
  | findingDone => 12
  | reportDone => 13

end SimpleStage

open SimpleStage

/-- `STAGE_ORDER`. -/
def stageOrder : List SimpleStage :=
  [staticDone, hypothesisDone, proConDone, verificationInitialDone, pocCandidateDone,
    pocExecutionDone, verificationFinalDone, cweDone, techGateDone, scopeGateDone,
    primitiveAdmissionDone, chainingDone, findingDone, reportDone]

/-- `HYPOTHESIS_STAGES`. -/
def hypothesisStages : List SimpleStage := stageOrder.drop 2

/-- `MAX_RECOVERY_ATTEMPTS`. -/
def maxRecoveryAttempts : Nat := 3

/-- `STAGE_VERSION`. -/
def SimpleStage.stageVersion (stage : SimpleStage) : String :=
  if stage = verificationInitialDone then "6"
  else if stage = pocCandidateDone then "6"
  else if stage = reportDone then "4"
  else if stage = pocExecutionDone ∨ stage = verificationFinalDone then "3"
  else if stage = techGateDone then "2"
  else "1"

/-- The index of a stage is its position in the stage order. -/
theorem idxOf_stageOrder (stage : SimpleStage) : stageOrder.idxOf stage = stage.index := by
  cases stage <;> rfl

@[simp] theorem mem_stageOrder (stage : SimpleStage) : stage ∈ stageOrder := by
  cases stage <;> decide

theorem SimpleStage.index_injective : Function.Injective SimpleStage.index := by
  intro left right equal
  cases left <;> cases right <;> first | rfl | exact absurd equal (by decide)

@[simp] theorem SimpleStage.index_inj {left right : SimpleStage} :
    left.index = right.index ↔ left = right :=
  SimpleStage.index_injective.eq_iff

theorem SimpleStage.index_le (stage : SimpleStage) : stage.index ≤ 13 := by
  cases stage <;> decide

/-- The stages of one hypothesis are those from `PRO_CON_DONE` on. -/
theorem mem_hypothesisStages {stage : SimpleStage} :
    stage ∈ hypothesisStages ↔ proConDone.index ≤ stage.index := by
  cases stage <;> decide

/-! ## Checkpoints -/

/-- `StageStatus`. -/
inductive StageStatus where
  | pending
  | running
  | succeeded
  | blocked
  | failed
  deriving DecidableEq, Repr

/-- The stored spelling of a status. -/
def StageStatus.value : StageStatus → String
  | pending => "PENDING"
  | running => "RUNNING"
  | succeeded => "SUCCEEDED"
  | blocked => "BLOCKED"
  | failed => "FAILED"

/-- The verdict literal of a checkpoint. -/
inductive Verdict where
  | isTrue
  | isFalse
  | hold
  deriving DecidableEq, Repr

/-- The Gate decision literal of a checkpoint. -/
inductive GateDecision where
  | accept
  | revise
  | reject
  deriving DecidableEq, Repr

/-- The values whose canonical bytes the runtime hashes. -/
inductive Preimage where
  | inputRefs (refs : List StoredDataRef)
  | recoveryLineage (identity : CheckpointIdentity) (stage stageVersion inputHash : String)
      (errorCode : Option String)
  | activityEvent (key : List String)

/-- The functions of the source whose values the runtime only compares: SHA-256 over canonical
bytes, and the filter that admits a text into a public event. -/
class Platform where
  sha256 : Preimage → String
  sha256_ne_empty : ∀ preimage, sha256 preimage ≠ ""
  safeProviderText : String → Bool

section

variable [Platform]

/-- `input_reference_hash`. -/
def inputReferenceHash (refs : List StoredDataRef) : String :=
  Platform.sha256 (.inputRefs refs)

/-- `StageCheckpoint`.  Its validator, that the input hash is that of the input references, is
carried as a field. -/
@[ext]
structure StageCheckpoint where
  identity : CheckpointIdentity
  stage : SimpleStage
  stageVersion : String := "1"
  status : StageStatus
  inputRefs : List StoredDataRef
  inputHash : String
  outputRefs : List StoredDataRef := []
  attemptId : Option String := none
  attemptNumber : Nat := 0
  gateRevisionCount : Nat := 0
  recoveryLineageId : Option String := none
  recoveryOriginStage : Option SimpleStage := none
  recoveryDecisionRefs : List StoredDataRef := []
  pocStopDecisionRef : Option StoredDataRef := none
  externalPrerequisitesRef : Option StoredDataRef := none
  environmentBlockRef : Option StoredDataRef := none
  errorCode : Option String := none
  retryable : Bool := false
  recipeRef : Option StoredDataRef := none
  imageDigest : Option String := none
  containerId : Option String := none
  validatedPocRef : Option StoredDataRef := none
  reportRef : Option StoredDataRef := none
  bundleManifestRef : Option StoredDataRef := none
  bundleArchiveRef : Option StoredDataRef := none
  verdict : Option Verdict := none
  gateDecision : Option GateDecision := none
  markdownPath : Option String := none
  updatedAt : Nat
  inputHashExact : inputHash = inputReferenceHash inputRefs
  deriving DecidableEq

end

/-! ## Public activity events -/

/-- `ActivityKind`. -/
inductive ActivityKind where
  | stageStarted
  | evidenceReviewed
  | contextRequested
  | evidenceRecorded
  | toolRequested
  | toolCompleted
  | decisionRecorded
  | stageCompleted
  | stageBlocked
  | stageFailed
  deriving DecidableEq, Repr

/-- The stored spelling of an activity kind. -/
def ActivityKind.value : ActivityKind → String
  | stageStarted => "STAGE_STARTED"
  | evidenceReviewed => "EVIDENCE_REVIEWED"
  | contextRequested => "CONTEXT_REQUESTED"
  | evidenceRecorded => "EVIDENCE_RECORDED"
  | toolRequested => "TOOL_REQUESTED"
  | toolCompleted => "TOOL_COMPLETED"
  | decisionRecorded => "DECISION_RECORDED"
  | stageCompleted => "STAGE_COMPLETED"
  | stageBlocked => "STAGE_BLOCKED"
  | stageFailed => "STAGE_FAILED"

/-- `AgentActivityEvent`. -/
structure AgentActivityEvent where
  eventId : String
  analysisId : String
  workspaceId : String
  commitId : String
  hypothesisId : Option String := none
  stage : String
  agentRole : String
  attemptId : String
  sequence : Nat
  kind : ActivityKind
  status : String
  summaryKo : String
  inputRefs : List StoredDataRef := []
  outputRefs : List StoredDataRef := []
  toolName : Option String := none
  toolResultRefs : List StoredDataRef := []
  provider : Option String := none
  model : Option String := none
  promptDigest : Option String := none
  outputDigest : Option String := none
  errorCode : Option String := none
  startedAt : Nat
  finishedAt : Option Nat := none
  elapsedMs : Option Nat := none
  deriving DecidableEq, Repr

/-! ## Handler results -/

/-- `StageResult`. -/
structure StageResult where
  outputRefs : List StoredDataRef
  externalPrerequisitesRef : Option StoredDataRef := none
  environmentBlockRef : Option StoredDataRef := none
  validatedPocRef : Option StoredDataRef := none
  reportRef : Option StoredDataRef := none
  bundleManifestRef : Option StoredDataRef := none
  bundleArchiveRef : Option StoredDataRef := none
  verdict : Option Verdict := none
  gateDecision : Option GateDecision := none
  recipeRef : Option StoredDataRef := none
  imageDigest : Option String := none
  containerId : Option String := none
  markdownPath : Option String := none
  activityEvents : List AgentActivityEvent := []

/-- `StageFailure`; its `safe_message` and `invalid_field` are not read by the runtime core. -/
structure StageFailure where
  code : String
  retryable : Bool
  evidenceRefs : List StoredDataRef := []

/-! ## Terminal outcomes -/

/-- The non-reportable terminal decisions. -/
inductive TerminalOutcome where
  | reject
  | inconclusive
  deriving DecidableEq, Repr

section

variable [Platform]

/-- `terminal_initial_outcome`. -/
def terminalInitialOutcome : Option StageCheckpoint → Option TerminalOutcome
  | none => none
  | some checkpoint =>
      if checkpoint.stage = verificationInitialDone
          ∧ checkpoint.status = .succeeded
          ∧ checkpoint.stageVersion = verificationInitialDone.stageVersion
          ∧ checkpoint.verdict = some .hold
          ∧ (checkpoint.externalPrerequisitesRef ≠ none
              ∧ checkpoint.environmentBlockRef = none
              ∧ checkpoint.externalPrerequisitesRef ∈ checkpoint.outputRefs.map some
            ∨ checkpoint.externalPrerequisitesRef = none
              ∧ checkpoint.environmentBlockRef ≠ none
              ∧ checkpoint.environmentBlockRef ∈ checkpoint.outputRefs.map some)
          ∧ checkpoint.recipeRef = none
          ∧ checkpoint.validatedPocRef = none then
        some .inconclusive
      else none

/-- `terminal_poc_outcome`. -/
def terminalPocOutcome : Option StageCheckpoint → Option TerminalOutcome
  | none => none
  | some checkpoint =>
      if checkpoint.stage = pocExecutionDone
          ∧ checkpoint.status = .succeeded
          ∧ checkpoint.stageVersion = pocExecutionDone.stageVersion
          ∧ checkpoint.verdict = some .hold
          ∧ (maxRecoveryAttempts ≤ checkpoint.attemptNumber
            ∨ checkpoint.pocStopDecisionRef ≠ none)
          ∧ checkpoint.validatedPocRef = none
          ∧ 2 ≤ checkpoint.outputRefs.length then
        some .inconclusive
      else none

/-- `terminal_gate_outcome`. -/
def terminalGateOutcome : Option StageCheckpoint → Option TerminalOutcome
  | none => none
  | some checkpoint =>
      if checkpoint.stage ≠ techGateDone
          ∨ checkpoint.status ≠ .succeeded
          ∨ checkpoint.stageVersion ≠ techGateDone.stageVersion then
        none
      else if checkpoint.gateDecision = some .reject then
        some .reject
      else if checkpoint.gateDecision = some .revise ∧ 2 ≤ checkpoint.gateRevisionCount then
        some .inconclusive
      else none

end

end Sastsimi.Runtime
