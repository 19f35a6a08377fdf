import Sastsimi.Lib.Raising
import Sastsimi.Runtime.Store

/-!
# Contracts of the runtime store

The records of `contracts/` that the runtime tables keep and compare.  A record that its model
validates carries the validated shape, so a revision of it is built by validating changed
fields again.  Moments count microseconds, identifiers and hashes are their texts, and fields
that only the hash of a record depends on are left out, as are the records of the policy cache.
-/

namespace Sastsimi.Storage

open Lib Sastsimi.Runtime

/-! ## Metadata and references -/

/-- The kinds of `RecordMetadata` and their own fields. -/
inductive MetaScope where
  | run (analysisId : String)
  | code (analysisId workspaceId commitId : String) (hypothesisId attemptId : Option String)
  deriving DecidableEq

/-- `RunMeta` and `RecordMeta`. -/
structure RecordMeta where
  recordId : String
  logicalRecordId : String
  recordType : String
  revisionNumber : Nat := 1
  previousRecordId : Option String := none
  createdAt : Nat
  scope : MetaScope
  deriving DecidableEq

namespace RecordMeta

/-- `meta.analysis_id`. -/
def analysisId (record : RecordMeta) : String :=
  match record.scope with
  | .run analysisId => analysisId
  | .code analysisId _ _ _ _ => analysisId

/-- `isinstance(meta, RecordMeta)`. -/
def isCode (record : RecordMeta) : Bool :=
  match record.scope with
  | .run _ => false
  | .code .. => true

/-- The workspace and the commit of code metadata. -/
def workspace (record : RecordMeta) : Option (String × String) :=
  match record.scope with
  | .run _ => none
  | .code _ workspaceId commitId _ _ => some (workspaceId, commitId)

end RecordMeta

/-- What `validate_revision` compares of two metadata besides their own fields: a change of the
attempt is admitted. -/
def MetaScope.sameIdentity : MetaScope → MetaScope → Bool
  | .run left, .run right => decide (left = right)
  | .code left workspace commit hypothesis _, .code right workspace' commit' hypothesis' _ =>
      decide (left = right ∧ workspace = workspace' ∧ commit = commit'
        ∧ hypothesis = hypothesis')
  | _, _ => false

/-- `validate_revision`. -/
def validateRevision (previous current : RecordMeta) : Except PyError Unit := do
  raiseIf (¬ (current.scope.sameIdentity previous.scope = true
      ∧ previous.logicalRecordId = current.logicalRecordId
      ∧ previous.recordType = current.recordType))
    (.valueError "Revision identity or scope mismatch")
  raiseIf (current.previousRecordId ≠ some previous.recordId
      ∨ current.recordId = previous.recordId
      ∨ current.revisionNumber ≠ previous.revisionNumber + 1)
    (.valueError "RECORD_REVISION_MISMATCH: exact predecessor and next revision required")
  raiseIf (current.createdAt < previous.createdAt)
    (.valueError "Revision created_at precedes predecessor")

/-- A new identifier and the moment it is used at: what the ports for identifiers and for the
clock answer. -/
structure Stamp where
  recordId : String
  createdAt : Nat
  now : Nat

/-- `next_meta`. -/
def RecordMeta.next (record : RecordMeta) (stamp : Stamp) : RecordMeta :=
  { record with
    recordId := stamp.recordId
    previousRecordId := some record.recordId
    revisionNumber := record.revisionNumber + 1
    createdAt := stamp.createdAt }

/-- The kinds of `RecordRef` and their own fields. -/
inductive RefScope where
  | run (analysisId : String)
  | code (workspaceId commitId : String)
  | host (hostId analysisId workspaceId commitId : String)
  deriving DecidableEq

/-- `RecordRef`. -/
structure RecordRef where
  storedDataId : String
  dataKind : String
  contentHash : String
  recordId : Option String
  scope : RefScope
  deriving DecidableEq

/-! ## Work -/

inductive WorkType where
  | workspacePrep
  | repositoryProfile
  | staticTool
  | staticNormalize
  | hypothesisProposal
  | contextRetrieval
  | proEvidence
  | conEvidence
  | verification
  | dynamicRepro
  | primitiveUpdate
  | chaining
  | cweLabel
  | policyFetch
  | technicalGate
  | ruleScopeGate
  | findingNormalize
  | reportDraft
  deriving DecidableEq

inductive WorkStatus where
  | pending
  | ready
  | running
  | blocked
  | succeeded
  | partly
  | failed
  | cancelled
  deriving DecidableEq

/-- `TERMINAL_WORK_STATUSES`. -/
def WorkStatus.terminal : WorkStatus → Bool
  | .succeeded | .partly | .failed | .cancelled => true
  | _ => false

inductive AttemptStatus where
  | running
  | succeeded
  | partly
  | failed
  | cancelled
  deriving DecidableEq

inductive AttemptTrigger where
  | initial
  | retry
  | resume
  deriving DecidableEq

inductive WaitingFor where
  | retry
  | auth
  | approval
  | input
  | budget
  | dependency
  deriving DecidableEq

inductive SubjectType where
  | analysis
  | proposal
  | hypothesis
  | report
  deriving DecidableEq

/-- The fields of `WorkExecutionState`. -/
structure WorkFields where
  metadata : RecordMeta
  workId : String
  parentWorkRef : Option RecordRef := none
  workType : WorkType
  subjectType : SubjectType := .analysis
  subjectId : String
  workGeneration : Nat := 1
  status : WorkStatus := .pending
  stateVersion : Nat := 1
  lastTransitionRef : Option RecordRef := none
  lastTransitionCommitRef : Option RecordRef := none
  activeAttemptId : Option String := none
  inputHash : String
  dedupeKey : String
  triggerPrimitiveRef : Option RecordRef := none
  inputRefs : List RecordRef := []
  outputRefs : List RecordRef := []
  gapIds : List String := []
  errorIds : List String := []
  waitingFor : List WaitingFor := []
  stopReason : Option String := none
  startedAt : Option Nat := none
  finishedAt : Option Nat := none
  elapsedMs : Nat := 0
  deriving DecidableEq

/-- The work types `work_shape` requires a parent of. -/
def WorkType.isChild : WorkType → Bool
  | .proEvidence | .conEvidence | .dynamicRepro | .cweLabel | .findingNormalize => true
  | _ => false

namespace WorkFields

variable (work : WorkFields)

/-- The checks of `work_shape` on the status and what depends on it. -/
def StatusShape : Prop :=
  (work.status = .running ↔ work.activeAttemptId.isSome = true)
    ∧ (work.status.terminal = true ↔ work.finishedAt.isSome = true)
    ∧ (work.status = .running → work.startedAt.isSome = true)
    ∧ (work.status = .pending ∨ work.status = .ready → work.outputRefs = [])
    ∧ (work.status = .blocked ↔ work.waitingFor ≠ [])
    ∧ (work.status = .blocked ∨ work.status.terminal = true → work.stopReason.isSome = true)
    ∧ (work.status = .failed → work.errorIds ≠ [])
    ∧ (work.status = .pending → work.stateVersion = 1 ∧ work.lastTransitionRef = none
        ∧ work.lastTransitionCommitRef = none)
    ∧ (work.status ≠ .pending → work.lastTransitionRef.isSome = true ∧ 2 ≤ work.stateVersion)

instance : Decidable work.StatusShape :=
  inferInstanceAs (Decidable (_ ∧ _ ∧ _ ∧ _ ∧ _ ∧ _ ∧ _ ∧ _ ∧ _))

/-- The checks of `work_shape` on the type. -/
def TypeShape : Prop :=
  (work.workType = .workspacePrep ↔ work.metadata.isCode = false)
    ∧ (work.workType.isChild = true ↔ work.parentWorkRef.isSome = true)
    ∧ (work.workType = .chaining ↔ work.triggerPrimitiveRef.isSome = true)

instance : Decidable work.TypeShape :=
  inferInstanceAs (Decidable (_ ∧ _ ∧ _))

end WorkFields

/-- `WorkExecutionState`. -/
structure WorkExecutionState extends WorkFields where
  statusShape : toWorkFields.StatusShape
  typeShape : toWorkFields.TypeShape
  deriving DecidableEq

/-- `WorkExecutionState.model_validate`. -/
def WorkFields.validate (work : WorkFields) : Except PyError WorkExecutionState :=
  if shapes : work.StatusShape ∧ work.TypeShape then .ok ⟨work, shapes.1, shapes.2⟩
  else .error (.valueError "WorkExecutionState")

theorem WorkFields.validate_ok {work : WorkFields} {state : WorkExecutionState}
    (validated : work.validate = .ok state) : state.toWorkFields = work := by
  unfold WorkFields.validate at validated
  split at validated
  · cases validated
    rfl
  · cases validated

/-- `WorkAttempt`. -/
structure WorkAttempt where
  metadata : RecordMeta
  workId : String
  attemptId : String
  attemptNumber : Nat
  trigger : AttemptTrigger
  inputHash : String
  status : AttemptStatus
  startedAt : Nat
  finishedAt : Option Nat := none
  elapsedMs : Nat := 0
  outputRefs : List RecordRef := []
  gapIds : List String := []
  errorIds : List String := []
  deriving DecidableEq

/-- `StateTransition`. -/
structure StateTransition where
  metadata : RecordMeta
  transitionId : String
  workId : String
  actionDecisionRef : RecordRef
  fromStatus : WorkStatus
  toStatus : WorkStatus
  expectedStateVersion : Nat
  newStateVersion : Nat
  attemptId : Option String
  cause : String
  createdAt : Nat
  deriving DecidableEq

/-! ## Actions -/

inductive ActionType where
  | registerWork
  | changeWorkState
  | startAttempt
  | cancelWork
  | restartVerificationGeneration
  | readCode
  | runTool
  | callLlm
  | fetchPolicy
  | requestDynamicRepro
  | runSandbox
  | saveResult
  | callTechnicalGate
  | callRuleScopeGate
  | createReportDraft
  deriving DecidableEq

/-- `EXTERNAL_ACTIONS`. -/
def ActionType.isExternal : ActionType → Bool
  | .readCode | .runTool | .callLlm | .fetchPolicy | .runSandbox | .callTechnicalGate
  | .callRuleScopeGate | .createReportDraft => true
  | _ => false

/-- `_LLM_ACTIONS`. -/
def ActionType.callsModel : ActionType → Bool
  | .callLlm | .callTechnicalGate | .callRuleScopeGate | .createReportDraft => true
  | _ => false

inductive RequesterRole where
  | orchestration
  | hypothesis
  | pro
  | con
  | verification
  | cweLabeling
  | chaining
  | technicalGate
  | ruleScopeGate
  | reporter
  | repositoryLoader
  | contextRetrievalService
  | staticAnalysis
  | policyCollector
  | policyParser
  | primitiveAdmissionRuntime
  | dynamicReproduction
  | reproductionSetupAutomation
  | sandboxController
  | reproductionSessionManager
  | budgetRuntime
  | r8EvaluationRuntime
  | recovery
  deriving DecidableEq

/-- `ActionRequest`. -/
structure ActionRequest where
  metadata : RecordMeta
  actionId : String
  requestedBy : RequesterRole
  actionType : ActionType
  workRef : Option RecordRef
  expectedStateVersion : Option Nat
  inputRefs : List RecordRef := []
  dynamicRequestRef : Option RecordRef := none
  reason : String
  requestedAt : Nat
  deriving DecidableEq

inductive Decision where
  | allow
  | deny
  deriving DecidableEq

inductive UseStatus where
  | unused
  | used
  | notUsed
  | expired
  deriving DecidableEq

/-- `ActionDecision`. -/
structure ActionDecision where
  metadata : RecordMeta
  decisionId : String
  actionRef : RecordRef
  decision : Decision
  useStatus : UseStatus
  checkedStateVersion : Option Nat
  checkedConfigRefs : List RecordRef := []
  validUntil : Option Nat
  decidedAt : Nat
  usedAt : Option Nat := none
  outcomeRefs : List RecordRef := []
  deriving DecidableEq

/-! ## Budgets -/

inductive Purpose where
  | production
  | evaluation
  | localEvaluation
  deriving DecidableEq

inductive ProfileStatus where
  | draft
  | active
  | retired
  deriving DecidableEq

inductive OperationKind where
  | workspacePrep
  | repositoryProfile
  | staticTool
  | staticNormalize
  | policyCollect
  | policyParse
  | hypothesisGenerate
  | contextRetrieval
  | proEvidence
  | conEvidence
  | verificationSynthesis
  | primitiveUpdate
  | chaining
  | dynamicRepro
  | cweLabeling
  | technicalGate
  | ruleScopeGate
  | findingNormalize
  | reporter
  deriving DecidableEq

inductive BudgetAgentRole where
  | hypothesis
  | pro
  | con
  | verification
  | cweLabeling
  | chaining
  | technicalGate
  | ruleScopeGate
  | reporter
  | policyParser
  | dynamicReproduction
  | repositoryLoader
  | staticAnalysis
  | policyCollector
  deriving DecidableEq

/-- `WORK_OPERATIONS`. -/
def workOperations : WorkType → OperationKind × Option BudgetAgentRole
  | .workspacePrep => (.workspacePrep, some .repositoryLoader)
  | .repositoryProfile => (.repositoryProfile, some .staticAnalysis)
  | .staticTool => (.staticTool, some .staticAnalysis)
  | .staticNormalize => (.staticNormalize, some .staticAnalysis)
  | .hypothesisProposal => (.hypothesisGenerate, some .hypothesis)
  | .contextRetrieval => (.contextRetrieval, none)
  | .proEvidence => (.proEvidence, some .pro)
  | .conEvidence => (.conEvidence, some .con)
  | .verification => (.verificationSynthesis, some .verification)
  | .dynamicRepro => (.dynamicRepro, some .dynamicReproduction)
  | .primitiveUpdate => (.primitiveUpdate, none)
  | .chaining => (.chaining, some .chaining)
  | .cweLabel => (.cweLabeling, some .cweLabeling)
  | .policyFetch => (.policyCollect, some .policyCollector)
  | .technicalGate => (.technicalGate, some .technicalGate)
  | .ruleScopeGate => (.ruleScopeGate, some .ruleScopeGate)
  | .findingNormalize => (.findingNormalize, none)
  | .reportDraft => (.reporter, some .reporter)

/-- `UNIT_FIELDS`. -/
inductive UnitField where
  | elapsedMs
  | workCount
  | llmCallCount
  | retryCount
  | costMinorUnits
  deriving DecidableEq

/-- `BudgetUnits`. -/
structure BudgetUnits where
  elapsedMs : Nat := 0
  workCount : Nat := 0
  llmCallCount : Nat := 0
  retryCount : Nat := 0
  costMinorUnits : Nat := 0
  currency : String
  deriving DecidableEq

/-- `getattr(units, key)`. -/
def BudgetUnits.get (units : BudgetUnits) : UnitField → Nat
  | .elapsedMs => units.elapsedMs
  | .workCount => units.workCount
  | .llmCallCount => units.llmCallCount
  | .retryCount => units.retryCount
  | .costMinorUnits => units.costMinorUnits

/-- `any(getattr(requested, key) > getattr(available, key) for key in UNIT_FIELDS)`. -/
def BudgetUnits.exceeds (requested available : BudgetUnits) : Prop :=
  ∃ field ∈ [UnitField.elapsedMs, .workCount, .llmCallCount, .retryCount, .costMinorUnits],
    available.get field < requested.get field

instance (requested available : BudgetUnits) : Decidable (requested.exceeds available) :=
  inferInstanceAs (Decidable (∃ _ ∈ _, _))

theorem BudgetUnits.not_exceeds {requested available : BudgetUnits}
    (fits : ¬ requested.exceeds available) (field : UnitField) :
    requested.get field ≤ available.get field := by
  apply Nat.le_of_not_lt
  intro less
  exact fits ⟨field, by cases field <;> simp, less⟩

inductive ReservationStatus where
  | reserved
  | committed
  | released
  deriving DecidableEq

/-- The fields of `BudgetReservation`. -/
structure ReservationFields where
  metadata : RecordMeta
  reservationId : String
  budgetBindingRef : RecordRef
  actionRef : RecordRef
  workRef : RecordRef
  requestedUnits : BudgetUnits
  status : ReservationStatus
  ledgerEntryRef : Option RecordRef := none
  reservedAt : Nat
  finalizedAt : Option Nat := none
  deriving DecidableEq

/-- `reservation_shape`. -/
def ReservationFields.Shape (reservation : ReservationFields) : Prop :=
  (reservation.status = .reserved ↔ reservation.finalizedAt = none)
    ∧ (reservation.status = .committed ↔ reservation.ledgerEntryRef.isSome = true)
    ∧ ∀ moment ∈ reservation.finalizedAt, reservation.reservedAt ≤ moment

instance (reservation : ReservationFields) : Decidable reservation.Shape :=
  inferInstanceAs (Decidable (_ ∧ _ ∧ _))

/-- `BudgetReservation`. -/
structure BudgetReservation extends ReservationFields where
  shape : toReservationFields.Shape
  deriving DecidableEq

/-- `BudgetReservation.model_validate`. -/
def ReservationFields.validate (reservation : ReservationFields) :
    Except PyError BudgetReservation :=
  if shape : reservation.Shape then .ok ⟨reservation, shape⟩
  else .error (.valueError "BudgetReservation")

theorem ReservationFields.validate_ok {reservation : ReservationFields}
    {validated : BudgetReservation} (returned : reservation.validate = .ok validated) :
    validated.toReservationFields = reservation := by
  unfold ReservationFields.validate at returned
  split at returned
  · cases returned
    rfl
  · cases returned

/-- A reservation names a ledger entry exactly when it is committed. -/
theorem BudgetReservation.ledgerEntryRef_eq_none (reservation : BudgetReservation) :
    reservation.ledgerEntryRef = none ↔ reservation.status ≠ .committed := by
  rw [Ne, reservation.shape.2.1, Bool.not_eq_true, Option.isSome_eq_false_iff,
    Option.isNone_iff_eq_none]

/-- `BudgetLedgerEntry`. -/
structure BudgetLedgerEntry where
  metadata : RecordMeta
  ledgerEntryId : String
  reservationRef : RecordRef
  budgetBindingRef : RecordRef
  actionRef : RecordRef
  workRef : RecordRef
  actualUnits : BudgetUnits
  usageRefs : List RecordRef := []
  sequence : Nat
  committedAt : Nat
  deriving DecidableEq

/-- `ExecutionBudgetProfile`. -/
structure ExecutionBudgetProfile where
  metadata : RecordMeta
  purpose : Purpose
  maxAnalysisElapsedMs : Nat
  maxTotalCostMinorUnits : Nat
  currency : String
  maxTotalWork : Nat
  maxTotalLlmCalls : Nat
  maxTotalRetries : Nat
  maxParallelWork : Nat
  status : ProfileStatus
  deriving DecidableEq

/-- `WorkBudgetLimit`. -/
structure WorkBudgetLimit where
  workType : WorkType
  operationKind : OperationKind
  agentRole : Option BudgetAgentRole
  timeoutMs : Option Nat
  maxAttempts : Option Nat
  maxCallsPerWork : Option Nat
  maxItemsPerWork : Option Nat
  deriving DecidableEq

/-- `WorkBudgetProfile`. -/
structure WorkBudgetProfile where
  metadata : RecordMeta
  purpose : Purpose
  limits : List WorkBudgetLimit
  status : ProfileStatus
  deriving DecidableEq

/-- `VerificationBudgetProfile`. -/
structure VerificationBudgetProfile where
  metadata : RecordMeta
  maxVerificationElapsedMs : Nat
  maxWorkPerVerification : Nat
  maxLlmCallsPerVerification : Nat
  maxRetriesPerWork : Nat
  maxParallelEvidenceCalls : Nat
  status : ProfileStatus
  deriving DecidableEq

/-- `DynamicReproductionLifecycleProfile`. -/
structure DynamicReproductionLifecycleProfile where
  metadata : RecordMeta
  preflightBudgetRef : RecordRef
  maxNewAttempts : Nat
  status : ProfileStatus
  deriving DecidableEq

/-- `BudgetProfileBinding`. -/
structure BudgetProfileBinding where
  metadata : RecordMeta
  purpose : Purpose
  executionBudgetProfileRef : RecordRef
  workBudgetProfileRef : RecordRef
  verificationBudgetProfileRef : RecordRef
  dynamicLifecycleProfileRef : RecordRef
  status : ProfileStatus
  deriving DecidableEq

/-- `AnalysisRunState`, as far as the budget reads it. -/
structure AnalysisRunState where
  metadata : RecordMeta
  purpose : Purpose
  executionBudgetProfileRef : RecordRef
  budgetBindingRef : Option RecordRef
  deriving DecidableEq

/-- `select_work_limit`. -/
def selectWorkLimit (profile : WorkBudgetProfile) (workType : WorkType)
    (operationKind : OperationKind) (agentRole : Option BudgetAgentRole) :
    Except PyError WorkBudgetLimit := do
  raiseIf (profile.status ≠ .active) (.valueError "Budget profile is not ACTIVE")
  required
    (profile.limits.find? fun limit =>
      decide (limit.workType = workType ∧ limit.operationKind = operationKind
        ∧ limit.agentRole = agentRole))
    (.valueError "Unlisted operation: DENY")

/-- `validate_reservation_revision`. -/
def validateReservationRevision (previous current : BudgetReservation) :
    Except PyError Unit := do
  validateRevision previous.metadata current.metadata
  raiseIf (previous.status ≠ .reserved ∨ current.status = .reserved)
    (.valueError "Reservation may only finalize once")
  raiseIf (¬ (previous.reservationId = current.reservationId
      ∧ previous.budgetBindingRef = current.budgetBindingRef
      ∧ previous.actionRef = current.actionRef
      ∧ previous.workRef = current.workRef
      ∧ previous.requestedUnits = current.requestedUnits
      ∧ previous.reservedAt = current.reservedAt))
    (.valueError "Reservation identity, scope and requested units are immutable")

/-! ## Records -/

/-- A record of the store.  A record of another kind is known by its metadata, its host and its
text. -/
inductive Record where
  | work (state : WorkExecutionState)
  | attempt (attempt : WorkAttempt)
  | transition (transition : StateTransition)
  | action (request : ActionRequest)
  | decision (decision : ActionDecision)
  | reservation (reservation : BudgetReservation)
  | ledgerEntry (entry : BudgetLedgerEntry)
  | executionProfile (profile : ExecutionBudgetProfile)
  | workProfile (profile : WorkBudgetProfile)
  | verificationProfile (profile : VerificationBudgetProfile)
  | dynamicProfile (profile : DynamicReproductionLifecycleProfile)
  | binding (binding : BudgetProfileBinding)
  | run (state : AnalysisRunState)
  | other (metadata : RecordMeta) (hostId : Option String) (content : String)
  deriving DecidableEq

namespace Record

/-- `record.meta`. -/
def metadata : Record → RecordMeta
  | .work record => record.metadata
  | .attempt record => record.metadata
  | .transition record => record.metadata
  | .action record => record.metadata
  | .decision record => record.metadata
  | .reservation record => record.metadata
  | .ledgerEntry record => record.metadata
  | .executionProfile record => record.metadata
  | .workProfile record => record.metadata
  | .verificationProfile record => record.metadata
  | .dynamicProfile record => record.metadata
  | .binding record => record.metadata
  | .run record => record.metadata
  | .other metadata _ _ => metadata

/-- `getattr(record, "host_id", None)`. -/
def hostId : Record → Option String
  | .other _ hostId _ => hostId
  | _ => none

/-- The primary key of `records`. -/
def recordId (record : Record) : String := record.metadata.recordId

end Record

/-- `content_hash`: SHA-256 of the canonical text of a record. -/
class ContentHash where
  contentHash : Record → String

/-- `reference`. -/
def reference [ContentHash] (record : Record) : RecordRef where
  storedDataId := record.recordId
  dataKind := record.metadata.recordType
  contentHash := ContentHash.contentHash record
  recordId := some record.recordId
  scope :=
    match record.metadata.scope, record.hostId with
    | .code analysisId workspaceId commitId _ _, some hostId =>
        .host hostId analysisId workspaceId commitId
    | .code _ workspaceId commitId _ _, none => .code workspaceId commitId
    | .run analysisId, _ => .run analysisId

end Sastsimi.Storage
