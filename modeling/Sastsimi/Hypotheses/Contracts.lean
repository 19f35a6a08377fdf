import Sastsimi.Storage.Contracts

/-!
# Contracts of hypotheses and their verification

The records that proposals, registered hypotheses and their verification are kept in.  Fields
that no modelled operation reads by themselves are kept together as their canonical text.  Works,
attempts and transitions are those of the runtime store.
-/

namespace Sastsimi.Hypotheses

open Lib Sastsimi.Runtime Sastsimi.Storage

/-! ## Scopes -/

/-- `analysis_id`, `workspace_id`, `commit_id` and `hypothesis_id` of a metadata, when it has
them. -/
def scopeNames (record : RecordMeta) : String × Option (String × String) × Option String :=
  match record.scope with
  | .run analysisId => (analysisId, none, none)
  | .code analysisId workspaceId commitId hypothesisId _ =>
      (analysisId, some (workspaceId, commitId), hypothesisId)

/-- `meta.hypothesis_id`. -/
def hypothesisOf (record : RecordMeta) : Option String := (scopeNames record).2.2

/-- `meta.attempt_id`. -/
def attemptOf (record : RecordMeta) : Option String :=
  match record.scope with
  | .run _ => none
  | .code _ _ _ _ attemptId => attemptId

/-- The metadata of a hypothesis's records, without an attempt. -/
def withHypothesis (record : RecordMeta) (hypothesisId : Option String) : RecordMeta :=
  match record.scope with
  | .run _ => record
  | .code analysisId workspaceId commitId _ _ =>
      { record with scope := .code analysisId workspaceId commitId hypothesisId none }

/-- `fresh_meta`, for the metadata given. -/
def freshMeta (record : RecordMeta) (kind recordId : String) (now : Nat) : RecordMeta where
  recordId := recordId
  logicalRecordId := recordId
  recordType := kind
  createdAt := now
  scope := record.scope

/-- The records of a hypothesis are in its scope. -/
theorem hypothesisOf_withHypothesis {record : RecordMeta} (code : record.isCode = true)
    (hypothesisId : Option String) :
    hypothesisOf (withHypothesis record hypothesisId) = hypothesisId := by
  unfold hypothesisOf scopeNames withHypothesis
  cases scope : record.scope with
  | run analysisId => simp [RecordMeta.isCode, scope] at code
  | code => rfl

@[simp] theorem scopeNames_freshMeta (record : RecordMeta) (kind recordId : String) (now : Nat) :
    scopeNames (freshMeta record kind recordId now) = scopeNames record := rfl

@[simp] theorem scopeNames_next (record : RecordMeta) (stamp : Stamp) :
    scopeNames (record.next stamp) = scopeNames record := rfl

/-! ## Proposals and hypotheses -/

inductive Origin where
  | initial
  | verification
  | chaining
  deriving DecidableEq

/-- The fields a hypothesis takes over from its proposal.  Entities, locations, paths, questions
and checks are their canonical texts, questions and checks under their identifiers. -/
structure HypothesisShape where
  statement : String
  origin : Origin
  parentHypothesisIds : List String
  sourcePrimitiveMatchId : Option String
  targetEntities : List String
  targetLocations : List String
  suspectedPath : List String
  falsificationQuestions : List (String × String)
  validationChecks : List (String × String)
  deriving DecidableEq

/-- The fields of `HypothesisProposal` except `meta`. -/
structure ProposalFields extends HypothesisShape where
  proposalId : String
  vulnerabilityTypeCandidates : List String
  observedFacts : List String
  assumptions : List String
  restrictions : List String
  deriving DecidableEq

/-- `HypothesisProposal`.  Its metadata is that of code. -/
structure HypothesisProposal extends ProposalFields where
  metadata : RecordMeta
  code : metadata.isCode = true
  deriving DecidableEq

/-- `VulnerabilityHypothesis`. -/
structure VulnerabilityHypothesis extends HypothesisShape where
  metadata : RecordMeta
  proposalRef : RecordRef
  deriving DecidableEq

/-- `ProposalProcessState` of a proposal without duplicates. -/
structure ProposalProcessState where
  metadata : RecordMeta
  proposalRef : RecordRef
  status : String
  registrationReason : String
  startedAt : Nat
  finishedAt : Option Nat
  deriving DecidableEq

/-- `VerificationResult` or `ChainingResult`: the proposals nested in it, and the text of its
other fields. -/
structure SourceResult where
  metadata : RecordMeta
  children : List HypothesisProposal
  content : String
  deriving DecidableEq

/-! ## Current states of a hypothesis -/

inductive ProcessStatus where
  | registered
  | assigned
  | verifying
  | terminal
  | failed
  | cancelled
  deriving DecidableEq

namespace ProcessStatus

/-- The statuses with an end. -/
def ended : ProcessStatus → Bool
  | .terminal | .failed | .cancelled => true
  | _ => false

/-- The statuses that require an assignment. -/
def isAssigned : ProcessStatus → Bool
  | .assigned | .verifying | .terminal | .failed => true
  | _ => false

end ProcessStatus

/-- The fields of `HypothesisProcessState`. -/
structure ProcessFields where
  metadata : RecordMeta
  proposalRef : RecordRef
  status : ProcessStatus := .registered
  verificationAssignmentRef : Option RecordRef := none
  verificationGeneration : Nat := 0
  verificationWorkRef : Option RecordRef := none
  verificationResultRef : Option RecordRef := none
  startedAt : Nat
  finishedAt : Option Nat := none
  elapsedMs : Nat := 0
  deriving DecidableEq

namespace ProcessFields

variable (process : ProcessFields)

/-- `process_shape`. -/
structure Shape : Prop where
  ended : process.status.ended = true ↔ process.finishedAt.isSome = true
  registered : process.status = .registered → process.verificationGeneration = 0
    ∧ process.verificationAssignmentRef = none ∧ process.verificationWorkRef = none
    ∧ process.verificationResultRef = none
  assigned : process.status.isAssigned = true → process.verificationAssignmentRef.isSome = true
  working : process.status = .verifying ∨ process.status = .failed →
    process.verificationWorkRef.isSome = true
  terminal : process.status = .terminal → process.verificationWorkRef = none
    ∧ process.verificationResultRef.isSome = true
  failed : process.status = .failed → process.verificationResultRef = none

instance : Decidable process.Shape :=
  decidable_of_iff
    ((process.status.ended = true ↔ process.finishedAt.isSome = true)
      ∧ (process.status = .registered → process.verificationGeneration = 0
        ∧ process.verificationAssignmentRef = none ∧ process.verificationWorkRef = none
        ∧ process.verificationResultRef = none)
      ∧ (process.status.isAssigned = true → process.verificationAssignmentRef.isSome = true)
      ∧ (process.status = .verifying ∨ process.status = .failed →
        process.verificationWorkRef.isSome = true)
      ∧ (process.status = .terminal → process.verificationWorkRef = none
        ∧ process.verificationResultRef.isSome = true)
      ∧ (process.status = .failed → process.verificationResultRef = none))
    ⟨fun checks => ⟨checks.1, checks.2.1, checks.2.2.1, checks.2.2.2.1, checks.2.2.2.2.1,
        checks.2.2.2.2.2⟩,
      fun shape => ⟨shape.ended, shape.registered, shape.assigned, shape.working, shape.terminal,
        shape.failed⟩⟩

end ProcessFields

/-- `HypothesisProcessState`. -/
structure HypothesisProcessState extends ProcessFields where
  shape : toProcessFields.Shape
  deriving DecidableEq

/-- `HypothesisProcessState.model_validate`. -/
def ProcessFields.validate (process : ProcessFields) : Except PyError HypothesisProcessState :=
  if shape : process.Shape then .ok ⟨process, shape⟩
  else .error (.valueError "HypothesisProcessState")

theorem ProcessFields.validate_ok {process : ProcessFields} {state : HypothesisProcessState}
    (validated : process.validate = .ok state) : state.toProcessFields = process := by
  unfold ProcessFields.validate at validated
  split at validated
  · cases validated
    rfl
  · cases validated

/-- `FindingIndexState`. -/
structure FindingIndexState where
  metadata : RecordMeta
  stateVersion : Nat
  status : String
  findingRef : Option RecordRef
  staleFindingRef : Option RecordRef
  deriving DecidableEq

/-- `ReportProcessState`. -/
structure ReportProcessState where
  metadata : RecordMeta
  status : String
  reportDraftRef : Option RecordRef
  startedAt : Option Nat
  finishedAt : Option Nat
  deriving DecidableEq

/-! ## Commits -/

inductive CommitState where
  | prepared
  | committed
  | aborted
  deriving DecidableEq

/-- `TransitionCommit`. -/
structure TransitionCommit where
  metadata : RecordMeta
  transitionCommitId : String
  workId : String
  transitionRef : RecordRef
  expectedStateVersion : Nat
  targetStateVersion : Nat
  attemptId : Option String
  targetStatus : WorkStatus
  outputRefs : List RecordRef
  gapIds : List String := []
  errorIds : List String := []
  state : CommitState
  preparedAt : Nat
  committedAt : Option Nat := none
  abortReason : Option String := none
  deriving DecidableEq

/-! ## Records -/

/-- A record of the registry. -/
inductive Entry where
  | work (record : WorkExecutionState)
  | attempt (record : WorkAttempt)
  | transition (record : StateTransition)
  | commit (record : TransitionCommit)
  | proposal (record : HypothesisProposal)
  | hypothesis (record : VulnerabilityHypothesis)
  | proposalState (record : ProposalProcessState)
  | process (record : HypothesisProcessState)
  | findingIndex (record : FindingIndexState)
  | reportState (record : ReportProcessState)
  | verificationResult (record : SourceResult)
  | chainingResult (record : SourceResult)
  | other (metadata : RecordMeta) (content : String)
  deriving DecidableEq

namespace Entry

/-- `record.meta`. -/
def metadata : Entry → RecordMeta
  | .work record => record.metadata
  | .attempt record => record.metadata
  | .transition record => record.metadata
  | .commit record => record.metadata
  | .proposal record => record.metadata
  | .hypothesis record => record.metadata
  | .proposalState record => record.metadata
  | .process record => record.metadata
  | .findingIndex record => record.metadata
  | .reportState record => record.metadata
  | .verificationResult record => record.metadata
  | .chainingResult record => record.metadata
  | .other metadata _ => metadata

/-- `record.meta.record_id`. -/
def recordId (entry : Entry) : String := entry.metadata.recordId

end Entry

/-- A value, other than a record, whose canonical text is hashed. -/
inductive Hashed where
  | inputs (inputRefs : List RecordRef)
  | child (sourceRef : RecordRef) (proposalId : String)
  | dedupe (inputRefs : List RecordRef) (generation : Nat)
  | registration (analysisId : String) (workType : WorkType) (subjectId : String)
      (workGeneration : Nat) (dedupeKey : String)
  deriving DecidableEq

/-- `content_hash` of records and of other values. -/
class EntryHash where
  contentHash : Entry → String
  valueHash : Hashed → String

/-- `reference`. -/
def reference [EntryHash] (entry : Entry) : RecordRef where
  storedDataId := entry.recordId
  dataKind := entry.metadata.recordType
  contentHash := EntryHash.contentHash entry
  recordId := some entry.recordId
  scope :=
    match entry.metadata.scope with
    | .code _ workspaceId commitId _ _ => .code workspaceId commitId
    | .run analysisId => .run analysisId

end Sastsimi.Hypotheses
