import Sastsimi.Hypotheses.Works

/-!
# Registration of proposals

`hypothesis_projection` registers the proposals that a commit of a `HYPOTHESIS_PROPOSAL` work
publishes: every proposal becomes a hypothesis with its process, its finding index and its report
state.  A child of a verification or of a chaining must be among the children of the result its
work has as its input, as far as its content goes.
-/

namespace Sastsimi.Hypotheses

open Lib Sastsimi.Runtime Sastsimi.Storage

/-- `PROPOSAL_SOURCE_CLOSURE_REQUIRED`. -/
def sourceRequired : PyError := .valueError "PROPOSAL_SOURCE_CLOSURE_REQUIRED"

/-- `PROPOSAL_STATIC_CLOSURE_REQUIRED`. -/
def staticRequired : PyError := .valueError "PROPOSAL_STATIC_CLOSURE_REQUIRED"

/-- The kind of the result a proposal is a child of. -/
def Origin.sourceKind : Origin → String
  | .verification => "verification_result"
  | _ => "chaining_result"

/-- `validate_hypothesis_registration`. -/
def validateHypothesisRegistration [EntryHash] (hypothesis : VulnerabilityHypothesis)
    (proposal : HypothesisProposal) : Except PyError Unit := do
  Registry.exact hypothesis.proposalRef (.proposal proposal) hypothesis.metadata
  raiseIf ((scopeNames hypothesis.metadata).1 ≠ (scopeNames proposal.metadata).1
      ∨ (scopeNames hypothesis.metadata).2.1 ≠ (scopeNames proposal.metadata).2.1)
    (.valueError "RECORD_SCOPE_MISMATCH")
  raiseIf (hypothesis.toHypothesisShape ≠ proposal.toHypothesisShape)
    (.valueError "PROPOSAL_REGISTRATION_DRIFT")

/-- The identifiers and the moment a proposal is registered with. -/
structure ProjectionIds where
  hypothesisId : String
  hypothesisRecordId : String
  processRecordId : String
  indexRecordId : String
  reportRecordId : String
  stateRecordId : String
  now : Nat

/-- What the registration of a proposal projects. -/
structure Projection where
  proposal : HypothesisProposal
  state : ProposalProcessState
  hypothesis : VulnerabilityHypothesis
  process : HypothesisProcessState
  index : FindingIndexState
  report : ReportProcessState

/-- The projected records, in the order they are published in. -/
def Projection.entries (projection : Projection) : List Entry :=
  [.proposalState projection.state, .hypothesis projection.hypothesis,
    .process projection.process, .findingIndex projection.index, .reportState projection.report]

section

variable [EntryHash] (ids : ProjectionIds) (proposal : HypothesisProposal)

/-- The metadata of a record of the new hypothesis. -/
def hypothesisMeta (kind recordId : String) : RecordMeta :=
  freshMeta (withHypothesis proposal.metadata (some ids.hypothesisId)) kind recordId ids.now

/-- The process of a hypothesis that was just registered. -/
def registeredProcess : HypothesisProcessState where
  metadata := hypothesisMeta ids proposal "hypothesis_process_state" ids.processRecordId
  proposalRef := reference (.proposal proposal)
  startedAt := ids.now
  shape := by constructor <;> simp [ProcessStatus.ended, ProcessStatus.isAssigned]

/-- The records of a proposal's registration. -/
def projectionOf : Projection where
  proposal
  state :=
    { metadata :=
        freshMeta (withHypothesis proposal.metadata none) "proposal_process_state"
          ids.stateRecordId ids.now
      proposalRef := reference (.proposal proposal)
      status := "SCHEMA_VALID"
      registrationReason := "NO_CANDIDATES"
      startedAt := proposal.metadata.createdAt
      finishedAt := some ids.now }
  hypothesis :=
    { toHypothesisShape := proposal.toHypothesisShape
      metadata := hypothesisMeta ids proposal "vulnerability_hypothesis" ids.hypothesisRecordId
      proposalRef := reference (.proposal proposal) }
  process := registeredProcess ids proposal
  index :=
    { metadata := hypothesisMeta ids proposal "finding_index_state" ids.indexRecordId
      stateVersion := 1
      status := "EMPTY"
      findingRef := none
      staleFindingRef := none }
  report :=
    { metadata := hypothesisMeta ids proposal "report_process_state" ids.reportRecordId
      status := "NOT_REQUESTED"
      reportDraftRef := none
      startedAt := none
      finishedAt := none }

end

/-- What decides about a commit besides the tables modelled here: the authorization of its
request, the cancellation of its run and the owners of its records, the closure of an initial
proposal over the facts it was observed in, and what a blocked work waits for. -/
structure CommitAnswers where
  permits : Except PyError Unit := .ok ()
  staticClosure : HypothesisProposal → Except PyError Unit := fun _ => .ok ()
  waiting : WaitingFor := .input

/-- `HYPOTHESIS_PROPOSAL_BATCH_ID_CONFLICT`: the identifiers of a batch are distinct. -/
def BatchDistinct (proposals : List HypothesisProposal) : Prop :=
  (proposals.map fun proposal => proposal.proposalId).Nodup
    ∧ ((proposals.flatMap fun proposal => proposal.falsificationQuestions).map Prod.fst).Nodup
    ∧ ((proposals.flatMap fun proposal => proposal.validationChecks).map Prod.fst).Nodup

instance (proposals : List HypothesisProposal) : Decidable (BatchDistinct proposals) :=
  inferInstanceAs (Decidable (_ ∧ _ ∧ _))

namespace Registry

variable [EntryHash] (store : Registry)

/-- The children of the result a proposal names as its source. -/
def sourceChildren (proposal : HypothesisProposal) (source : Entry) :
    Except PyError (List HypothesisProposal) :=
  match proposal.origin, source with
  | .verification, .verificationResult result => do
      store.requireCommitted source .verification
      raiseIf (proposal.parentHypothesisIds.map some ≠ [hypothesisOf result.metadata])
        (.valueError "PROPOSAL_PARENT_MISMATCH")
      .ok result.children
  | .chaining, .chainingResult result => do
      store.requireCommitted source .chaining
      .ok result.children
  | _, _ => .error sourceRequired

/-- A child is, except for its metadata, among the children of the one input of its work. -/
def checkSource (work : WorkExecutionState) (proposal : HypothesisProposal) :
    Except PyError Unit :=
  match work.inputRefs.filter fun ref => decide (ref.dataKind = proposal.origin.sourceKind),
      work.inputRefs with
  | [sourceRef], [_] => do
      store.checkCurrent sourceRef
      let source ← store.resolve sourceRef
      let children ← store.sourceChildren proposal source
      raiseIf (children.countP (fun child =>
          decide (child.toProposalFields = proposal.toProposalFields)) ≠ 1) sourceRequired
  | _, _ => .error sourceRequired

/-- The closure of a proposal over what it was proposed from. -/
def checkClosure (answers : CommitAnswers) (work : WorkExecutionState)
    (proposal : HypothesisProposal) : Except PyError Unit :=
  if proposal.origin = .initial then
    match work.inputRefs.filter fun ref => decide (ref.dataKind = "static_fact_bundle") with
    | [_] => answers.staticClosure proposal
    | _ => .error staticRequired
  else store.checkSource work proposal

/-- Whether a current hypothesis was registered from exactly this proposal record. -/
def alreadyRegistered (proposal : HypothesisProposal) : Bool :=
  store.currentRecords.any fun
    | .hypothesis prior => decide (prior.proposalRef = reference (.proposal proposal))
    | _ => false

/-- The checks of `hypothesis_projection` on one proposal. -/
def checkProposal (answers : CommitAnswers) (work : WorkExecutionState)
    (proposal : HypothesisProposal) : Except PyError Unit := do
  store.checkClosure answers work proposal
  raiseIf (store.alreadyRegistered proposal = true) (.valueError "PROPOSAL_ALREADY_REGISTERED")

/-- `hypothesis_projection` of the proposals of a commit, without publishing. -/
def checkProposals (answers : CommitAnswers) (work : WorkExecutionState)
    (proposals : List HypothesisProposal) : Except PyError Unit :=
  if proposals = [] ∨ work.workType ≠ .hypothesisProposal then .ok ()
  else do
    raiseIf (¬ BatchDistinct proposals) (.valueError "HYPOTHESIS_PROPOSAL_BATCH_ID_CONFLICT")
    forM proposals (store.checkProposal answers work)

/-- Check a proposal and project its registration. -/
def projectProposal (answers : CommitAnswers) (work : WorkExecutionState)
    (drawn : HypothesisProposal × ProjectionIds) : Except PyError Projection := do
  store.checkProposal answers work drawn.1
  let projection := projectionOf drawn.2 drawn.1
  validateHypothesisRegistration projection.hypothesis drawn.1
  .ok projection

/-- `hypothesis_projection` of the proposals of a commit, with the identifiers it draws. -/
def hypothesisProjection (answers : CommitAnswers) (draw : Nat → ProjectionIds)
    (work : WorkExecutionState) (proposals : List HypothesisProposal) :
    Except PyError (List Projection) :=
  if proposals = [] ∨ work.workType ≠ .hypothesisProposal then .ok []
  else do
    raiseIf (¬ BatchDistinct proposals) (.valueError "HYPOTHESIS_PROPOSAL_BATCH_ID_CONFLICT")
    (proposals.zip ((List.range proposals.length).map draw)).mapM
      (store.projectProposal answers work)

end Registry

/-! ## Commits -/

/-- A request to commit the proposals of a work, as the contracts and
`validate_commit_transition` admit it. -/
structure CommitRequest where
  transition : StateTransition
  commit : TransitionCommit
  proposals : List HypothesisProposal
  allowed : allowedTransition transition.fromStatus transition.toStatus = true
  versions : transition.newStateVersion = transition.expectedStateVersion + 1
  workId : commit.workId = transition.workId
  expectedStateVersion : commit.expectedStateVersion = transition.expectedStateVersion
  targetStateVersion : commit.targetStateVersion = transition.newStateVersion
  attemptId : commit.attemptId = transition.attemptId
  targetStatus : commit.targetStatus = transition.toStatus
  committable : commit.targetStatus = .blocked ∨ commit.targetStatus.terminal = true
  prepared : commit.state = .prepared

/-- The records of a request. -/
def CommitRequest.records (request : CommitRequest) : List Entry :=
  request.proposals.map Entry.proposal

/-- `CURRENT_STATE_KINDS`. -/
def currentStateKinds : List String :=
  ["code_workspace", "analysis_run_state", "work_execution_state", "hypothesis_process_state",
    "verification_assignment", "finding_index_state"]

/-- The identifiers and the moment of a commit. -/
structure CommitStamps where
  commit : Stamp
  attempt : Stamp
  work : Stamp
  process : Stamp
  draw : Nat → ProjectionIds

/-- The row of a work without a lease. -/
def unleased (row : WorkRow) : WorkRow := { row with workerId := none, leaseExpiresAt := none }

namespace Registry

variable [EntryHash] (store : Registry)

/-- `check_current_input`.  That a workspace is ready is left to the answers. -/
def checkCurrentInput (ref : RecordRef) : Except PyError Unit :=
  if ref.dataKind ∈ currentStateKinds then store.checkCurrent ref else .ok ()

/-- The checks of one record of a request.  A proposal is never published before its commit. -/
def checkOutput (work : WorkExecutionState) (record : Entry) : Except PyError Unit := do
  raiseIf ((store.records.find record.recordId).isSome = true)
    (.valueError "INTERMEDIATE_RECEIPT_REQUIRED")
  raiseIf (record.metadata.analysisId ≠ work.metadata.analysisId)
    (.valueError "OUTPUT_ANALYSIS_MISMATCH")
  raiseIf (attemptOf record.metadata ≠ none ∧ attemptOf record.metadata ≠ work.activeAttemptId)
    (.valueError "ATTEMPT_NOT_ACTIVE")

/-- `TransitionService.check`. -/
def check (answers : CommitAnswers) (request : CommitRequest) :
    Except PyError WorkExecutionState := do
  let refs := request.records.map reference
  raiseIf (¬ refs.Nodup ∨ ¬ (refs ⊆ request.commit.outputRefs ∧ request.commit.outputRefs ⊆ refs))
    (.valueError "OUTPUT_BINDING_MISMATCH")
  let work ← store.currentWork request.commit.workId
  validateTransitionContext request.transition work
  answers.permits
  forM work.inputRefs store.checkCurrentInput
  forM request.records (store.checkOutput work)
  store.checkProposals answers work request.proposals
  .ok work

/-- The journal of a request: the first transaction of `TransitionService.commit`. -/
def prepare (answers : CommitAnswers) (request : CommitRequest) : Except PyError Registry := do
  let _ ← store.check answers request
  let transitioned ← store.save (.transition request.transition)
  let recorded ← transitioned.save (.commit request.commit)
  let commits ← required
    (recorded.commits.insert
      ⟨request.commit.transitionCommitId, request.commit.workId, .prepared, request.commit⟩)
    .sqliteError
  .ok { recorded with commits }

/-- Settle the journal of a request that is still prepared. -/
def settle (commit : TransitionCommit) : Registry :=
  { store with
    commits := store.commits.update
      (fun row => decide (row.transitionCommitId = commit.transitionCommitId
        ∧ row.state = .prepared))
      (fun row => row.settled commit) (fun row => row.settled_id commit) }

/-- `abort`. -/
def abort (stamp : Stamp) (transitionCommitId reason : String) : Except PyError Registry := do
  let row ← required (store.commits.find transitionCommitId)
    (.lookupError "No row was found when one was required")
  if row.state ≠ .prepared then .ok store
  else do
    let aborted :=
      { row.payload with
        metadata := row.payload.metadata.next stamp
        state := .aborted
        abortReason := some reason }
    let saved ← store.save (.commit aborted)
    .ok (saved.settle aborted)

/-- The commit of a request. -/
def committedOf (stamp : Stamp) (request : CommitRequest) : TransitionCommit :=
  { request.commit with
    metadata := request.commit.metadata.next stamp
    state := .committed
    committedAt := some stamp.now }

/-- The work after the commit of a request. -/
def committedWork (stamp : Stamp) (waiting : WaitingFor) (request : CommitRequest)
    (committed : TransitionCommit) (previous : WorkExecutionState) : WorkFields :=
  { previous.toWorkFields with
    metadata := previous.metadata.next stamp
    stateVersion := committed.targetStateVersion
    status := committed.targetStatus
    activeAttemptId := none
    lastTransitionRef := some committed.transitionRef
    lastTransitionCommitRef := some (reference (.commit committed))
    outputRefs := committed.outputRefs
    gapIds := committed.gapIds
    errorIds := committed.errorIds
    finishedAt := if committed.targetStatus = .blocked then none else some stamp.now
    stopReason := some request.transition.cause
    waitingFor := if committed.targetStatus = .blocked then [waiting] else [] }

/-- The status of an attempt that a commit ends. -/
def endedStatus : WorkStatus → AttemptStatus
  | .succeeded => .succeeded
  | .partly => .partly
  | .failed => .failed
  | _ => .cancelled

/-- End the active attempt of a committed work. -/
def endAttempt (stamp : Stamp) (previous : WorkExecutionState) (work : WorkExecutionState) :
    Except PyError Registry :=
  match previous.activeAttemptId with
  | none => .ok store
  | some attemptId => do
      let row ← required (store.attempts.find attemptId)
        (.lookupError "No row was found when one was required")
      let ended :=
        { row.payload with
          metadata := row.payload.metadata.next stamp
          status := endedStatus work.status
          finishedAt := some stamp.now
          outputRefs := work.outputRefs
          gapIds := work.gapIds
          errorIds := work.errorIds }
      let saved ← store.save (.attempt ended)
      .ok
        { saved with
          attempts := saved.attempts.update (fun other => decide (other.attemptId = attemptId))
            (fun other => { other with status := ended.status, payload := ended })
            (fun _ => rfl) }

/-- Clear the lease of a work. -/
def clearLease (workId : String) : Registry :=
  { store with
    works := store.works.update (fun row => decide (row.workId = workId)) unleased
      (fun _ => rfl) }

/-- Publish records and make each the current revision. -/
def saveAllCurrent (entries : List Entry) : Except PyError Registry :=
  entries.foldlM (fun current entry => current.saveCurrent entry) store

/-- The second transaction of `finish`, with the work it commits and what it registers. -/
def finish (answers : CommitAnswers) (stamps : CommitStamps) (request : CommitRequest) :
    Except PyError (Registry × WorkExecutionState × List Projection) := do
  let previous ← store.check answers request
  let committed := committedOf stamps.commit request
  let recorded ← store.save (.commit committed)
  let published ← recorded.saveAllCurrent request.records
  let projections ← published.hypothesisProjection answers stamps.draw previous request.proposals
  let projected ← published.saveAllCurrent (projections.flatMap Projection.entries)
  let work ← (committedWork stamps.work answers.waiting request committed previous).validate
  let ended ← projected.endAttempt stamps.attempt previous work
  let saved ← ended.saveWork stamps.process previous work
  .ok ((saved.clearLease work.workId).settle committed, previous, projections)

end Registry

end Sastsimi.Hypotheses
