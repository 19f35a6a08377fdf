import Sastsimi.Hypotheses.Proposals

/-!
# Works for proposals

`enqueue_ready` registers one work for each child of a chaining result, under a key of the result
and of the child, and makes it ready.  Any other work for proposals is registered by
`WorkService.register`.
-/

namespace Sastsimi.Hypotheses

open Lib Sastsimi.Runtime Sastsimi.Storage

/-- `CHAINING_CHILD_SOURCE_MISMATCH`. -/
def childMismatch : PyError := .valueError "CHAINING_CHILD_SOURCE_MISMATCH"

/-- The identifiers and the moments of a work that is registered and made ready. -/
structure ChildIds where
  workId : String
  workRecordId : String
  transitionRecordId : String
  transitionId : String
  decisionRef : RecordRef
  ready : Stamp
  now : Nat

section

variable [EntryHash] (ids : ChildIds) (source : RecordMeta) (sourceRef : RecordRef)
  (proposalId : String)

/-- The key `enqueue_ready` registers a child under. -/
def childKey : String := EntryHash.valueHash (.child sourceRef proposalId)

/-- `_pending`. -/
def childFields : WorkFields where
  metadata := freshMeta (withHypothesis source none) "work_execution_state" ids.workRecordId ids.now
  workId := ids.workId
  workType := .hypothesisProposal
  subjectType := .proposal
  subjectId := proposalId
  inputHash := EntryHash.valueHash (.inputs [sourceRef])
  dedupeKey := childKey sourceRef proposalId
  inputRefs := [sourceRef]

/-- `_transition` of a work to `READY`. -/
def readyTransition (work : WorkExecutionState) : StateTransition where
  metadata := freshMeta work.metadata "state_transition" ids.transitionRecordId ids.now
  transitionId := ids.transitionId
  workId := work.workId
  actionDecisionRef := ids.decisionRef
  fromStatus := work.status
  toStatus := .ready
  expectedStateVersion := work.stateVersion
  newStateVersion := work.stateVersion + 1
  attemptId := none
  cause := "CHAINING_CHILD_READY"
  createdAt := ids.now

end

/-- The key `WorkService.register` registers a work under. -/
def registrationKey [EntryHash] (work : WorkExecutionState) : String :=
  EntryHash.valueHash
    (.registration work.metadata.analysisId work.workType work.subjectId work.workGeneration
      work.dedupeKey)

namespace Registry

variable [EntryHash] (store : Registry)

/-- The row registered under a key. -/
def registeredUnder (key : String) : Option WorkRow :=
  store.works.rows.find? fun row => decide (row.registrationKey = key)

/-- Publish a pending work under a key. -/
def registerPending (key : String) (work : WorkExecutionState) : Except PyError Registry := do
  let saved ← store.save (.work work)
  let inserted ← saved.insertWork key work
  inserted.point work

/-- `WorkService.register` of a work without a parent.  The answer is that of the authorization
and of the budget. -/
def registerWork (answer : Except PyError Unit) (work : WorkExecutionState) :
    Except PyError (Registry × WorkExecutionState) :=
  match store.registeredUnder (registrationKey work) with
  | some old => .ok (store, old.payload)
  | none => do
      raiseIf (work.status ≠ .pending) (.valueError "New work must be PENDING")
      answer
      let registered ← store.registerPending (registrationKey work) work
      .ok (registered, work)

/-- `_source`: the child of a committed chaining result. -/
def childSource (sourceRef : RecordRef) (proposalId : String) : Except PyError RecordMeta := do
  let source ← store.resolve sourceRef
  match source with
  | .chainingResult result => do
      store.requireCommitted source .chaining
      match result.children.filter fun child => decide (child.proposalId = proposalId) with
      | [proposal] => do
          raiseIf (proposal.origin ≠ .chaining
              ∨ (scopeNames proposal.metadata).1 ≠ (scopeNames result.metadata).1
              ∨ (scopeNames proposal.metadata).2.1 ≠ (scopeNames result.metadata).2.1)
            childMismatch
          .ok result.metadata
      | _ => .error childMismatch
  | _ => .error childMismatch

/-- `_make_ready`. -/
def makeChildReady (ids : ChildIds) (pending : WorkExecutionState) :
    Except PyError (Registry × WorkExecutionState) := do
  let transition := readyTransition ids pending
  let transitioned ← store.save (.transition transition)
  let ready ← WorkMove.validated
    { status := .ready, transitionRef := reference (.transition transition) } ids.ready pending
  let saved ← transitioned.saveWork ids.ready pending ready
  .ok (saved, ready)

/-- `enqueue_ready`.  The answer is that of the configuration, of the authorization and of the
budget, and for a child that has a work that the work is its own. -/
def enqueueReady (answer : Except PyError Unit) (ids : ChildIds) (sourceRef : RecordRef)
    (proposalId : String) : Except PyError (Registry × WorkExecutionState) := do
  raiseIf (sourceRef.dataKind ≠ "chaining_result") (.valueError "CHAINING_CHILD_REF_KIND")
  let source ← store.childSource sourceRef proposalId
  answer
  match store.registeredUnder (childKey sourceRef proposalId) with
  | some old => .ok (store, old.payload)
  | none => do
      let pending ← (childFields ids source sourceRef proposalId).validate
      let registered ← store.registerPending (childKey sourceRef proposalId) pending
      registered.makeChildReady ids pending

end Registry

/-! ## Runs -/

/-- A transaction on the works for proposals. -/
inductive Step where
  | enqueue (answer : Except PyError Unit) (ids : ChildIds) (sourceRef : RecordRef)
      (proposalId : String)
  | register (answer : Except PyError Unit) (work : WorkExecutionState)
  | move (answer : Except PyError Unit) (stamp process : Stamp) (change : WorkMove)
      (workId : String)
  | prepare (answers : CommitAnswers) (request : CommitRequest)
  | finish (answers : CommitAnswers) (stamps : CommitStamps) (request : CommitRequest)
  | abort (stamp : Stamp) (transitionCommitId reason : String)

/-- A hypothesis registered by a commit of a work. -/
structure Registered where
  work : WorkExecutionState
  projection : Projection

/-- The registry, and what the commits have registered. -/
structure System where
  store : Registry
  registered : List Registered := []

namespace System

variable [EntryHash] (system : System)

/-- The system in another state of the registry. -/
def withStore (store : Registry) : System := { system with store }

/-- A transaction that returns. -/
def perform : Step → Except PyError System
  | .enqueue answer ids sourceRef proposalId => do
      let (store, _) ← system.store.enqueueReady answer ids sourceRef proposalId
      .ok (system.withStore store)
  | .register answer work => do
      let (store, _) ← system.store.registerWork answer work
      .ok (system.withStore store)
  | .move answer stamp process change workId => do
      let (store, _) ← system.store.moveTo answer stamp process change workId
      .ok (system.withStore store)
  | .prepare answers request => do
      let store ← system.store.prepare answers request
      .ok (system.withStore store)
  | .finish answers stamps request => do
      let (store, work, projections) ← system.store.finish answers stamps request
      .ok
        { store
          registered := system.registered ++ projections.map (Registered.mk work) }
  | .abort stamp transitionCommitId reason => do
      let store ← system.store.abort stamp transitionCommitId reason
      .ok (system.withStore store)

/-- A transaction that raises changes nothing. -/
def step (taken : Step) : System :=
  match system.perform taken with
  | .ok after => after
  | .error _ => system

/-- A run of transactions. -/
def run (steps : List Step) : System := steps.foldl step system

end System

end Sastsimi.Hypotheses
