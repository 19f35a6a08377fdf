import Sastsimi.Hypotheses.ProposalCommits

/-!
# Calls of commit

`TransitionService.commit` journals a request in one transaction and finishes it in another, or
aborts it; `recover_prepared` takes up what a process that died left prepared; and
`cancel_in_transaction` journals and commits the cancellation of a work at once.  Processes call
them side by side, and what one of them does between two of its transactions is its own.  A process
that dies takes no further turn.
-/

namespace Sastsimi.Hypotheses

open Lib Sastsimi.Runtime Sastsimi.Storage

/-- `str(error)`. -/
def errorText : PyError → String
  | .valueError message | .lookupError message | .runtimeError message => message
  | .osError => "OSError"
  | .sqliteError => "IntegrityError"

/-- `except (ValueError, LookupError)`. -/
def isRejection : PyError → Bool
  | .valueError _ | .lookupError _ => true
  | _ => false

/-! ## Cancellation -/

/-- The identifiers and the moments a cancellation draws. -/
structure CancelIds where
  transitionRecordId : String
  transitionId : String
  commitRecordId : String
  transitionCommitId : String
  decisionRef : RecordRef
  commit : Stamp
  attempt : Stamp
  work : Stamp
  process : Stamp

/-- The metadata of a work's record, with the active attempt. -/
def withAttempt (record : RecordMeta) (attemptId : Option String) : RecordMeta :=
  match record.scope with
  | .run _ => record
  | .code analysisId workspaceId commitId hypothesisId _ =>
      { record with scope := .code analysisId workspaceId commitId hypothesisId attemptId }

/-- `CANCELLATION_REQUESTED`. -/
def cancellationCause : String := "CANCELLATION_REQUESTED"

/-- An open work may be cancelled. -/
theorem allowed_cancelled {status : WorkStatus} (opened : status.terminal = false) :
    allowedTransition status .cancelled = true := by
  cases status <;> first | rfl | cases opened

section

variable [EntryHash] (ids : CancelIds) (work : WorkExecutionState)

/-- The transition of a work to `CANCELLED`. -/
def cancelTransition : StateTransition where
  metadata :=
    freshMeta (withAttempt work.metadata work.activeAttemptId) "state_transition"
      ids.transitionRecordId ids.commit.now
  transitionId := ids.transitionId
  workId := work.workId
  actionDecisionRef := ids.decisionRef
  fromStatus := work.status
  toStatus := .cancelled
  expectedStateVersion := work.stateVersion
  newStateVersion := work.stateVersion + 1
  attemptId := work.activeAttemptId
  cause := cancellationCause
  createdAt := ids.commit.now

/-- The request that the journal of a cancellation stands for.  It has no records. -/
def cancelRequest (opened : work.status.terminal = false) : CommitRequest where
  transition := cancelTransition ids work
  commit :=
    { metadata :=
        freshMeta (withAttempt work.metadata work.activeAttemptId) "transition_commit"
          ids.commitRecordId ids.commit.now
      transitionCommitId := ids.transitionCommitId
      workId := work.workId
      transitionRef := reference (.transition (cancelTransition ids work))
      expectedStateVersion := work.stateVersion
      targetStateVersion := work.stateVersion + 1
      attemptId := work.activeAttemptId
      targetStatus := .cancelled
      outputRefs := work.outputRefs
      gapIds := work.gapIds
      errorIds := work.errorIds
      state := .prepared
      preparedAt := ids.commit.now }
  proposals := []
  allowed := allowed_cancelled opened
  versions := rfl
  workId := rfl
  expectedStateVersion := rfl
  targetStateVersion := rfl
  attemptId := rfl
  targetStatus := rfl
  committable := .inr rfl
  prepared := rfl

/-- The work after its cancellation. -/
def cancelledWork (committed : TransitionCommit) : WorkFields :=
  { work.toWorkFields with
    metadata := work.metadata.next ids.work
    status := .cancelled
    stateVersion := work.stateVersion + 1
    activeAttemptId := none
    lastTransitionRef := some committed.transitionRef
    lastTransitionCommitRef := some (reference (.commit committed))
    waitingFor := []
    stopReason := some cancellationCause
    finishedAt := some ids.commit.now }

end

namespace Registry

variable [EntryHash] (store : Registry)

/-- Insert the prepared row of a request. -/
def insertCommit (request : CommitRequest) : Except PyError Registry := do
  let commits ← required
    (store.commits.insert
      ⟨request.commit.transitionCommitId, request.commit.workId, .prepared, request.commit⟩)
    .sqliteError
  .ok { store with commits }

/-- End the running attempt of a cancelled work. -/
def cancelAttempt (ids : CancelIds) (work : WorkExecutionState) : Except PyError Registry :=
  match work.activeAttemptId with
  | none => .ok store
  | some attemptId => do
      let row ← required
        ((store.attempts.find attemptId).filter fun row => decide (row.status = .running))
        (.lookupError "No row was found when one was required")
      let ended :=
        { row.payload with
          metadata := row.payload.metadata.next ids.attempt
          status := .cancelled
          finishedAt := some ids.commit.now }
      let saved ← store.save (.attempt ended)
      .ok
        { saved with
          attempts := saved.attempts.update (fun other => decide (other.attemptId = attemptId))
            (fun other => { other with status := ended.status, payload := ended })
            (fun _ => rfl) }

/-- `cancel_in_transaction` of an open work.  The answer is that of the authorization. -/
def cancel (answer : Except PyError Unit) (ids : CancelIds) (work : WorkExecutionState)
    (request : CommitRequest) : Except PyError Registry := do
  answer
  validateTransitionContext request.transition work
  let transitioned ← store.save (.transition request.transition)
  let prepared ← transitioned.save (.commit request.commit)
  let inserted ← prepared.insertCommit request
  let committed := committedOf ids.commit request
  let recorded ← inserted.save (.commit committed)
  let cancelled ← (cancelledWork ids work committed).validate
  let ended ← (recorded.settle committed).cancelAttempt ids work
  let saved ← ended.saveWork ids.process work cancelled
  .ok (saved.clearLease work.workId)

end Registry

/-! ## Calls -/

/-- The identifier a request is journaled under. -/
def CommitRequest.transitionCommitId (request : CommitRequest) : String :=
  request.commit.transitionCommitId

/-- Where a call is between two of its transactions.  A guarded call aborts what `finish`
rejects. -/
inductive CallState where
  | preparing
  | checking (guarded : Bool)
  | finishing (guarded : Bool)
  | aborting (error : PyError)
  | returned (commit : TransitionCommit)
  | rejected (error : PyError)
  | raised (error : PyError)

/-- A call that commits a request. -/
structure Call where
  request : CommitRequest
  state : CallState

/-- A commit that took effect: the work it found and what it registered. -/
structure Effect where
  request : CommitRequest
  work : WorkExecutionState
  projections : List Projection := []

/-- The registry with the processes that commit.  The journal keeps what `candidate_binding` and
`request` of a row of `transition_commits` stand for: the records of the request are staged and
stay what they are. -/
structure Machine where
  system : System
  journal : Table CommitRequest.transitionCommitId := .empty
  calls : List Call := []
  effects : List Effect := []

/-- A transaction of the other services. -/
inductive WorkStep where
  | enqueue (answer : Except PyError Unit) (ids : ChildIds) (sourceRef : RecordRef)
      (proposalId : String)
  | register (answer : Except PyError Unit) (work : WorkExecutionState)
  | move (answer : Except PyError Unit) (stamp process : Stamp) (change : WorkMove)
      (workId : String)

/-- The transaction as one of the runtime. -/
def WorkStep.step : WorkStep → Step
  | .enqueue answer ids sourceRef proposalId => .enqueue answer ids sourceRef proposalId
  | .register answer work => .register answer work
  | .move answer stamp process change workId => .move answer stamp process change workId

/-- A turn: another service's transaction, a cancellation, a call that begins, or the next
transaction of a call. -/
inductive Turn where
  | service (taken : WorkStep)
  | cancel (answer : Except PyError Unit) (ids : CancelIds) (workId : String)
  | commit (staging : Except PyError Unit) (request : CommitRequest)
  | recover (transitionCommitId : String)
  | next (call : Nat) (answers : CommitAnswers) (stamps : CommitStamps)

instance : DecidableEq CommitRequest := fun left right =>
  decidable_of_iff (left.transition = right.transition ∧ left.commit = right.commit
      ∧ left.proposals = right.proposals) <| by
    cases left
    cases right
    simp

namespace Machine

variable [EntryHash] (machine : Machine)

/-- The machine in another state of the registry. -/
def withStore (store : Registry) : Machine :=
  { machine with system := machine.system.withStore store }

/-- The cancellation of a work, unless it has ended. -/
def cancel (answer : Except PyError Unit) (ids : CancelIds) (workId : String) :
    Except PyError Machine := do
  let work ← machine.system.store.currentWork workId
  if opened : work.status.terminal = false then do
    let request := cancelRequest ids work opened
    let store ← machine.system.store.cancel answer ids work request
    let journal ← required (machine.journal.insert request) .sqliteError
    .ok { machine.withStore store with journal, effects := machine.effects ++ [⟨request, work, []⟩] }
  else .ok machine

/-- The first transaction of a commit. -/
def prepare (answers : CommitAnswers) (request : CommitRequest) : Except PyError Machine := do
  let store ← machine.system.store.prepare answers request
  let journal ← required (machine.journal.insert request) .sqliteError
  .ok { machine.withStore store with journal }

/-- The last transaction of a commit. -/
def finish (answers : CommitAnswers) (stamps : CommitStamps) (request : CommitRequest) :
    Except PyError Machine := do
  let (store, work, projections) ← machine.system.store.finish answers stamps request
  .ok
    { machine with
      system :=
        { store
          registered := machine.system.registered ++ projections.map (Registered.mk work) }
      effects := machine.effects ++ [⟨request, work, projections⟩] }

/-- What a call of `commit` does about a request that has a row in the journal. -/
def resume (request journaled : CommitRequest) (row : CommitRow) : CallState :=
  if journaled ≠ request then .raised (.valueError "TRANSITION_BINDING_MISMATCH")
  else
    match row.state with
    | .committed => .returned row.payload
    | .aborted =>
        .raised (.valueError ("Transition already ABORTED: "
          ++ row.payload.abortReason.getD "None"))
    | .prepared => .checking false

/-- `commit` reads the journal, and stages the records of a request that is not journaled yet. -/
def begin (staging : Except PyError Unit) (request : CommitRequest) : CallState :=
  let refs := request.records.map reference
  if ¬ refs.Nodup ∨ ¬ (refs ⊆ request.commit.outputRefs ∧ request.commit.outputRefs ⊆ refs) then
    .raised (.valueError "OUTPUT_BINDING_MISMATCH")
  else
    match machine.journal.find request.transitionCommitId,
        machine.system.store.commits.find request.transitionCommitId with
    | some journaled, some row => resume request journaled row
    | _, _ =>
        match staging with
        | .ok _ => .preparing
        | .error error => .raised error

/-- A transaction of `finish` raised. -/
def failed (guarded : Bool) (error : PyError) : CallState :=
  if guarded && isRejection error then .aborting error else .raised error

/-- The next transaction of a call, with the state it leaves the call in. -/
def advance (answers : CommitAnswers) (stamps : CommitStamps) (request : CommitRequest) :
    CallState → Machine × CallState
  | .preparing =>
      match machine.prepare answers request with
      | .ok after => (after, .checking true)
      | .error error => (machine, .raised error)
  | .checking guarded =>
      match machine.system.store.check answers request with
      | .ok _ => (machine, .finishing guarded)
      | .error error => (machine, failed guarded error)
  | .finishing guarded =>
      match machine.finish answers stamps request with
      | .ok after => (after, .returned (Registry.committedOf stamps.commit request))
      | .error error => (machine, failed guarded error)
  | .aborting error =>
      match machine.system.store.abort stamps.commit request.transitionCommitId
          (errorText error) with
      | .ok store => (machine.withStore store, .rejected error)
      | .error other => (machine, .raised other)
  | ended => (machine, ended)

/-- A new call. -/
def call (request : CommitRequest) (state : CallState) : Machine :=
  { machine with calls := machine.calls ++ [⟨request, state⟩] }

/-- `recover_prepared` takes up a prepared row. -/
def recover (transitionCommitId : String) : Machine :=
  match machine.journal.find transitionCommitId,
      machine.system.store.commits.find transitionCommitId with
  | some request, some row =>
      if row.state = .prepared then machine.call request (.checking true) else machine
  | _, _ => machine

/-- One turn.  A transaction that raises changes nothing but its call. -/
def turn : Turn → Machine
  | .service taken => { machine with system := machine.system.step taken.step }
  | .cancel answer ids workId =>
      match machine.cancel answer ids workId with
      | .ok after => after
      | .error _ => machine
  | .commit staging request => machine.call request (machine.begin staging request)
  | .recover transitionCommitId => machine.recover transitionCommitId
  | .next index answers stamps =>
      match machine.calls[index]? with
      | none => machine
      | some current =>
          let (after, state) := machine.advance answers stamps current.request current.state
          { after with calls := machine.calls.set index { current with state } }

/-- A run of turns, in any order. -/
def run (turns : List Turn) : Machine := turns.foldl turn machine

end Machine

end Sastsimi.Hypotheses
