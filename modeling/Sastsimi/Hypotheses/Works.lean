import Sastsimi.Hypotheses.Registry
import Sastsimi.Storage.Works

/-!
# Works of hypotheses

`WorkService.save` writes the next revision of a work and, when it is a verification, moves the
process of its hypothesis along.  Every service that changes the status of a work goes through
it.  The state of a dynamic reproduction, which `save` moves along with the works of its own
type, is left out.
-/

namespace Sastsimi.Hypotheses

open Lib Sastsimi.Runtime Sastsimi.Storage

/-- `_ALLOWED_TRANSITIONS`. -/
def allowedTransition : WorkStatus → WorkStatus → Bool
  | .pending, .ready | .pending, .cancelled => true
  | .ready, .running | .ready, .blocked | .ready, .cancelled => true
  | .running, .ready | .running, .blocked => true
  | .running, target => target.terminal
  | .blocked, .ready | .blocked, .failed | .blocked, .cancelled => true
  | .failed, .ready => true
  | _, _ => false

/-- The process state a record is. -/
def Entry.process? : Entry → Option HypothesisProcessState
  | .process record => some record
  | _ => none

namespace Registry

variable [EntryHash] (store : Registry)

/-! ## Rows -/

/-- `WorkService.point`: the current revision of a work has the next state version. -/
def point (work : WorkExecutionState) : Except PyError Registry :=
  match store.pointers.find work.metadata.logicalRecordId with
  | none => do
      let pointers ← required (store.pointers.insert (pointer work.metadata work.stateVersion))
        .sqliteError
      .ok { store with pointers }
  | some old => do
      raiseIf (old.stateVersion + 1 ≠ work.stateVersion)
        (.valueError "STATE_VERSION_CONFLICT: current pointer")
      .ok (store.movePointer work.metadata work.stateVersion)

/-- Insert the row of a new work under its registration key. -/
def insertWork (registrationKey : String) (work : WorkExecutionState) :
    Except PyError Registry := do
  raiseIf (store.works.rows.any (fun row => decide (row.registrationKey = registrationKey)) = true)
    .sqliteError
  let works ← required
    (store.works.insert
      { workId := work.workId
        analysisId := work.metadata.analysisId
        registrationKey
        status := work.status
        stateVersion := work.stateVersion
        activeAttemptId := none
        payload := work })
    .sqliteError
  .ok { store with works }

omit [EntryHash] in
/-- The current revision of a work is the one pointed to. -/
theorem point_ok {store after : Registry} {work : WorkExecutionState}
    (pointed : store.point work = .ok after) :
    after = { store with pointers := after.pointers } ∧ ∀ logicalRecordId,
      after.pointers.find logicalRecordId =
        if logicalRecordId = work.metadata.logicalRecordId
        then some (pointer work.metadata work.stateVersion)
        else store.pointers.find logicalRecordId := by
  unfold point at pointed
  split at pointed
  · obtain ⟨pointers, inserted, returned⟩ := except_bind_ok pointed
    cases returned
    exact ⟨rfl, fun _ => Table.find_insert (required_ok.1 inserted)⟩
  · rename_i old found
    obtain ⟨_, returned⟩ := raiseIf_bind_ok.1 pointed
    cases returned
    exact ⟨rfl, movePointer_find found⟩

/-- Change the row of a work to its next revision. -/
def moveWork (previous work : WorkExecutionState) : Except PyError Registry := do
  let selects := fun row : WorkRow =>
    decide (row.workId = work.workId) && decide (row.stateVersion = previous.stateVersion)
  raiseIf (store.works.count selects ≠ 1) (.valueError "STATE_VERSION_CONFLICT")
  .ok
    { store with
      works := store.works.update selects (fun row => row.revised work)
        (fun row => row.revised_workId work) }

/-! ## Verification processes -/

/-- `VERIFICATION_PROCESS_CONFLICT`. -/
def processConflict : PyError := .valueError "VERIFICATION_PROCESS_CONFLICT"

/-- Replace the current revision of a record by its successor. -/
def replaceCurrent (previous current : RecordMeta) : Except PyError Registry := do
  let selects := fun row : PointerRow =>
    decide (row.logicalRecordId = previous.logicalRecordId)
      && decide (row.recordId = previous.recordId)
  raiseIf (store.pointers.count selects ≠ 1) processConflict
  .ok
    { store with
      pointers := store.pointers.update selects
        (fun row => row.moved (pointer current current.revisionNumber))
        (fun row => row.moved_logicalRecordId (pointer current current.revisionNumber)) }

/-- The process a verification's next revision leads to. -/
def trackedProcess (stamp : Stamp) (process : HypothesisProcessState)
    (work : WorkExecutionState) : ProcessFields :=
  { process.toProcessFields with
    metadata := process.metadata.next stamp
    verificationWorkRef := some (reference (.work work))
    status :=
      match work.status with
      | .failed => .failed
      | .cancelled => .cancelled
      | _ => process.status
    finishedAt :=
      match work.status with
      | .failed | .cancelled => some stamp.now
      | _ => process.finishedAt }

/-- Move the process of a verification along with the work. -/
def trackVerification (stamp : Stamp) (process : HypothesisProcessState)
    (previous work : WorkExecutionState) : Except PyError Registry :=
  if process.status ≠ .verifying then .ok store
  else do
    raiseIf (process.verificationWorkRef ≠ some (reference (.work previous))
        ∨ process.verificationGeneration ≠ work.workGeneration)
      processConflict
    raiseIf (work.status = .succeeded) (.valueError "VERIFICATION_FINAL_RESULT_REQUIRED")
    let updated ← (trackedProcess stamp process work).validate
    let saved ← store.save (.process updated)
    saved.replaceCurrent process.metadata updated.metadata

/-- `advance_verification_work`. -/
def advanceVerificationWork (stamp : Stamp) (previous work : WorkExecutionState) :
    Except PyError Registry :=
  if work.workType ≠ .verification then .ok store
  else
    match store.currentScoped Entry.process? work.metadata with
    | [] => .ok store
    | [process] => store.trackVerification stamp process previous work
    | _ => .error processConflict

/-- `WorkService.save`. -/
def saveWork (stamp : Stamp) (previous work : WorkExecutionState) : Except PyError Registry := do
  let saved ← store.save (.work work)
  let moved ← saved.moveWork previous work
  let pointed ← moved.point work
  pointed.advanceVerificationWork stamp previous work

end Registry

/-! ## Moves -/

/-- What a move of a work changes besides its revision. -/
structure WorkMove where
  status : WorkStatus
  transitionRef : RecordRef
  activeAttemptId : Option String := none
  waitingFor : List WaitingFor := []
  stopReason : Option String := none
  errorIds : List String := []
  startedAt : Option Nat := none
  finishedAt : Option Nat := none

/-- The next revision of a work that a move leads to.  It has no results. -/
def WorkMove.next (move : WorkMove) (stamp : Stamp) (previous : WorkExecutionState) : WorkFields :=
  { previous.toWorkFields with
    metadata := previous.metadata.next stamp
    status := move.status
    stateVersion := previous.stateVersion + 1
    lastTransitionRef := some move.transitionRef
    activeAttemptId := move.activeAttemptId
    outputRefs := []
    waitingFor := move.waitingFor
    stopReason := move.stopReason
    errorIds := move.errorIds
    startedAt := move.startedAt
    finishedAt := move.finishedAt }

/-- The next revision of a work that a move leads to, as a valid one. -/
def WorkMove.validated (move : WorkMove) (stamp : Stamp) (previous : WorkExecutionState) :
    Except PyError WorkExecutionState :=
  (move.next stamp previous).validate

namespace Registry

variable [EntryHash] (store : Registry)

/-- A move of a work: it is made ready, claimed, blocked, parked, resumed, recovered, failed or
cancelled.  Only reproductions leave `FAILED`.  What else admits the move is the answer of the
service that makes it. -/
def moveTo (answer : Except PyError Unit) (workStamp processStamp : Stamp) (move : WorkMove)
    (workId : String) : Except PyError (Registry × WorkExecutionState) := do
  let previous ← store.currentWork workId
  answer
  raiseIf (allowedTransition previous.status move.status = false
      ∨ previous.status = .failed ∨ move.status = .succeeded)
    (.valueError "STATE_TRANSITION_INVALID")
  let work ← move.validated workStamp previous
  let after ← store.saveWork processStamp previous work
  .ok (after, work)

end Registry

end Sastsimi.Hypotheses
