import Mathlib.Data.List.MinMax
import Sastsimi.Storage.Actions

/-!
# Works and their attempts

`WorkService` keeps the current revision of every work under its state version, and
`AttemptService.start` begins an attempt of a ready work: the work, the attempt, its claim and its
lease change in one transaction.
-/

namespace Sastsimi.Storage

open Lib Sastsimi.Runtime

variable [ContentHash]

/-! ## Contexts -/

/-- `_validate_metadata_scope`. -/
def validateMetadataScope (left right : RecordMeta) : Except PyError Unit := do
  raiseIf (left.isCode ≠ right.isCode ∨ left.analysisId ≠ right.analysisId)
    (.valueError "Metadata kind or analysis scope mismatch")
  raiseIf (left.scope.sameIdentity right.scope = false)
    (.valueError "Metadata workspace/commit/hypothesis scope mismatch")

/-- `validate_transition_context`. -/
def validateTransitionContext (transition : StateTransition) (work : WorkExecutionState)
    (retryTrigger : Option AttemptTrigger := none) : Except PyError Unit := do
  validateMetadataScope transition.metadata work.metadata
  raiseIf (transition.workId ≠ work.workId
      ∨ transition.expectedStateVersion ≠ work.stateVersion
      ∨ transition.fromStatus ≠ work.status)
    (.valueError "STATE_VERSION_CONFLICT: transition does not match current work")
  raiseIf (transition.fromStatus = .running ∧ transition.attemptId ≠ work.activeAttemptId)
    (.valueError "ATTEMPT_NOT_ACTIVE")
  raiseIf (transition.fromStatus = .running ∧ transition.toStatus = .ready
      ∧ (work.workType ≠ .dynamicRepro ∨ retryTrigger ≠ some .retry))
    (.valueError "RUNNING -> READY requires dynamic session RETRY")

/-- The checks of `validate_attempt_context` against the previous attempt. -/
def validatePreviousAttempt (attempt previous : WorkAttempt) : Except PyError Unit :=
  raiseIf (previous.workId ≠ attempt.workId
      ∨ previous.attemptId = attempt.attemptId
      ∨ previous.attemptNumber + 1 ≠ attempt.attemptNumber
      ∨ previous.status = .running)
    (.valueError "Previous attempt must be ended and numbering consecutive")

/-- `validate_attempt_context`. -/
def validateAttemptContext (attempt : WorkAttempt) (work : WorkExecutionState)
    (previous : Option WorkAttempt) : Except PyError Unit := do
  raiseIf (attempt.workId ≠ work.workId ∨ attempt.inputHash ≠ work.inputHash)
    (.valueError "Attempt work/input_hash mismatch")
  raiseIf (attempt.metadata.isCode ≠ work.metadata.isCode
      ∨ attempt.metadata.analysisId ≠ work.metadata.analysisId)
    (.valueError "Attempt metadata kind or analysis mismatch")
  raiseIf (attempt.metadata.scope.sameIdentity work.metadata.scope = false)
    (.valueError "Attempt workspace/commit/hypothesis mismatch")
  raiseIf (attempt.status = .running
      ∧ (work.status ≠ .running ∨ work.activeAttemptId ≠ some attempt.attemptId))
    (.valueError "ATTEMPT_NOT_ACTIVE")
  match previous with
  | none => .ok ()
  | some previous => validatePreviousAttempt attempt previous

/-- What a projection of a work's state writes: records other than reservations, and current
pointers. -/
structure Projected (before after : Store) : Prop where
  records : before.records.Extends after.records
  frame : after = { before with records := after.records, pointers := after.pointers }
  unreserved : ∀ {ref reservation}, after.resolve ref = .ok (.reservation reservation) →
    before.resolve ref = .ok (.reservation reservation)

/-- `advance_verification_work` and `advance_dynamic_work`, whose records are not modelled. -/
structure Projections where
  advance : Store → WorkExecutionState → WorkExecutionState → Except PyError Store
  keeps : ∀ {before previous work after}, advance before previous work = .ok after →
    Projected before after

namespace Store

variable (store : Store)

/-! ## Works -/

/-- `cancel_latched`. -/
def cancelLatched (analysisId : String) : Bool := (store.controls.find analysisId).isSome

/-- `reject_cancelled`. -/
def rejectCancelled (analysisId : String) : Except PyError Unit :=
  raiseIf (store.cancelLatched analysisId = true) (.valueError "RUN_CANCELLED")

/-- The pointer to the current revision of a work. -/
def pointerOf (work : WorkExecutionState) : PointerRow :=
  ⟨work.metadata.logicalRecordId, work.metadata.recordId, work.stateVersion⟩

/-- `WorkService.point`: the current revision of a work has the next state version. -/
def point (work : WorkExecutionState) : Except PyError Store :=
  match store.pointers.find work.metadata.logicalRecordId with
  | none => do
      let pointers ← required (store.pointers.insert (pointerOf work)) .sqliteError
      .ok { store with pointers }
  | some old => do
      raiseIf (old.stateVersion + 1 ≠ work.stateVersion)
        (.valueError "STATE_VERSION_CONFLICT: current pointer")
      .ok
        { store with
          pointers := store.pointers.update
            (fun row => decide (row.logicalRecordId = work.metadata.logicalRecordId))
            (fun row => row.moved (pointerOf work))
            (fun row => row.moved_logicalRecordId (pointerOf work)) }

/-- Change the row of a work to its next revision. -/
def moveWork (previous work : WorkExecutionState) : Except PyError Store := do
  let selects := fun row : WorkRow =>
    decide (row.workId = work.workId) && decide (row.stateVersion = previous.stateVersion)
  raiseIf (store.works.count selects ≠ 1) (.valueError "STATE_VERSION_CONFLICT")
  .ok
    { store with
      works := store.works.update selects (fun row => row.revised work)
        (fun row => row.revised_workId work) }

omit [ContentHash] in
/-- A pointer moves nothing else. -/
theorem point_ok {before after : Store} {work : WorkExecutionState}
    (pointed : before.point work = .ok after) :
    after = { before with pointers := after.pointers } := by
  unfold point at pointed
  split at pointed
  · obtain ⟨_, _, returned⟩ := except_bind_ok pointed
    cases returned
    rfl
  · obtain ⟨_, returned⟩ := raiseIf_bind_ok.1 pointed
    cases returned
    rfl

/-- `WorkService.save`. -/
def saveWork (projections : Projections) (previous work : WorkExecutionState) :
    Except PyError Store := do
  let saved ← store.save (.work work)
  let moved ← saved.moveWork previous work
  let pointed ← moved.point work
  projections.advance pointed previous work

end Store

/-- A work made ready. -/
def WorkFields.readied (work : WorkFields) : WorkFields :=
  { work with
    status := .ready
    outputRefs := []
    waitingFor := []
    stopReason := none }

/-- A work whose attempt runs. -/
def WorkFields.started (work : WorkFields) (attempt : WorkAttempt) : WorkFields :=
  { work with
    status := .running
    activeAttemptId := some attempt.attemptId
    startedAt := some (work.startedAt.getD attempt.startedAt) }

namespace Store

variable (store : Store)

/-- The next revision of a work. -/
def nextWork (work : WorkFields) (metadata : RecordMeta) (transition : StateTransition) :
    Except PyError WorkExecutionState :=
  WorkFields.validate
    { work with
      metadata
      stateVersion := transition.newStateVersion
      lastTransitionRef := some (reference (.transition transition)) }

theorem nextWork_ok {work : WorkFields} {metadata : RecordMeta} {transition : StateTransition}
    {next : WorkExecutionState} (revised : nextWork work metadata transition = .ok next) :
    next.toWorkFields =
      { work with
        metadata
        stateVersion := transition.newStateVersion
        lastTransitionRef := some (reference (.transition transition)) } :=
  WorkFields.validate_ok revised

/-- `make_ready`. -/
def makeReady (authority : Authority) (projections : Projections) (stamp used : Stamp)
    (transition : StateTransition) : Except PyError (Store × WorkExecutionState) := do
  let previous ← store.currentWork transition.workId
  store.rejectCancelled previous.metadata.analysisId
  validateTransitionContext transition previous
  raiseIf (transition.toStatus ≠ .ready
      ∨ ¬ (previous.status = .pending ∨ previous.status = .blocked))
    (.valueError "STATE_TRANSITION_INVALID")
  let (claimed, _) ← store.claim authority used transition.actionDecisionRef .changeWorkState
    previous none false
  let saved ← claimed.save (.transition transition)
  let work ← nextWork previous.readied (previous.metadata.next stamp) transition
  let after ← saved.saveWork projections previous work
  .ok (after, work)

/-! ## Attempts -/

/-- The attempts of a work. -/
def attemptsOf (workId : String) : List AttemptRow :=
  store.attempts.rows.filter fun row => decide (row.workId = workId)

/-- The last attempt of a work. -/
def lastAttempt (workId : String) : Option WorkAttempt :=
  ((store.attemptsOf workId).argmax AttemptRow.attemptNumber).map AttemptRow.payload

/-- The number of running works of an analysis. -/
def runningWorks (analysisId : String) : Nat :=
  store.works.count fun row => decide (row.analysisId = analysisId) && decide (row.status = .running)

/-- Insert the row of a new attempt.  A work has one attempt of each number. -/
def insertAttempt (attempt : WorkAttempt) : Except PyError Store := do
  raiseIf (store.attempts.rows.any (fun row =>
      decide (row.workId = attempt.workId ∧ row.attemptNumber = attempt.attemptNumber)) = true)
    .sqliteError
  let attempts ← required
    (store.attempts.insert
      ⟨attempt.attemptId, attempt.workId, attempt.attemptNumber, attempt.status, attempt⟩)
    .sqliteError
  .ok { store with attempts }

/-- Lease a work to a worker. -/
def leaseWork (workId workerId : String) (leaseExpiresAt : Nat) : Store :=
  { store with
    works := store.works.update (fun row => decide (row.workId = workId))
      (fun row => row.leased workerId leaseExpiresAt)
      (fun row => row.leased_workId workerId leaseExpiresAt) }

/-- What `AttemptService.start` is called with. -/
structure AttemptStart where
  transition : StateTransition
  attempt : WorkAttempt
  reservationRef : RecordRef
  workerId : String
  leaseExpiresAt : Nat

/-- An attempt to start is fresh, and so is its lease. -/
def AttemptStart.validate (start : AttemptStart) (now : Nat) : Except PyError Unit := do
  raiseIf (start.attempt.status ≠ .running ∨ start.attempt.finishedAt ≠ none
      ∨ start.attempt.outputRefs ≠ [] ∨ start.attempt.errorIds ≠ [] ∨ start.attempt.gapIds ≠ [])
    (.valueError "ATTEMPT_NOT_ACTIVE: start requires a fresh RUNNING attempt")
  raiseIf (start.workerId = "" ∨ start.leaseExpiresAt ≤ now) (.valueError "Invalid worker lease")

/-- The limits on a start: the parallel works of the analysis, and a retry unit. -/
def checkStart (authority : Authority) (now : Nat) (start : AttemptStart)
    (previous : WorkExecutionState) : Except PyError (Option WorkAttempt) := do
  let (_, action) ← store.check authority now start.transition.actionDecisionRef .startAttempt
    previous (some start.reservationRef) true
  let reservation ← store.checkReservation authority.evidence (some start.reservationRef) action
    previous
  let profile ← store.execution reservation.budgetBindingRef previous.metadata.analysisId
  raiseIf (profile.maxParallelWork ≤ store.runningWorks previous.metadata.analysisId)
    (.valueError "BUDGET_EXCEEDED: parallel work")
  let prior := store.lastAttempt previous.workId
  raiseIf (prior = none ∧ start.attempt.attemptNumber ≠ 1)
    (.valueError "Initial attempt must have number one")
  raiseIf (prior ≠ none ∧ reservation.requestedUnits.retryCount < 1)
    (.valueError "BUDGET requires a reserved retry unit")
  .ok prior

/-- The writes of `AttemptService.start`. -/
def beginAttempt (authority : Authority) (projections : Projections) (stamp used : Stamp)
    (start : AttemptStart) (previous : WorkExecutionState) (prior : Option WorkAttempt) :
    Except PyError (Store × WorkExecutionState) := do
  let transitioned ← store.save (.transition start.transition)
  let work ← nextWork (previous.started start.attempt) (previous.metadata.next stamp)
    start.transition
  validateAttemptContext start.attempt work prior
  let (claimed, _) ← transitioned.claim authority used start.transition.actionDecisionRef
    .startAttempt previous (some start.reservationRef) true
  let recorded ← claimed.save (.attempt start.attempt)
  let saved ← recorded.saveWork projections previous work
  let inserted ← saved.insertAttempt start.attempt
  .ok (inserted.leaseWork work.workId start.workerId start.leaseExpiresAt, work)

/-- `AttemptService.start`. -/
def startAttempt (authority : Authority) (projections : Projections) (stamp used : Stamp)
    (start : AttemptStart) : Except PyError (Store × WorkExecutionState) := do
  start.validate stamp.now
  let previous ← store.currentWork start.transition.workId
  store.rejectCancelled previous.metadata.analysisId
  store.rejectUncertain previous.workId
  validateTransitionContext start.transition previous
  raiseIf (previous.status ≠ .ready ∨ start.transition.toStatus ≠ .running
      ∨ start.transition.attemptId ≠ some start.attempt.attemptId)
    (.valueError "ATTEMPT_NOT_ACTIVE")
  let prior ← store.checkStart authority stamp.now start previous
  store.beginAttempt authority projections stamp used start previous prior

end Store

end Sastsimi.Storage
