import Sastsimi.Storage.Budget

/-!
# Actions and their dispatches

`RuntimeValidator` uses an issued decision once, claims the reservation that pays for it, and
keeps a dispatch row for every external action.  A request whose outcome is unknown stops every
other request and attempt of its work; recovery releases only what was never dispatched.
-/

namespace Sastsimi.Storage

open Lib Sastsimi.Runtime

variable [ContentHash]

/-- What decides about an action besides the tables modelled here: the trusted evidence, and the
checks of roles, owners, stages and inputs, which only raise. -/
structure Authority where
  evidence : TrustedEvidence
  recoveryFailed : Bool := false
  permitsClaim : Store → ActionDecision → ActionRequest → WorkExecutionState → Except PyError Unit
  permitsDispatch :
    Store → ActionDecision → ActionRequest → WorkExecutionState → Except PyError Unit

/-- A request that was dispatched and has neither returned nor been reconciled. -/
def DispatchRow.unresolved (row : DispatchRow) : Bool :=
  row.dispatchedAt.isSome && row.returnedAt.isNone && row.reconciledAt.isNone

/-- An external action. -/
def externalAction : Record → Except PyError ActionRequest
  | .action action =>
      if action.actionType.isExternal = true then .ok action
      else .error (.valueError "ACTION_TYPE_MISMATCH")
  | _ => .error (.valueError "ACTION_TYPE_MISMATCH")

namespace Store

variable (store : Store)

/-! ## Reservations of an action -/

/-- The reservation of an action is open for it, and its limits still hold. -/
def checkReservation (evidence : TrustedEvidence) (ref : Option RecordRef)
    (action : ActionRequest) (work : WorkExecutionState) (allowClaimed : Bool := false) :
    Except PyError BudgetReservation := do
  let ref ← required ref (.valueError "BUDGET reservation required")
  let reservation ← store.exactReservation ref "BUDGET reservation required"
  raiseIf (action.actionType = .registerWork ∧ reservation.requestedUnits.workCount < 1)
    (.valueError "BUDGET reservation must include the new work")
  raiseIf (action.actionType.callsModel = true ∧ reservation.requestedUnits.llmCallCount < 1)
    (.valueError "BUDGET reservation must include the LLM call")
  let _ ← required
    ((store.reservations.find reservation.reservationId).filter fun row =>
      decide (row.status = .reserved) && (!row.claimed || allowClaimed))
    (.valueError "BUDGET reservation is unavailable or already claimed")
  raiseIf (reservation.actionRef ≠ reference (.action action)
      ∨ reservation.workRef ≠ reference (.work work)
      ∨ reservation.metadata.analysisId ≠ work.metadata.analysisId)
    (.valueError "BUDGET reservation action/work mismatch")
  let _ ← store.execution reservation.budgetBindingRef work.metadata.analysisId
  store.validateOperation evidence reservation work action
  .ok reservation

/-- Set or clear the claim of a reservation. -/
def setClaim (reservationId : String) (claimed : Bool) : Store :=
  { store with
    reservations := store.reservations.update
      (fun row => decide (row.reservationId = reservationId))
      (fun row => row.withClaim claimed)
      (fun row => row.withClaim_reservationId claimed) }

/-! ## Decisions -/

/-- The decision a reference resolves to. -/
def exactDecision (ref : RecordRef) (message : String) : Except PyError ActionDecision := do
  match ← store.resolve ref with
  | .decision decision => .ok decision
  | _ => .error (.valueError message)

/-- The action a reference resolves to. -/
def exactAction (ref : RecordRef) (message : String) : Except PyError ActionRequest := do
  match ← store.resolve ref with
  | .action action => .ok action
  | _ => .error (.valueError message)

/-- An expired decision, or one that allows nothing. -/
def expired (decision : ActionDecision) (now : Nat) : Prop :=
  ∀ moment ∈ decision.validUntil, moment < now

instance (decision : ActionDecision) (now : Nat) : Decidable (expired decision now) :=
  inferInstanceAs (Decidable (∀ _ ∈ _, _))

/-- The budget checks of `check`: the decision was checked against the binding and its work
profile. -/
def checkPaid (authority : Authority) (decision : ActionDecision) (action : ActionRequest)
    (work : WorkExecutionState) (reservationRef : Option RecordRef) : Except PyError Unit := do
  let reservation ← store.checkReservation authority.evidence reservationRef action work
  match ← store.resolve reservation.budgetBindingRef with
  | .binding binding =>
      raiseIf (¬ (reservation.budgetBindingRef ∈ decision.checkedConfigRefs
          ∧ binding.workBudgetProfileRef ∈ decision.checkedConfigRefs))
        (.valueError "BUDGET checked binding/work profile references are required")
  | _ => .ok ()

/-- `check`. -/
def check (authority : Authority) (now : Nat) (decisionRef : RecordRef) (kind : ActionType)
    (work : WorkExecutionState) (reservationRef : Option RecordRef) (needsBudget : Bool) :
    Except PyError (ActionDecision × ActionRequest) := do
  raiseIf (authority.recoveryFailed = true) (.valueError "RECOVERY_FAILED")
  let decision ← store.exactDecision decisionRef "ACTION_INVALID"
  let action ← store.exactAction decision.actionRef "ACTION_TYPE_MISMATCH"
  raiseIf (action.actionType ≠ kind) (.valueError "ACTION_TYPE_MISMATCH")
  authority.permitsClaim store decision action work
  raiseIf ((store.requests.find action.actionId).map RequestRow.decisionRef ≠ some decisionRef)
    (.valueError "AUTHORITY_DENIED: decision was not issued by validator")
  raiseIf (decision.decision ≠ .allow ∨ decision.useStatus ≠ .unused
      ∨ now < decision.decidedAt ∨ expired decision now)
    (.valueError "ACTION_EXPIRED_OR_DENIED")
  raiseIf (store.decisions.rows.any (fun row => decide (row.actionId = action.actionId)) = true)
    (.valueError "ACTION_ALREADY_USED")
  raiseIf (decision.metadata.analysisId ≠ work.metadata.analysisId
      ∨ action.metadata.analysisId ≠ work.metadata.analysisId)
    (.valueError "ACTION_ANALYSIS_MISMATCH")
  raiseIf (action.workRef ≠ none ∧ ¬ (action.workRef = some (reference (.work work))
      ∧ action.expectedStateVersion = some work.stateVersion
      ∧ decision.checkedStateVersion = some work.stateVersion))
    (.valueError "STATE_VERSION_CONFLICT")
  checkIf (needsBudget = true) (store.checkPaid authority decision action work reservationRef)
  .ok (decision, action)

/-- Insert a used decision.  An action is used at most once. -/
def insertDecision (row : DecisionRow) : Except PyError Store := do
  raiseIf (store.decisions.rows.any (fun other => decide (other.actionId = row.actionId)) = true)
    .sqliteError
  let decisions ← required (store.decisions.insert row) .sqliteError
  .ok { store with decisions }

/-- Claim the reservation of an action that needs one. -/
def claimPaid (authority : Authority) (reservationRef : Option RecordRef) (action : ActionRequest)
    (work : WorkExecutionState) (needsBudget : Bool) : Except PyError Store :=
  if needsBudget = true then do
    let reservation ← store.checkReservation authority.evidence reservationRef action work
    .ok (store.setClaim reservation.reservationId true)
  else .ok store

/-- The decision as it is used. -/
def usedDecision (decision : ActionDecision) (stamp : Stamp) : ActionDecision :=
  { decision with
    metadata := decision.metadata.next stamp
    useStatus := .used
    usedAt := some stamp.now }

/-- `claim`. -/
def claim (authority : Authority) (stamp : Stamp) (decisionRef : RecordRef) (kind : ActionType)
    (work : WorkExecutionState) (reservationRef : Option RecordRef) (needsBudget : Bool) :
    Except PyError (Store × ActionDecision) := do
  let (decision, action) ←
    store.check authority stamp.now decisionRef kind work reservationRef needsBudget
  let used := usedDecision decision stamp
  let saved ← store.save (.decision used)
  let decided ← saved.insertDecision ⟨used.decisionId, action.actionId, used⟩
  let claimed ← decided.claimPaid authority reservationRef action work needsBudget
  .ok (claimed, used)

/-! ## External requests -/

/-- `uncertain`: some request of the work was dispatched and has no known outcome. -/
def uncertain (workId : String) : Bool :=
  store.dispatches.rows.any fun row => decide (row.workId = workId) && row.unresolved

/-- `reject_uncertain`. -/
def rejectUncertain (workId : String) : Except PyError Unit :=
  raiseIf (store.uncertain workId = true)
    (.valueError "BLOCKED waiting_for=INPUT: external request outcome is unknown")

/-- The payload of a work's row. -/
def currentWork (workId : String) : Except PyError WorkExecutionState := do
  let row ← required (store.works.find workId)
    (.lookupError "No row was found when one was required")
  .ok row.payload

/-- The rows of a decision. -/
def dispatchesOf (decisionRef : RecordRef) : List DispatchRow :=
  store.dispatches.rows.filter fun row => decide (row.decisionRef = decisionRef)

/-- The used revision of an action's decision. -/
def usedDecisionOf (actionId : String) : Except PyError ActionDecision := do
  let row ← required (store.decisions.rows.find? fun row => decide (row.actionId = actionId))
    (.lookupError "No row was found when one was required")
  .ok row.payload

/-- A repeated claim before the dispatch, by the same attempt and with the same reservation. -/
def reclaimExternal (authority : Authority) (now : Nat) (existing : DispatchRow)
    (decision : ActionDecision) (action : Record) (work : WorkExecutionState)
    (reservationRef : Option RecordRef) : Except PyError RecordRef := do
  raiseIf (expired decision now) (.valueError "ACTION_EXPIRED_OR_DENIED")
  raiseIf (¬ (existing.dispatchedAt = none ∧ some existing.reservationRef = reservationRef
      ∧ existing.attemptId = work.activeAttemptId.getD "None"))
    (.valueError "ACTION_ALREADY_USED")
  match action with
  | .action action => do
      let _ ← store.checkReservation authority.evidence reservationRef action work true
      let used ← store.usedDecisionOf action.actionId
      .ok (reference (.decision used))
  | _ => .error (.valueError "ACTION_INVALID")

/-- The row of a claimed request. -/
def newDispatch (action : ActionRequest) (work : WorkExecutionState) (workId : String)
    (decisionRef reservationRef : RecordRef) (now : Nat) : DispatchRow where
  actionId := action.actionId
  workId := workId
  attemptId := work.activeAttemptId.getD "None"
  decisionRef := decisionRef
  reservationRef := reservationRef
  preparedAt := now

/-- Claim a request that has no row yet. -/
def claimFirst (authority : Authority) (stamp : Stamp) (workId : String)
    (decisionRef : RecordRef) (action : Record) (work : WorkExecutionState)
    (reservationRef : Option RecordRef) : Except PyError (Store × RecordRef) := do
  let action ← externalAction action
  let (claimed, used) ←
    store.claim authority stamp decisionRef action.actionType work reservationRef true
  let paidBy ← required reservationRef (.valueError "BUDGET reservation required")
  let dispatches ← required
    (claimed.dispatches.insert (newDispatch action work workId decisionRef paidBy stamp.now))
    .sqliteError
  .ok ({ claimed with dispatches }, reference (.decision used))

/-- `claim_external`. -/
def claimExternal (authority : Authority) (stamp : Stamp) (workId : String)
    (decisionRef : RecordRef) (reservationRef : Option RecordRef) :
    Except PyError (Store × RecordRef) := do
  raiseIf (authority.recoveryFailed = true) (.valueError "RECOVERY_FAILED")
  let work ← store.currentWork workId
  store.rejectUncertain workId
  raiseIf (work.status ≠ .running) (.valueError "ATTEMPT_NOT_ACTIVE")
  let decision ← store.exactDecision decisionRef "ACTION_INVALID"
  let action ← store.resolve decision.actionRef
  match store.dispatchesOf decisionRef with
  | existing :: _ => do
      let used ← store.reclaimExternal authority stamp.now existing decision action work
        reservationRef
      .ok (store, used)
  | [] => store.claimFirst authority stamp workId decisionRef action work reservationRef

/-- The only row of a decision. -/
def oneDispatch (decisionRef : RecordRef) : Except PyError DispatchRow :=
  match store.dispatchesOf decisionRef with
  | [row] => .ok row
  | _ => .error (.lookupError "No row was found when one was required")

/-- Mark the undispatched row of an action. -/
def setDispatched (actionId : String) (now : Nat)
    (providerRequestId idempotencyKey : Option String) : Except PyError Store := do
  let selects := fun row : DispatchRow =>
    decide (row.actionId = actionId) && row.dispatchedAt.isNone
  raiseIf (store.dispatches.count selects ≠ 1) (.valueError "ACTION_ALREADY_USED")
  .ok
    { store with
      dispatches := store.dispatches.update selects
        (fun row => row.dispatchedBy now providerRequestId idempotencyKey)
        (fun row => row.dispatchedBy_actionId now providerRequestId idempotencyKey) }

/-- The active attempt of a running work. -/
def activeAttempt (workId : String) : Option String := do
  let row ← (store.works.find workId).filter fun row => decide (row.status = .running)
  row.activeAttemptId

/-- `mark_dispatched`. -/
def markDispatched (authority : Authority) (now : Nat) (decisionRef : RecordRef)
    (providerRequestId idempotencyKey : Option String) : Except PyError Store := do
  let row ← store.oneDispatch decisionRef
  let decision ← store.exactDecision decisionRef "ACTION_EXPIRED_OR_DENIED"
  raiseIf (expired decision now) (.valueError "ACTION_EXPIRED_OR_DENIED")
  let action ← store.exactAction decision.actionRef "AssertionError"
  let work ← store.currentWork row.workId
  authority.permitsDispatch store decision action work
  let _ ← store.checkReservation authority.evidence (some row.reservationRef) action work true
  store.rejectUncertain row.workId
  raiseIf (store.activeAttempt row.workId ≠ some row.attemptId)
    (.valueError "ATTEMPT_NOT_ACTIVE")
  store.setDispatched row.actionId now providerRequestId idempotencyKey

/-- `mark_returned`. -/
def markReturned (now : Nat) (decisionRef : RecordRef) : Except PyError Store := do
  let selects := fun row : DispatchRow =>
    decide (row.decisionRef = decisionRef) && row.dispatchedAt.isSome && row.returnedAt.isNone
  raiseIf (store.dispatches.count selects ≠ 1) (.valueError "EXTERNAL_DISPATCH_MISMATCH")
  .ok
    { store with
      dispatches := store.dispatches.update selects (fun row => row.returnedBy now)
        (fun row => row.returnedBy_actionId now) }

/-! ## Retirement -/

/-- Whether nothing shows that a request was dispatched: it has no row, or an undispatched one
of the work's active attempt. -/
def undispatched (work : WorkExecutionState) (actionId : String) : Bool :=
  (store.dispatches.find actionId).all fun row =>
    row.dispatchedAt.isNone && decide (row.attemptId = work.activeAttemptId.getD "None")

/-- Release a reservation whose request was never dispatched. -/
def retire (stamp : Stamp) (reservation : BudgetReservation) (actionId : String) :
    Except PyError Store := do
  let released ← ReservationFields.validate
    { reservation.toReservationFields with
      metadata := reservation.metadata.next stamp
      status := .released
      finalizedAt := some stamp.now }
  let finalized ← store.finalize reservation released
  let cleared := finalized.setClaim reservation.reservationId false
  .ok
    { cleared with
      dispatches := cleared.dispatches.update (fun row => decide (row.actionId = actionId))
        (fun row => row.reconciledBy stamp.now) (fun row => row.reconciledBy_actionId stamp.now) }

/-- One turn of the loop of `retire_undispatched`. -/
def retireTurn (stamps : String → Stamp) (work : WorkExecutionState) (store : Store)
    (row : ReservationRow) : Except PyError Store :=
  if row.payload.workRef ≠ reference (.work work) then .ok store
  else do
    match ← store.resolve row.payload.actionRef with
    | .action action =>
        if action.actionType.isExternal = true ∧ store.undispatched work action.actionId = true
        then store.retire (stamps row.reservationId) row.payload action.actionId
        else .ok store
    | _ => .ok store

/-- `retire_undispatched`. -/
def retireUndispatched (stamps : String → Stamp) (work : WorkExecutionState) :
    Except PyError Store :=
  (store.reservedRows work.metadata.analysisId).foldlM (retireTurn stamps work) store

end Store

end Sastsimi.Storage
