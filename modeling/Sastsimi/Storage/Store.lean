import Sastsimi.Storage.RecordStore

/-!
# The runtime tables

The rows of `storage/models.py` that budgets, works, attempts and dispatches are kept in.  A
column that repeats a field of the row's payload is kept beside it, since the operations select
rows by columns and read payloads.
-/

namespace Sastsimi.Storage

open Lib Sastsimi.Runtime

/-- A row of `analysis_runs`. -/
structure RunRow where
  analysisId : String
  payload : AnalysisRunState

/-- A row of `budget_profiles`. -/
structure ProfilePin where
  analysisId : String
  kind : String
  ref : RecordRef
  deriving DecidableEq

/-- The primary key of `budget_profiles`. -/
def ProfilePin.key (pin : ProfilePin) : String × String := (pin.analysisId, pin.kind)

/-- A row of `budget_reservations`.  `actionId` is the identifier of the action's record. -/
structure ReservationRow where
  reservationId : String
  analysisId : String
  actionId : String
  status : ReservationStatus
  payload : BudgetReservation
  initialRef : RecordRef
  claimed : Bool := false
  itemCount : Option Int
  deriving DecidableEq

namespace ReservationRow

/-- The row of a finalized reservation. -/
def finalized (row : ReservationRow) (current : BudgetReservation) : ReservationRow :=
  { row with status := current.status, payload := current }

/-- The row with its claim set or cleared. -/
def withClaim (row : ReservationRow) (claimed : Bool) : ReservationRow := { row with claimed }

theorem finalized_reservationId (row : ReservationRow) (current : BudgetReservation) :
    (row.finalized current).reservationId = row.reservationId := rfl

theorem withClaim_reservationId (row : ReservationRow) (claimed : Bool) :
    (row.withClaim claimed).reservationId = row.reservationId := rfl

end ReservationRow

/-- A row of `budget_ledger_entries`. -/
structure LedgerRow where
  ledgerEntryId : String
  reservationId : String
  analysisId : String
  sequence : Nat
  payload : BudgetLedgerEntry
  deriving DecidableEq

/-- A row of `work_states`. -/
structure WorkRow where
  workId : String
  analysisId : String
  registrationKey : String
  status : WorkStatus
  stateVersion : Nat
  activeAttemptId : Option String
  payload : WorkExecutionState
  workerId : Option String := none
  leaseExpiresAt : Option Nat := none
  deriving DecidableEq

namespace WorkRow

/-- The row of a work's next revision. -/
def revised (row : WorkRow) (work : WorkExecutionState) : WorkRow :=
  { row with
    status := work.status
    stateVersion := work.stateVersion
    activeAttemptId := work.activeAttemptId
    payload := work }

/-- The row with a worker and the end of its lease. -/
def leased (row : WorkRow) (workerId : String) (leaseExpiresAt : Nat) : WorkRow :=
  { row with workerId := some workerId, leaseExpiresAt := some leaseExpiresAt }

theorem revised_workId (row : WorkRow) (work : WorkExecutionState) :
    (row.revised work).workId = row.workId := rfl

theorem leased_workId (row : WorkRow) (workerId : String) (leaseExpiresAt : Nat) :
    (row.leased workerId leaseExpiresAt).workId = row.workId := rfl

end WorkRow

/-- A row of `work_attempts`. -/
structure AttemptRow where
  attemptId : String
  workId : String
  attemptNumber : Nat
  status : AttemptStatus
  payload : WorkAttempt
  deriving DecidableEq

/-- A row of `action_requests`. -/
structure RequestRow where
  actionId : String
  requestRef : RecordRef
  decisionRef : RecordRef
  deriving DecidableEq

/-- A row of `action_decisions`. -/
structure DecisionRow where
  decisionId : String
  actionId : String
  payload : ActionDecision
  deriving DecidableEq

/-- A row of `external_dispatches`. -/
structure DispatchRow where
  actionId : String
  workId : String
  attemptId : String
  decisionRef : RecordRef
  reservationRef : RecordRef
  preparedAt : Nat
  dispatchedAt : Option Nat := none
  returnedAt : Option Nat := none
  providerRequestId : Option String := none
  idempotencyKey : Option String := none
  reconciledAt : Option Nat := none
  deriving DecidableEq

namespace DispatchRow

/-- The row of a dispatched request. -/
def dispatchedBy (row : DispatchRow) (now : Nat) (providerRequestId idempotencyKey : Option String) :
    DispatchRow :=
  { row with dispatchedAt := some now, providerRequestId, idempotencyKey }

/-- The row of a request that returned. -/
def returnedBy (row : DispatchRow) (now : Nat) : DispatchRow := { row with returnedAt := some now }

/-- The row of a request whose outcome is settled without a return. -/
def reconciledBy (row : DispatchRow) (now : Nat) : DispatchRow :=
  { row with reconciledAt := some now }

/-- When a request was sent, and by which attempt. -/
def sent (row : DispatchRow) : Option Nat × String := (row.dispatchedAt, row.attemptId)

theorem dispatchedBy_actionId (row : DispatchRow) (now : Nat)
    (providerRequestId idempotencyKey : Option String) :
    (row.dispatchedBy now providerRequestId idempotencyKey).actionId = row.actionId := rfl

theorem returnedBy_actionId (row : DispatchRow) (now : Nat) :
    (row.returnedBy now).actionId = row.actionId := rfl

theorem reconciledBy_actionId (row : DispatchRow) (now : Nat) :
    (row.reconciledBy now).actionId = row.actionId := rfl

end DispatchRow

/-- A row of `run_controls`: the latch of a requested cancellation. -/
structure RunControlRow where
  analysisId : String
  cancelRequestedAt : Nat
  cancelReason : String
  quiescentAt : Option Nat := none
  deriving DecidableEq

/-- A row of `current_records`. -/
structure PointerRow where
  logicalRecordId : String
  recordId : String
  stateVersion : Nat
  deriving DecidableEq

namespace PointerRow

/-- The row with another current revision. -/
def moved (row current : PointerRow) : PointerRow :=
  { row with recordId := current.recordId, stateVersion := current.stateVersion }

theorem moved_logicalRecordId (row current : PointerRow) :
    (row.moved current).logicalRecordId = row.logicalRecordId := rfl

end PointerRow

/-- The tables of the runtime database. -/
structure Store where
  records : RecordStore := {}
  runs : Table RunRow.analysisId := .empty
  profiles : Table ProfilePin.key := .empty
  reservations : Table ReservationRow.reservationId := .empty
  ledger : Table LedgerRow.ledgerEntryId := .empty
  works : Table WorkRow.workId := .empty
  attempts : Table AttemptRow.attemptId := .empty
  requests : Table RequestRow.actionId := .empty
  decisions : Table DecisionRow.decisionId := .empty
  dispatches : Table DispatchRow.actionId := .empty
  controls : Table RunControlRow.analysisId := .empty
  pointers : Table PointerRow.logicalRecordId := .empty

namespace Store

variable [ContentHash] (store : Store)

/-- Resolve an exact published record. -/
def resolve (ref : RecordRef) : Except PyError Record := store.records.resolve ref

/-- Resolve a staged record that need not be published. -/
def resolveCandidate (ref : RecordRef) : Except PyError Record := store.records.resolve ref true

/-- Stage a record and publish it. -/
def save (record : Record) : Except PyError Store := do
  let records ← store.records.save record
  .ok { store with records }

/-- `get_run`. -/
def getRun (analysisId : String) : Except PyError AnalysisRunState := do
  let row ← required (store.runs.find analysisId) (.valueError "BUDGET run state is unavailable")
  .ok row.payload

end Store

end Sastsimi.Storage
