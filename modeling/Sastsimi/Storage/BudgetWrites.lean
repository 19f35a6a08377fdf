import Mathlib.Logic.Relation
import Sastsimi.Storage.Actions

/-!
# What budget transactions write

Every transaction of the budget is a sequence of writes: a reservation is inserted, its claim is
set, or it is closed by a release or by a ledger entry.  Beside these the records grow, and a run
keeps its purpose and its profiles.
-/

namespace Sastsimi.Storage

open Lib Sastsimi.Runtime

variable [ContentHash]

/-! ## Growth -/

/-- A later state of a run keeps the purpose and the profiles of the earlier one. -/
structure AnalysisRunState.Continues (before after : AnalysisRunState) : Prop where
  purpose : after.purpose = before.purpose
  execution : after.executionBudgetProfileRef = before.executionBudgetProfileRef
  binding : ∀ {ref}, before.budgetBindingRef = some ref → after.budgetBindingRef = some ref

/-- What every transaction on the store keeps: records are added, and runs continue. -/
structure Grows (before after : Store) : Prop where
  records : before.records.Extends after.records
  runs : ∀ {analysisId state}, before.getRun analysisId = .ok state →
    ∃ later, after.getRun analysisId = .ok later ∧ state.Continues later

omit [ContentHash] in
theorem AnalysisRunState.Continues.refl (state : AnalysisRunState) : state.Continues state :=
  ⟨rfl, rfl, id⟩

omit [ContentHash] in
theorem Grows.refl (store : Store) : Grows store store :=
  ⟨.refl _, fun found => ⟨_, found, .refl _⟩⟩

variable {before after middle : Store}

omit [ContentHash] in
theorem Grows.trans (first : Grows before middle) (second : Grows middle after) :
    Grows before after := by
  refine ⟨first.records.trans second.records, ?_⟩
  intro analysisId state found
  obtain ⟨between, stored, continues⟩ := first.runs found
  obtain ⟨later, last, continued⟩ := second.runs stored
  exact ⟨later, last, continued.purpose.trans continues.purpose,
    continued.execution.trans continues.execution,
    fun bound => continued.binding (continues.binding bound)⟩

omit [ContentHash] in
/-- Records may be added without a change of the runs. -/
theorem Grows.of_records (records : before.records.Extends after.records)
    (runs : after.runs = before.runs) : Grows before after := by
  refine ⟨records, ?_⟩
  intro analysisId state found
  rw [Store.getRun, ← runs] at found
  exact ⟨state, found, .refl state⟩

theorem Grows.resolve (grows : Grows before after) {ref : RecordRef} {record : Record}
    (resolved : before.resolve ref = .ok record) : after.resolve ref = .ok record :=
  grows.records.resolve resolved

theorem Grows.resolveCandidate (grows : Grows before after) {ref : RecordRef} {record : Record}
    (resolved : before.resolveCandidate ref = .ok record) :
    after.resolveCandidate ref = .ok record :=
  grows.records.resolve resolved

/-! ## Single functions -/

theorem Store.save_ok {record : Record} (saved : before.save record = .ok after) :
    after = { before with records := after.records }
      ∧ before.records.Extends after.records
      ∧ after.resolve (reference record) = .ok record := by
  obtain ⟨records, stored, returned⟩ := except_bind_ok saved
  cases returned
  exact ⟨rfl, RecordStore.save_ok stored⟩

omit [ContentHash] in
/-- A revision of a reservation settles an open one and keeps what it reserved. -/
theorem validateReservationRevision_ok {previous current : BudgetReservation}
    (valid : validateReservationRevision previous current = .ok ()) :
    previous.status = .reserved ∧ current.status ≠ .reserved
      ∧ current.reservationId = previous.reservationId
      ∧ current.metadata.analysisId = previous.metadata.analysisId
      ∧ current.budgetBindingRef = previous.budgetBindingRef
      ∧ current.actionRef = previous.actionRef ∧ current.workRef = previous.workRef
      ∧ current.requestedUnits = previous.requestedUnits := by
  obtain ⟨_, revised, rest⟩ := except_bind_ok valid
  obtain ⟨statuses, rest⟩ := raiseIf_bind_ok.1 rest
  obtain ⟨identity, _⟩ := raiseIf_bind_ok.1 revised
  have same := (raiseIf_ok.1 rest)
  push Not at statuses same identity
  have within : current.metadata.analysisId = previous.metadata.analysisId := by
    have scopes := identity.1
    rw [RecordMeta.analysisId, RecordMeta.analysisId]
    revert scopes
    cases current.metadata.scope <;> cases previous.metadata.scope <;>
      simp +contextual [MetaScope.sameIdentity]
  exact ⟨statuses.1, statuses.2, same.1.symm, within, same.2.1.symm, same.2.2.1.symm,
    same.2.2.2.1.symm, same.2.2.2.2.1.symm⟩

/-- The rows after a reservation is finalized. -/
def Store.closedRows (store : Store) (current : BudgetReservation) :
    Table ReservationRow.reservationId :=
  store.reservations.update (fun row => decide (row.reservationId = current.reservationId))
    (fun row => row.finalized current) (fun row => row.finalized_reservationId current)

theorem Store.finalize_ok {previous current : BudgetReservation}
    (finalized : before.finalize previous current = .ok after) :
    validateReservationRevision previous current = .ok ()
      ∧ before.records.Extends after.records
      ∧ after = { before with
          records := after.records, reservations := before.closedRows current } := by
  obtain ⟨_, valid, rest⟩ := except_bind_ok finalized
  obtain ⟨saved, stored, returned⟩ := except_bind_ok rest
  cases returned
  obtain ⟨shape, grows, _⟩ := Store.save_ok stored
  refine ⟨valid, grows, ?_⟩
  rw [shape]
  rfl

/-! ## Writes -/

/-- A new reservation is open, for a work and an action of its analysis, and admitted. -/
structure Admission (before : Store) (evidence : TrustedEvidence)
    (reservation : BudgetReservation) (work : WorkExecutionState) (action : ActionRequest) :
    Prop where
  opened : reservation.status = .reserved
  forWork : before.resolveCandidate reservation.workRef = .ok (.work work)
  forAction : before.resolve reservation.actionRef = .ok (.action action)
  analysis : work.metadata.analysisId = reservation.metadata.analysisId
  admitted : before.checkAdmission evidence reservation work action = .ok ()

/-- One write of the budget tables.  Only a retirement releases a claimed reservation. -/
inductive Write (retiring : Bool) (before after : Store) : Prop where
  /-- The tables of the budget stay. -/
  | keep (reservations : after.reservations = before.reservations)
      (ledger : after.ledger = before.ledger)
  /-- An admitted reservation is inserted. -/
  | reserve (evidence : TrustedEvidence) (reservation : BudgetReservation)
      (work : WorkExecutionState) (action : ActionRequest)
      (admission : Admission before evidence reservation work action)
      (inserted : before.reservations.insert (Store.newReservation evidence reservation work action)
        = some after.reservations)
      (ledger : after.ledger = before.ledger)
  /-- An open reservation is claimed. -/
  | claim (row : ReservationRow) (found : before.reservations.find row.reservationId = some row)
      (opened : row.status = .reserved)
      (reservations : after.reservations = (before.setClaim row.reservationId true).reservations)
      (ledger : after.ledger = before.ledger)
  /-- A reservation that was never claimed is released. -/
  | release (row : ReservationRow) (current : BudgetReservation)
      (found : before.reservations.find row.reservationId = some row)
      (unclaimed : row.claimed = false)
      (valid : validateReservationRevision row.payload current = .ok ())
      (released : current.status = .released)
      (reservations : after.reservations = before.closedRows current)
      (ledger : after.ledger = before.ledger)
  /-- A reservation is released with its claim. -/
  | retire (retires : retiring = true) (row : ReservationRow) (current : BudgetReservation)
      (found : before.reservations.find row.reservationId = some row)
      (valid : validateReservationRevision row.payload current = .ok ())
      (released : current.status = .released)
      (reservations : after.reservations = (before.closedRows current).update
        (fun other => decide (other.reservationId = row.payload.reservationId))
        (fun other => other.withClaim false) (fun other => other.withClaim_reservationId false))
      (ledger : after.ledger = before.ledger)
  /-- A reservation is committed with its ledger entry. -/
  | commit (row : ReservationRow) (entry : BudgetLedgerEntry) (current : BudgetReservation)
      (found : before.reservations.find row.reservationId = some row)
      (fresh : before.debitOf row.reservationId = none)
      (valid : validateReservationRevision row.payload current = .ok ())
      (committed : current.status = .committed)
      (named : current.ledgerEntryRef = some (reference (.ledgerEntry entry)))
      (recorded : after.resolve (reference (.ledgerEntry entry)) = .ok (.ledgerEntry entry))
      (analysis : entry.metadata.analysisId = row.payload.metadata.analysisId)
      (numbered : entry.sequence =
        ((before.ledgerRows entry.metadata.analysisId).map fun row => row.payload.sequence).foldl
          max 0 + 1)
      (reservations : after.reservations = before.closedRows current)
      (ledger : before.ledger.insert (Store.ledgerRow row.reservationId entry) = some after.ledger)

/-- A write, while the records and runs grow. -/
structure Written (retiring : Bool) (before after : Store) : Prop where
  grows : Grows before after
  write : Write retiring before after

/-- A sequence of writes. -/
def Writes (retiring : Bool) : Store → Store → Prop := Relation.ReflTransGen (Written retiring)

variable {retiring : Bool}

theorem Writes.single (written : Written retiring before after) : Writes retiring before after :=
  Relation.ReflTransGen.single written

theorem Writes.grows (writes : Writes retiring before after) : Grows before after := by
  induction writes with
  | refl => exact .refl _
  | tail _ written ih => exact ih.trans written.grows

/-- What every write keeps holds after all of them. -/
theorem Writes.keeps {holds : Store → Prop} (writes : Writes retiring before after)
    (keeps : ∀ {before after}, Written retiring before after → holds before → holds after)
    (initially : holds before) : holds after := by
  induction writes with
  | refl => exact initially
  | tail _ written ih => exact keeps written ih

/-! ## Calls -/

omit [ContentHash] in
/-- A change of the budget tables alone grows nothing. -/
theorem Grows.of_same (records : after.records = before.records)
    (runs : after.runs = before.runs) : Grows before after :=
  .of_records (records ▸ .refl _) runs

namespace Store

omit [ContentHash] in
theorem admittedWork_ok {reservation : BudgetReservation} {action : RecordMeta}
    {record : Record} {work : WorkExecutionState}
    (admitted : admittedWork reservation action record = .ok work) :
    record = .work work ∧ work.metadata.analysisId = reservation.metadata.analysisId := by
  unfold admittedWork at admitted
  split at admitted
  · split at admitted
    · rename_i same
      cases admitted
      exact ⟨rfl, same.1⟩
    · cases admitted
  · cases admitted

omit [ContentHash] in
theorem admittedAction_ok {record : Record} {action : ActionRequest}
    (admitted : admittedAction record = .ok action) : record = .action action := by
  unfold admittedAction at admitted
  split at admitted
  · cases admitted
    rfl
  · cases admitted

omit [ContentHash] in
theorem insertReservation_ok {row : ReservationRow}
    (inserted : before.insertReservation row = .ok after) :
    before.reservations.insert row = some after.reservations
      ∧ after = { before with reservations := after.reservations } := by
  obtain ⟨_, rest⟩ := raiseIf_bind_ok.1 inserted
  obtain ⟨reservations, stored, returned⟩ := except_bind_ok rest
  cases returned
  exact ⟨required_ok.1 stored, rfl⟩

theorem reserveNew_writes {evidence : TrustedEvidence} {reservation : BudgetReservation}
    (reserved : before.reserveNew evidence reservation = .ok after) : Writes retiring before after := by
  obtain ⟨opened, rest⟩ := raiseIf_bind_ok.1 reserved
  obtain ⟨workRecord, forWork, rest⟩ := except_bind_ok rest
  obtain ⟨actionRecord, forAction, rest⟩ := except_bind_ok rest
  obtain ⟨work, isWork, rest⟩ := except_bind_ok rest
  obtain ⟨action, isAction, rest⟩ := except_bind_ok rest
  obtain ⟨records, publishes, rest⟩ := except_bind_ok rest
  obtain ⟨_, admitted, rest⟩ := except_bind_ok rest
  obtain ⟨saved, saves, inserts⟩ := except_bind_ok rest
  obtain ⟨grows, found, candidate, published⟩ := RecordStore.publish_ok publishes
  obtain ⟨shape, extends', _⟩ := Store.save_ok saves
  obtain ⟨inserted, result⟩ := insertReservation_ok inserts
  obtain ⟨rfl, analysis⟩ := admittedWork_ok isWork
  obtain rfl := admittedAction_ok isAction
  obtain rfl := RecordStore.resolve_unique forAction candidate
  rw [shape] at inserted result
  have first : Written retiring before { before with records } :=
    ⟨.of_records grows rfl, .keep rfl rfl⟩
  have second : Written retiring { before with records } after := by
    rw [result]
    refine ⟨.of_records extends' rfl, ?_⟩
    have admission : Admission { before with records } evidence reservation work action :=
      ⟨not_not.1 opened, grows.resolve forWork, published, analysis, admitted⟩
    exact .reserve evidence reservation work action admission inserted rfl
  exact (Writes.single first).tail second

theorem reserve_writes {evidence : TrustedEvidence} {reservation answer : BudgetReservation}
    (reserved : before.reserve evidence reservation = .ok (after, answer)) :
    Writes retiring before after := by
  unfold reserve at reserved
  split at reserved
  · obtain ⟨_, _, rest⟩ := except_bind_ok reserved
    obtain ⟨_, returned⟩ := raiseIf_bind_ok.1 rest
    cases returned
    exact .refl
  · obtain ⟨stored, admitted, returned⟩ := except_bind_ok reserved
    cases returned
    exact reserveNew_writes admitted

theorem exactReservation_ok {ref : RecordRef} {message : String}
    {reservation : BudgetReservation}
    (resolved : before.exactReservation ref message = .ok reservation) :
    before.resolve ref = .ok (.reservation reservation) := by
  obtain ⟨record, found, rest⟩ := except_bind_ok resolved
  split at rest
  · cases rest
    exact found
  · cases rest

omit [ContentHash] in
theorem insertLedger_ok {row : LedgerRow} (inserted : before.insertLedger row = .ok after) :
    before.ledger.insert row = some after.ledger
      ∧ after = { before with ledger := after.ledger } := by
  obtain ⟨_, rest⟩ := raiseIf_bind_ok.1 inserted
  obtain ⟨ledger, stored, returned⟩ := except_bind_ok rest
  cases returned
  exact ⟨required_ok.1 stored, rfl⟩

theorem available_ok {ref : RecordRef} {analysisId : String} {excluded : Option String}
    {remaining : BudgetRemaining}
    (answered : before.available ref analysisId excluded = .ok remaining) :
    ∃ profile, before.execution ref analysisId = .ok profile
      ∧ remaining.asOfSequence
        = ((before.ledgerRows analysisId).map fun row => row.payload.sequence).foldl max 0
      ∧ ∀ field, remaining.availableUnits.get field
        = profile.limit field - totalUnits field (before.usedUnits analysisId excluded) := by
  obtain ⟨profile, executed, returned⟩ := except_bind_ok answered
  cases returned
  exact ⟨profile, executed, rfl, fun field => unitsOf_get _ _ field⟩

theorem commitNew_writes {stamp : Stamp} {reservationId : String} {entry : BudgetLedgerEntry}
    (fresh : before.debitOf reservationId = none)
    (committed : before.commitNew stamp reservationId entry = .ok after) :
    Writes retiring before after := by
  obtain ⟨row, found, rest⟩ := except_bind_ok committed
  obtain ⟨opened, rest⟩ := raiseIf_bind_ok.1 rest
  obtain ⟨_, rest⟩ := raiseIf_bind_ok.1 rest
  obtain ⟨same, rest⟩ := raiseIf_bind_ok.1 rest
  obtain ⟨remaining, left, rest⟩ := except_bind_ok rest
  obtain ⟨numbered, rest⟩ := raiseIf_bind_ok.1 rest
  obtain ⟨_, _, rest⟩ := except_bind_ok rest
  obtain ⟨saved, saves, rest⟩ := except_bind_ok rest
  obtain ⟨current, validated, rest⟩ := except_bind_ok rest
  obtain ⟨closed, finalized, inserted⟩ := except_bind_ok rest
  have keyed : row.reservationId = reservationId :=
    (Table.find_eq_some.1 (required_ok.1 found)).2
  subst keyed
  have fields := ReservationFields.validate_ok validated
  obtain ⟨shape, grows, recorded⟩ := Store.save_ok saves
  obtain ⟨valid, extends', result⟩ := finalize_ok finalized
  obtain ⟨ledger, last⟩ := insertLedger_ok inserted
  obtain ⟨profile, _, sequence, _⟩ := available_ok left
  push Not at same numbered
  rw [shape] at result
  rw [result] at ledger last
  have status : current.status = .committed := congrArg ReservationFields.status fields
  have named : current.ledgerEntryRef = some (reference (.ledgerEntry entry)) :=
    congrArg ReservationFields.ledgerEntryRef fields
  have recordsSame : after.records = closed.records := by rw [last]
  apply Writes.single
  constructor
  · rw [last]
    exact .of_records (grows.trans extends') rfl
  · refine .commit row entry current (required_ok.1 found) fresh valid status named ?_ same.1
      (numbered.trans (congrArg (· + 1) sequence)) ?_ ledger
    · rw [Store.resolve, recordsSame]
      exact extends'.resolve recorded
    · rw [last]
      rfl

theorem commitUsage_writes {stamp : Stamp} {entry answer : BudgetLedgerEntry}
    (committed : before.commitUsage stamp entry = .ok (after, answer)) : Writes retiring before after := by
  obtain ⟨initial, _, rest⟩ := except_bind_ok committed
  split at rest
  · split at rest
    · cases rest
      exact .refl
    · cases rest
  · rename_i fresh
    obtain ⟨stored, commits, returned⟩ := except_bind_ok rest
    cases returned
    exact commitNew_writes fresh commits

theorem releaseRow_writes {row : ReservationRow} {released answer : BudgetReservation}
    (found : before.reservations.find row.reservationId = some row)
    (returned : before.releaseRow row released = .ok (after, answer)) : Writes retiring before after := by
  unfold releaseRow at returned
  split at returned
  · cases returned
    exact .refl
  · obtain ⟨unclaimed, rest⟩ := raiseIf_bind_ok.1 returned
    obtain ⟨stored, finalized, answered⟩ := except_bind_ok rest
    cases answered
    push Not at unclaimed
    obtain ⟨valid, grows, result⟩ := finalize_ok finalized
    apply Writes.single
    rw [result]
    refine ⟨.of_records grows rfl, ?_⟩
    exact .release row released found (by simpa using unclaimed.1) valid unclaimed.2 rfl rfl

theorem release_writes {released answer : BudgetReservation}
    (returned : before.release released = .ok (after, answer)) : Writes retiring before after := by
  obtain ⟨row, found, rest⟩ := except_bind_ok returned
  have stored := required_ok.1 found
  exact releaseRow_writes ((Table.find_eq_some.1 stored).2 ▸ stored) rest

theorem retire_ok {stamp : Stamp} {row : ReservationRow} {actionId : String}
    (found : before.reservations.find row.reservationId = some row)
    (retired : before.retire stamp row.payload actionId = .ok after) :
    Written true before after
      ∧ (∃ current, validateReservationRevision row.payload current = .ok ()
        ∧ current.status = .released
        ∧ after.reservations = (before.closedRows current).update
          (fun other => decide (other.reservationId = row.payload.reservationId))
          (fun other => other.withClaim false) (fun other => other.withClaim_reservationId false))
      ∧ after.dispatches = before.dispatches.update (fun row => decide (row.actionId = actionId))
        (fun row => row.reconciledBy stamp.now)
        (fun row => row.reconciledBy_actionId stamp.now) := by
  obtain ⟨current, validated, rest⟩ := except_bind_ok retired
  obtain ⟨finalized, closes, returned⟩ := except_bind_ok rest
  cases returned
  obtain ⟨valid, grows, result⟩ := finalize_ok closes
  have fields := ReservationFields.validate_ok validated
  have status : current.status = .released := congrArg ReservationFields.status fields
  rw [result]
  refine ⟨⟨.of_records grows rfl, ?_⟩, ⟨current, valid, status, rfl⟩, rfl⟩
  exact .retire rfl row current found valid status rfl rfl

omit [ContentHash] in
theorem insertDecision_ok {row : DecisionRow} (inserted : before.insertDecision row = .ok after) :
    before.decisions.insert row = some after.decisions
      ∧ after = { before with decisions := after.decisions } := by
  obtain ⟨_, rest⟩ := raiseIf_bind_ok.1 inserted
  obtain ⟨decisions, stored, returned⟩ := except_bind_ok rest
  cases returned
  exact ⟨required_ok.1 stored, rfl⟩

/-- An open reservation of the action and the work. -/
theorem checkReservation_ok {evidence : TrustedEvidence} {ref : Option RecordRef}
    {action : ActionRequest} {work : WorkExecutionState} {allowClaimed : Bool}
    {reservation : BudgetReservation}
    (checked : before.checkReservation evidence ref action work allowClaimed = .ok reservation) :
    (∃ exact, ref = some exact ∧ before.resolve exact = .ok (.reservation reservation))
      ∧ (∃ row, before.reservations.find reservation.reservationId = some row
        ∧ row.status = .reserved ∧ (allowClaimed = false → row.claimed = false))
      ∧ reservation.actionRef = reference (.action action)
      ∧ reservation.workRef = reference (.work work) := by
  obtain ⟨exact', given, rest⟩ := except_bind_ok checked
  obtain ⟨found, resolved, rest⟩ := except_bind_ok rest
  obtain ⟨_, rest⟩ := raiseIf_bind_ok.1 rest
  obtain ⟨_, rest⟩ := raiseIf_bind_ok.1 rest
  obtain ⟨row, stored, rest⟩ := except_bind_ok rest
  obtain ⟨same, rest⟩ := raiseIf_bind_ok.1 rest
  obtain ⟨_, _, rest⟩ := except_bind_ok rest
  obtain ⟨_, _, returned⟩ := except_bind_ok rest
  cases returned
  push Not at same
  obtain ⟨stored, opened⟩ := Option.filter_eq_some_iff.1 (required_ok.1 stored)
  simp only [Bool.and_eq_true, decide_eq_true_eq, Bool.or_eq_true, Bool.not_eq_true'] at opened
  refine ⟨⟨exact', required_ok.1 given, exactReservation_ok resolved⟩, ⟨row, stored, opened.1, ?_⟩,
    same.1, same.2.1⟩
  intro fresh
  rw [fresh] at opened
  simpa using opened.2

theorem claimPaid_writes {authority : Authority} {ref : Option RecordRef}
    {action : ActionRequest} {work : WorkExecutionState} {needsBudget : Bool}
    (claimed : before.claimPaid authority ref action work needsBudget = .ok after) :
    Writes retiring before after := by
  unfold claimPaid at claimed
  split at claimed
  · obtain ⟨reservation, checked, returned⟩ := except_bind_ok claimed
    cases returned
    obtain ⟨_, ⟨row, found, opened, _⟩, _⟩ := checkReservation_ok checked
    have named := (Table.find_eq_some.1 found).2
    apply Writes.single
    refine ⟨.of_same rfl rfl, .claim row (named ▸ found) opened ?_ rfl⟩
    rw [named]
  · cases claimed
    exact .refl

theorem claim_writes {authority : Authority} {stamp : Stamp} {decisionRef : RecordRef}
    {kind : ActionType} {work : WorkExecutionState} {reservationRef : Option RecordRef}
    {needsBudget : Bool} {used : ActionDecision}
    (claimed : before.claim authority stamp decisionRef kind work reservationRef needsBudget
      = .ok (after, used)) : Writes retiring before after := by
  obtain ⟨⟨decision, action⟩, _, rest⟩ := except_bind_ok claimed
  obtain ⟨saved, saves, rest⟩ := except_bind_ok rest
  obtain ⟨decided, inserts, rest⟩ := except_bind_ok rest
  obtain ⟨_, paid, returned⟩ := except_bind_ok rest
  cases returned
  obtain ⟨shape, grows, _⟩ := Store.save_ok saves
  obtain ⟨_, result⟩ := insertDecision_ok inserts
  have first : Written retiring before decided := by
    rw [result, shape]
    exact ⟨.of_records grows rfl, .keep rfl rfl⟩
  exact (Writes.single first).trans (claimPaid_writes paid)

end Store

end Sastsimi.Storage
