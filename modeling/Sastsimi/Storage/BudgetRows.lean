import Sastsimi.Lib.Transaction
import Sastsimi.Storage.BudgetWrites

/-!
# The rows of reservations

What a write does to a row of `budget_reservations`, and what the columns of every row say in
every state that transactions reach.
-/

namespace Sastsimi.Storage

open Lib Sastsimi.Runtime

variable [ContentHash] {retiring : Bool} {before after : Store}

namespace Store

variable {store : Store}

/-- The execution profile the run of an analysis names. -/
def runProfile (store : Store) (analysisId : String) : Except PyError ExecutionBudgetProfile := do
  let state ← store.getRun analysisId
  let record ← store.resolve state.executionBudgetProfileRef
  activeProfile analysisId record

/-! ## The profile of a run -/

theorem runExecution_ok {ref : RecordRef} {analysisId : String} {profile : ExecutionBudgetProfile}
    (executed : store.runExecution ref analysisId = .ok profile) :
    store.runProfile analysisId = .ok profile := by
  obtain ⟨record, pinned, rest⟩ := except_bind_ok executed
  obtain ⟨state, running, rest⟩ := except_bind_ok rest
  obtain ⟨same, active⟩ := raiseIf_bind_ok.1 rest
  obtain ⟨_, resolved⟩ := raiseIf_bind_ok.1 pinned
  rw [runProfile, running]
  have named : state.executionBudgetProfileRef = ref := not_not.1 same
  simp only [bind, Except.bind, named, resolved]
  exact active

/-- Every scope of an analysis leads to the profile of its run. -/
theorem execution_ok {ref : RecordRef} {analysisId : String} {profile : ExecutionBudgetProfile}
    (executed : store.execution ref analysisId = .ok profile) :
    store.runProfile analysisId = .ok profile := by
  obtain ⟨record, _, rest⟩ := except_bind_ok executed
  split at rest
  · obtain ⟨_, _, rest⟩ := except_bind_ok rest
    obtain ⟨_, rest⟩ := raiseIf_bind_ok.1 rest
    obtain ⟨_, _, rest⟩ := except_bind_ok rest
    exact runExecution_ok rest
  · exact runExecution_ok rest

end Store

/-- A run keeps its profile. -/
theorem Grows.runProfile (grows : Grows before after) {analysisId : String}
    {profile : ExecutionBudgetProfile} (named : before.runProfile analysisId = .ok profile) :
    after.runProfile analysisId = .ok profile := by
  obtain ⟨state, running, rest⟩ := except_bind_ok named
  obtain ⟨record, resolved, active⟩ := except_bind_ok rest
  obtain ⟨later, stored, continues⟩ := grows.runs running
  rw [Store.runProfile, stored]
  simp only [bind, Except.bind, continues.execution, grows.resolve resolved]
  exact active

/-- An admitted reservation requests no more than the units in use leave. -/
theorem Admission.fits {evidence : TrustedEvidence} {reservation : BudgetReservation}
    {work : WorkExecutionState} {action : ActionRequest}
    (admission : Admission before evidence reservation work action) :
    ∃ profile, before.runProfile reservation.metadata.analysisId = .ok profile
      ∧ ∀ field, reservation.requestedUnits.get field ≤ profile.limit field
        - totalUnits field (before.usedUnits reservation.metadata.analysisId none) := by
  obtain ⟨_, _, rest⟩ := except_bind_ok admission.admitted
  obtain ⟨remaining, left, rest⟩ := except_bind_ok rest
  obtain ⟨_, fits⟩ := raiseIf_bind_ok.1 rest
  obtain ⟨profile, executed, _, units⟩ := Store.available_ok left
  refine ⟨profile, Store.execution_ok executed, ?_⟩
  intro field
  rw [← units]
  exact BudgetUnits.not_exceeds (raiseIf_ok.1 fits) field

/-! ## What a write does to a row -/

/-- How a row of `budget_reservations` may change in one write. -/
inductive RowChange (retiring : Bool) (after : Store) (row later : ReservationRow) : Prop where
  | same (unchanged : later = row)
  | claim (opened : row.status = .reserved) (claimed : later = row.withClaim true)
  | release (current : BudgetReservation)
      (valid : validateReservationRevision row.payload current = .ok ())
      (released : current.status = .released)
      (unclaimed : row.claimed = false) (closed : later = row.finalized current)
  | commit (current : BudgetReservation)
      (valid : validateReservationRevision row.payload current = .ok ())
      (committed : current.status = .committed)
      (debited : row.reservationId ∈ after.ledger.rows.map LedgerRow.reservationId)
      (closed : later = row.finalized current)
  | retire (retires : retiring = true) (current : BudgetReservation)
      (valid : validateReservationRevision row.payload current = .ok ())
      (released : current.status = .released)
      (retired : later = (row.finalized current).withClaim false)

/-- The columns of a row repeat its payload, and a claimed row is not released. -/
structure RowHolds (store : Store) (row : ReservationRow) : Prop where
  identified : row.payload.reservationId = row.reservationId
  analysis : row.payload.metadata.analysisId = row.analysisId
  status : row.payload.status = row.status
  unreleased : row.claimed = true → row.status ≠ .released
  forWork : ∃ work, store.resolveCandidate row.payload.workRef = .ok (.work work)
    ∧ work.metadata.analysisId = row.analysisId
  forAction : ∃ action, store.resolve row.payload.actionRef = .ok (.action action)
  limited : ∃ profile, store.runProfile row.analysisId = .ok profile

theorem RowHolds.grows {row : ReservationRow} (holds : RowHolds before row)
    (grows : Grows before after) : RowHolds after row := by
  obtain ⟨work, forWork, analysis⟩ := holds.forWork
  obtain ⟨action, forAction⟩ := holds.forAction
  obtain ⟨profile, limited⟩ := holds.limited
  exact
    { holds with
      forWork := ⟨work, grows.resolveCandidate forWork, analysis⟩
      forAction := ⟨action, grows.resolve forAction⟩
      limited := ⟨profile, grows.runProfile limited⟩ }

/-- What a change keeps of a row. -/
structure RowKeeps (row later : ReservationRow) : Prop where
  reservationId : later.reservationId = row.reservationId
  analysisId : later.analysisId = row.analysisId
  itemCount : later.itemCount = row.itemCount
  requestedUnits : later.payload.requestedUnits = row.payload.requestedUnits
  workRef : later.payload.workRef = row.payload.workRef
  actionRef : later.payload.actionRef = row.payload.actionRef
  bindingRef : later.payload.budgetBindingRef = row.payload.budgetBindingRef
  settled : row.payload.status ≠ .reserved →
    later.payload = row.payload ∧ later.status = row.status

omit [ContentHash] in
theorem RowChange.keeps {row later : ReservationRow} (change : RowChange retiring after row later) :
    RowKeeps row later := by
  cases change with
  | same unchanged => subst unchanged; exact ⟨rfl, rfl, rfl, rfl, rfl, rfl, rfl, fun _ => ⟨rfl, rfl⟩⟩
  | claim _ claimed => subst claimed; exact ⟨rfl, rfl, rfl, rfl, rfl, rfl, rfl, fun _ => ⟨rfl, rfl⟩⟩
  | release current valid _ _ closed | commit current valid _ _ closed
  | retire _ current valid _ closed =>
      subst closed
      obtain ⟨opened, _, _, _, binding, action, work, units⟩ :=
        validateReservationRevision_ok valid
      exact ⟨rfl, rfl, rfl, units, work, action, binding, fun settled => absurd opened settled⟩

/-- A settled row repeats the payload that settles it. -/
theorem RowHolds.closed {store : Store} {row : ReservationRow} (holds : RowHolds store row)
    {current : BudgetReservation} (valid : validateReservationRevision row.payload current = .ok ())
    {claimed : Bool} (unreleased : claimed = true → current.status ≠ .released) :
    RowHolds store { row.finalized current with claimed } := by
  obtain ⟨_, _, identified, analysis, _, action, work, _⟩ := validateReservationRevision_ok valid
  exact
    { identified := identified.trans holds.identified
      analysis := analysis.trans holds.analysis
      status := rfl
      unreleased := unreleased
      forWork := work ▸ holds.forWork
      forAction := action ▸ holds.forAction
      limited := holds.limited }

/-- A changed row still repeats its payload. -/
theorem RowHolds.change {store : Store} {row later : ReservationRow} (holds : RowHolds store row)
    (change : RowChange retiring after row later) : RowHolds store later := by
  cases change with
  | same unchanged => exact unchanged ▸ holds
  | claim opened claimed =>
      subst claimed
      refine { holds with unreleased := ?_ }
      intro _ released
      rw [ReservationRow.withClaim, opened] at released
      cases released
  | release current valid _ unclaimed closed =>
      subst closed
      exact holds.closed valid (fun claimed => absurd (claimed.symm.trans unclaimed) (by decide))
  | commit current valid committed _ closed =>
      subst closed
      refine holds.closed valid ?_
      intro _ released
      exact absurd (committed.symm.trans released) (by decide)
  | retire _ current valid _ retired =>
      subst retired
      exact holds.closed valid (fun claimed => absurd claimed (by decide))

/-- Every row of the reservations repeats its payload. -/
def RowsHold (store : Store) : Prop := ∀ row ∈ store.reservations.rows, RowHolds store row

section Write

variable (hold : RowsHold before)

include hold

/-- Finalizing a reservation selects its own row. -/
theorem RowsHold.closed_of {row other : ReservationRow} {current : BudgetReservation}
    (found : before.reservations.find row.reservationId = some row)
    (valid : validateReservationRevision row.payload current = .ok ())
    (member : other ∈ before.reservations.rows) :
    other.reservationId = current.reservationId ↔ other = row := by
  obtain ⟨stored, _⟩ := Table.find_eq_some.1 found
  have named : current.reservationId = row.reservationId :=
    (validateReservationRevision_ok valid).2.2.1.trans (hold row stored).identified
  rw [named]
  constructor
  · exact fun same => Table.eq_of_key member stored same
  · exact fun same => same ▸ rfl

/-- A write changes the rows in place, or admits a new one. -/
theorem Write.rows_of (write : Write retiring before after) :
    (∃ change : ReservationRow → ReservationRow,
        after.reservations.rows = before.reservations.rows.map change
          ∧ ∀ row ∈ before.reservations.rows, RowChange retiring after row (change row))
      ∨ ∃ evidence reservation work action, Admission before evidence reservation work action
        ∧ before.reservations.insert (Store.newReservation evidence reservation work action)
          = some after.reservations := by
  cases write with
  | keep reservations _ =>
      exact .inl ⟨id, by rw [reservations, List.map_id], fun _ _ => .same rfl⟩
  | reserve evidence reservation work action admission inserted _ =>
      exact .inr ⟨evidence, reservation, work, action, admission, inserted⟩
  | claim row found opened reservations _ =>
      refine .inl ⟨_, by rw [reservations]; rfl, ?_⟩
      intro other stored
      split
      · rename_i selected
        obtain rfl := Table.eq_of_key stored (Table.find_eq_some.1 found).1
          (of_decide_eq_true selected)
        exact .claim opened rfl
      · exact .same rfl
  | release row current found unclaimed valid released reservations _ =>
      refine .inl ⟨_, by rw [reservations]; rfl, ?_⟩
      intro other stored
      split
      · rename_i selected
        obtain rfl := (hold.closed_of found valid stored).1 (of_decide_eq_true selected)
        exact .release current valid released unclaimed rfl
      · exact .same rfl
  | retire retires row current found valid released reservations _ =>
      refine .inl ⟨_, by rw [reservations]; exact List.map_map, ?_⟩
      intro other stored
      rw [Function.comp_apply]
      have identified := (hold row (Table.find_eq_some.1 found).1).identified
      by_cases chosen : other.reservationId = current.reservationId
      · obtain rfl := (hold.closed_of found valid stored).1 chosen
        have cleared : (other.finalized current).reservationId = other.payload.reservationId :=
          identified.symm
        simp only [chosen, decide_true, if_true, cleared]
        exact .retire retires current valid released rfl
      · have kept : other.reservationId ≠ row.payload.reservationId := by
          intro same
          apply chosen
          rw [same]
          exact (validateReservationRevision_ok valid).2.2.1.symm
        simp only [chosen, decide_false, Bool.false_eq_true, if_false, kept]
        exact .same rfl
  | commit row entry current found _ valid committed _ _ _ _ reservations ledger =>
      refine .inl ⟨_, by rw [reservations]; rfl, ?_⟩
      intro other stored
      split
      · rename_i selected
        obtain rfl := (hold.closed_of found valid stored).1 (of_decide_eq_true selected)
        refine .commit current valid committed ?_ rfl
        rw [(Table.insert_eq_some.1 ledger).2, List.map_append]
        exact List.mem_append_right _ (List.mem_singleton.2 rfl)
      · exact .same rfl

/-- When a change makes no row gain more than it gains on the other side, no write makes the
total gain more, apart from what an admitted row adds. -/
theorem Write.balance (write : Write retiring before after)
    {gains gained pays paid : ReservationRow → Nat}
    (turn : ∀ row ∈ before.reservations.rows, ∀ later, RowChange retiring after row later →
      gained later + pays row ≤ gains row + paid later) :
    after.reservations.total gained + before.reservations.total pays
        ≤ before.reservations.total gains + after.reservations.total paid
      ∨ ∃ evidence reservation work action, Admission before evidence reservation work action
        ∧ before.reservations.insert (Store.newReservation evidence reservation work action)
          = some after.reservations
        ∧ after.reservations.total gained + before.reservations.total pays
            + paid (Store.newReservation evidence reservation work action)
          ≤ before.reservations.total gains + after.reservations.total paid
            + gained (Store.newReservation evidence reservation work action) := by
  rcases write.rows_of hold with
    ⟨change, rows, changes⟩ | ⟨evidence, reservation, work, action, admission, inserted⟩
  · left
    have summed : before.reservations.total (fun row => gained (change row) + pays row)
        ≤ before.reservations.total (fun row => gains row + paid (change row)) :=
      Table.total_mono fun row member => turn row member (change row) (changes row member)
    have changed : ∀ weight : ReservationRow → Nat, after.reservations.total weight
        = before.reservations.total fun row => weight (change row) := by
      intro weight
      rw [Table.total, rows, List.map_map]
      rfl
    rwa [Table.total_add, Table.total_add, ← changed, ← changed] at summed
  · refine .inr ⟨evidence, reservation, work, action, admission, inserted, ?_⟩
    have summed : before.reservations.total (fun row => gained row + pays row)
        ≤ before.reservations.total (fun row => gains row + paid row) :=
      Table.total_mono fun row member => turn row member row (.same rfl)
    rw [Table.total_add, Table.total_add] at summed
    rw [Table.total_insert inserted, Table.total_insert inserted]
    omega

/-- A row after a write is a changed row or an admitted one. -/
theorem Write.row_of (write : Write retiring before after) {later : ReservationRow}
    (member : later ∈ after.reservations.rows) :
    (∃ row ∈ before.reservations.rows, RowChange retiring after row later)
      ∨ ∃ evidence reservation work action, Admission before evidence reservation work action
        ∧ later = Store.newReservation evidence reservation work action
        ∧ before.reservations.find later.reservationId = none := by
  rcases write.rows_of hold with ⟨change, rows, changes⟩ | ⟨_, _, _, _, admission, inserted⟩
  · rw [rows] at member
    obtain ⟨row, stored, rfl⟩ := List.mem_map.1 member
    exact .inl ⟨row, stored, changes row stored⟩
  · obtain ⟨fresh, rows⟩ := Table.insert_eq_some.1 inserted
    rw [rows, List.mem_append, List.mem_singleton] at member
    rcases member with old | new
    · exact .inl ⟨later, old, .same rfl⟩
    · exact .inr ⟨_, _, _, _, admission, new, new ▸ fresh⟩

omit hold in
/-- An admitted row repeats its payload. -/
theorem Admission.rowHolds {evidence : TrustedEvidence} {reservation : BudgetReservation}
    {work : WorkExecutionState} {action : ActionRequest}
    (admission : Admission before evidence reservation work action) :
    RowHolds before (Store.newReservation evidence reservation work action) := by
  obtain ⟨profile, limited, _⟩ := admission.fits
  exact
    { identified := rfl
      analysis := rfl
      status := rfl
      unreleased := fun claimed => absurd claimed (by simp [Store.newReservation])
      forWork := ⟨_, admission.forWork, admission.analysis⟩
      forAction := ⟨_, admission.forAction⟩
      limited := ⟨profile, limited⟩ }

/-- The rows repeat their payloads after every write. -/
theorem Written.rowsHold (written : Written retiring before after) : RowsHold after := by
  intro later member
  rcases written.write.row_of hold member with ⟨row, stored, change⟩ | ⟨_, _, _, _, new, rfl, _⟩
  · exact ((hold row stored).change change).grows written.grows
  · exact new.rowHolds.grows written.grows

end Write

/-- A row stays, and changes as a write changes it. -/
theorem Write.find_of (write : Write retiring before after) (hold : RowsHold before)
    {reservationId : String} {row : ReservationRow}
    (found : before.reservations.find reservationId = some row) :
    ∃ later, after.reservations.find reservationId = some later
      ∧ RowChange retiring after row later := by
  obtain ⟨stored, named⟩ := Table.find_eq_some.1 found
  rcases write.rows_of hold with ⟨change, rows, changes⟩ | ⟨_, _, _, _, _, inserted⟩
  · have changed := changes row stored
    refine ⟨change row, Table.find_eq_some.2 ⟨?_, ?_⟩, changed⟩
    · rw [rows]
      exact List.mem_map_of_mem stored
    · exact changed.keeps.reservationId.trans named
  · refine ⟨row, Table.find_eq_some.2 ⟨?_, named⟩, .same rfl⟩
    rw [(Table.insert_eq_some.1 inserted).2]
    exact List.mem_append_left _ stored

/-! ## Sequences of writes -/

omit [ContentHash] in
theorem RowKeeps.refl (row : ReservationRow) : RowKeeps row row :=
  ⟨rfl, rfl, rfl, rfl, rfl, rfl, rfl, fun _ => ⟨rfl, rfl⟩⟩

omit [ContentHash] in
theorem RowKeeps.trans {row later last : ReservationRow} (first : RowKeeps row later)
    (second : RowKeeps later last) : RowKeeps row last where
  reservationId := second.reservationId.trans first.reservationId
  analysisId := second.analysisId.trans first.analysisId
  itemCount := second.itemCount.trans first.itemCount
  requestedUnits := second.requestedUnits.trans first.requestedUnits
  workRef := second.workRef.trans first.workRef
  actionRef := second.actionRef.trans first.actionRef
  bindingRef := second.bindingRef.trans first.bindingRef
  settled closed := by
    obtain ⟨payload, status⟩ := first.settled closed
    obtain ⟨later, same⟩ := second.settled (payload ▸ closed)
    exact ⟨later.trans payload, same.trans status⟩

theorem Writes.rowsHold (writes : Writes retiring before after) (hold : RowsHold before) :
    RowsHold after :=
  writes.keeps (fun written hold => written.rowsHold hold) hold

/-- A row stays along a sequence of writes, with what it reserved. -/
theorem Writes.find_of (writes : Writes retiring before after) (hold : RowsHold before)
    {reservationId : String} {row : ReservationRow}
    (found : before.reservations.find reservationId = some row) :
    ∃ later, after.reservations.find reservationId = some later ∧ RowKeeps row later := by
  induction writes with
  | refl => exact ⟨row, found, .refl row⟩
  | tail earlier written ih =>
      obtain ⟨between, stored, first⟩ := ih
      obtain ⟨later, last, change⟩ :=
        written.write.find_of (Writes.rowsHold earlier hold) stored
      exact ⟨later, last, first.trans change.keeps⟩

omit [ContentHash] in
/-- Without a retirement a claimed row stays claimed. -/
theorem RowChange.claimed {row later : ReservationRow} (change : RowChange false after row later)
    (claimed : row.claimed = true) : later.claimed = true := by
  cases change with
  | same unchanged => exact unchanged ▸ claimed
  | claim _ result => subst result; rfl
  | release _ _ _ unclaimed _ => exact absurd (claimed.symm.trans unclaimed) (by decide)
  | commit _ _ _ _ closed => subst closed; exact claimed
  | retire retires => cases retires

theorem Writes.claimed (writes : Writes false before after) (hold : RowsHold before)
    {reservationId : String} {row : ReservationRow}
    (found : before.reservations.find reservationId = some row) (claimed : row.claimed = true) :
    ∃ later, after.reservations.find reservationId = some later ∧ later.claimed = true := by
  induction writes with
  | refl => exact ⟨row, found, claimed⟩
  | tail earlier written ih =>
      obtain ⟨between, stored, kept⟩ := ih
      obtain ⟨later, last, change⟩ :=
        written.write.find_of (Writes.rowsHold earlier hold) stored
      exact ⟨later, last, change.claimed kept⟩

/-! ## Retirement -/

/-- Nothing shows that the external action of a row was dispatched. -/
def Undispatched (store : Store) (work : WorkExecutionState) (row : ReservationRow) : Prop :=
  ∃ action, store.resolve row.payload.actionRef = .ok (.action action)
    ∧ action.actionType.isExternal = true ∧ store.undispatched work action.actionId = true

omit [ContentHash] in
/-- Only when and by which attempt a request was sent decides whether it may be retired. -/
theorem undispatched_congr {work : WorkExecutionState} {actionId : String}
    (same : (after.dispatches.find actionId).map DispatchRow.sent
      = (before.dispatches.find actionId).map DispatchRow.sent) :
    after.undispatched work actionId = before.undispatched work actionId := by
  have read : ∀ store : Store, store.undispatched work actionId
      = ((store.dispatches.find actionId).map DispatchRow.sent).all fun sent =>
        sent.1.isNone && decide (sent.2 = work.activeAttemptId.getD "None") := by
    intro store
    rw [Store.undispatched, Option.all_map]
    rfl
  rw [read, read, same]

/-- Finalizing a reservation changes its own row. -/
theorem RowsHold.find_closed (hold : RowsHold before) {row : ReservationRow}
    {current : BudgetReservation}
    (found : before.reservations.find row.reservationId = some row)
    (valid : validateReservationRevision row.payload current = .ok ()) (reservationId : String) :
    (before.closedRows current).find reservationId
      = if reservationId = row.reservationId then some (row.finalized current)
        else before.reservations.find reservationId := by
  have named : current.reservationId = row.reservationId :=
    (validateReservationRevision_ok valid).2.2.1.trans
      (hold row (Table.find_eq_some.1 found).1).identified
  rw [Store.closedRows, ← named]
  exact Table.find_update_key (named ▸ found) reservationId

/-- Retiring a reservation changes its own row. -/
theorem RowsHold.find_retired (hold : RowsHold before) {row : ReservationRow}
    {current : BudgetReservation}
    (found : before.reservations.find row.reservationId = some row)
    (valid : validateReservationRevision row.payload current = .ok ())
    (reservations : after.reservations = (before.closedRows current).update
      (fun other => decide (other.reservationId = row.payload.reservationId))
      (fun other => other.withClaim false) (fun other => other.withClaim_reservationId false))
    (reservationId : String) :
    after.reservations.find reservationId
      = if reservationId = row.reservationId then some ((row.finalized current).withClaim false)
        else before.reservations.find reservationId := by
  have identified := (hold row (Table.find_eq_some.1 found).1).identified
  have closed : (before.closedRows current).find row.payload.reservationId
      = some (row.finalized current) := by
    rw [hold.find_closed found valid, if_pos identified]
  rw [reservations, Table.find_update_key closed, hold.find_closed found valid, identified]
  split <;> rfl

/-- What a retirement has done so far: it released rows whose request was not dispatched, and
has not touched the remaining ones. -/
structure Retiring (work : WorkExecutionState) (start store : Store)
    (remaining : List ReservationRow) : Prop where
  initially : RowsHold start
  writes : Writes true start store
  kept : ∀ row ∈ remaining, store.reservations.find row.reservationId = some row
  dispatches : ∀ actionId, (store.dispatches.find actionId).map DispatchRow.sent
    = (start.dispatches.find actionId).map DispatchRow.sent
  settled : ∀ {reservationId row}, start.reservations.find reservationId = some row →
    ∃ later, store.reservations.find reservationId = some later
      ∧ (later = row ∨ Undispatched start work row ∧ row.status = .reserved
        ∧ later.status = .released ∧ later.claimed = false)

theorem Retiring.hold {work : WorkExecutionState} {start store : Store}
    {remaining : List ReservationRow} (retiring : Retiring work start store remaining) :
    RowsHold store :=
  retiring.writes.rowsHold retiring.initially

/-- What is not shown to be dispatched during a retirement was not when it began. -/
theorem Retiring.undispatched {work : WorkExecutionState} {start store : Store}
    {remaining : List ReservationRow} (retiring : Retiring work start store remaining)
    {row : ReservationRow} (stored : row ∈ start.reservations.rows)
    (shown : Undispatched store work row) : Undispatched start work row := by
  obtain ⟨action, resolved, external, absent⟩ := shown
  obtain ⟨earlier, started⟩ := (retiring.initially row stored).forAction
  have same := RecordStore.resolve_unique resolved (retiring.writes.grows.resolve started)
  cases same
  refine ⟨action, started, external, ?_⟩
  rwa [← undispatched_congr (retiring.dispatches action.actionId)]

/-- A turn of a retirement does nothing, or retires a request that was not dispatched. -/
theorem Store.retireTurn_ok {stamps : String → Stamp} {work : WorkExecutionState}
    {row : ReservationRow} (turned : Store.retireTurn stamps work before row = .ok after) :
    after = before ∨ ∃ action, before.resolve row.payload.actionRef = .ok (.action action)
      ∧ action.actionType.isExternal = true ∧ before.undispatched work action.actionId = true
      ∧ before.retire (stamps row.reservationId) row.payload action.actionId = .ok after := by
  unfold Store.retireTurn at turned
  split at turned
  · cases turned
    exact .inl rfl
  · obtain ⟨record, resolved, rest⟩ := except_bind_ok turned
    split at rest
    · rename_i action
      split at rest
      · rename_i retires
        exact .inr ⟨action, resolved, retires.1, retires.2, rest⟩
      · cases rest
        exact .inl rfl
    · cases rest
      exact .inl rfl

theorem Retiring.turn {work : WorkExecutionState} {start store next : Store}
    {row : ReservationRow} {remaining : List ReservationRow} {stamps : String → Stamp}
    (retiring : Retiring work start store (row :: remaining))
    (distinct : row.reservationId ∉ remaining.map ReservationRow.reservationId)
    (turned : Store.retireTurn stamps work store row = .ok next) :
    Retiring work start next remaining := by
  have kept : ∀ other ∈ remaining, store.reservations.find other.reservationId = some other :=
    fun other member => retiring.kept other (List.mem_cons_of_mem _ member)
  have unchanged : Retiring work start store remaining := { retiring with kept }
  have found := retiring.kept row List.mem_cons_self
  rcases Store.retireTurn_ok turned with rfl | ⟨action, resolved, external, absent, retired⟩
  · exact unchanged
  · obtain ⟨written, ⟨current, valid, released, reservations⟩, dispatches⟩ :=
      Store.retire_ok found retired
    have located := retiring.hold.find_retired found valid reservations
    refine
      { initially := retiring.initially
        writes := retiring.writes.tail written
        kept := ?_
        dispatches := ?_
        settled := ?_ }
    · intro other member
      have differs : other.reservationId ≠ row.reservationId :=
        fun same => distinct (same ▸ List.mem_map_of_mem member)
      rw [located, if_neg differs]
      exact kept other member
    · intro actionId
      rw [dispatches, Table.find_update, Option.map_map, ← retiring.dispatches]
      congr 1
      funext other
      rw [Function.comp_apply]
      split <;> rfl
    · intro reservationId earlier started
      obtain ⟨later, stored, cause⟩ := retiring.settled started
      rw [located]
      split
      · rename_i own
        rw [own, found] at stored
        cases stored
        have opened : row.status = .reserved :=
          (retiring.hold row (Table.find_eq_some.1 found).1).status.symm.trans
            (validateReservationRevision_ok valid).1
        refine ⟨_, rfl, .inr ?_⟩
        rcases cause with same | ⟨_, _, closed, _⟩
        · subst same
          have shown : Undispatched store work row := ⟨action, resolved, external, absent⟩
          exact ⟨retiring.undispatched (Table.find_eq_some.1 started).1 shown, opened,
            released, rfl⟩
        · rw [opened] at closed
          cases closed
      · exact ⟨later, stored, cause⟩

/-- A retirement begins with every row that is still reserved. -/
theorem Retiring.start {work : WorkExecutionState} (hold : RowsHold before)
    {analysisId : String} : Retiring work before before (before.reservedRows analysisId) := by
  refine
    { initially := hold
      writes := .refl
      kept := ?_
      dispatches := fun _ => rfl
      settled := fun started => ⟨_, started, .inl rfl⟩ }
  intro row member
  exact Table.find_eq_some.2 ⟨(List.mem_filter.1 member).1, rfl⟩

/-- A retirement is a sequence of writes that releases only rows whose request was not shown to
be dispatched. -/
theorem Store.retireUndispatched_ok {stamps : String → Stamp} {work : WorkExecutionState}
    (hold : RowsHold before) (retired : before.retireUndispatched stamps work = .ok after) :
    Retiring work before after [] := by
  have turns : ∀ {remaining : List ReservationRow} {store : Store},
      (remaining.map ReservationRow.reservationId).Nodup → Retiring work before store remaining →
      remaining.foldlM (Store.retireTurn stamps work) store = .ok after →
      Retiring work before after [] := by
    intro remaining
    induction remaining with
    | nil =>
        intro store _ retiring looped
        cases looped
        exact retiring
    | cons row rest ih =>
        intro store distinct retiring looped
        obtain ⟨next, turned, continued⟩ := foldlM_cons_ok looped
        rw [List.map_cons, List.nodup_cons] at distinct
        exact ih distinct.2 (retiring.turn distinct.1 turned) continued
  exact turns (Table.filter_keys_nodup _ _) (.start hold) retired

/-! ## Runs -/

/-- A call that changes the budget of an analysis. -/
inductive BudgetCall where
  | reserve (evidence : TrustedEvidence) (reservation : BudgetReservation)
  | claim (authority : Authority) (stamp : Stamp) (decisionRef : RecordRef) (kind : ActionType)
      (work : WorkExecutionState) (reservationRef : Option RecordRef) (needsBudget : Bool)
  | commitUsage (stamp : Stamp) (entry : BudgetLedgerEntry)
  | release (released : BudgetReservation)
  | retireUndispatched (stamps : String → Stamp) (work : WorkExecutionState)

/-- The body of a call. -/
def BudgetCall.run (store : Store) : BudgetCall → Except PyError Store
  | .reserve evidence reservation => do
      let (after, _) ← store.reserve evidence reservation
      .ok after
  | .claim authority stamp decisionRef kind work reservationRef needsBudget => do
      let (after, _) ←
        store.claim authority stamp decisionRef kind work reservationRef needsBudget
      .ok after
  | .commitUsage stamp entry => do
      let (after, _) ← store.commitUsage stamp entry
      .ok after
  | .release released => do
      let (after, _) ← store.release released
      .ok after
  | .retireUndispatched stamps work => store.retireUndispatched stamps work

/-- A transaction of another service: it adds records and continues runs, and leaves the budget
tables alone. -/
structure Elsewhere (before after : Store) : Prop where
  grows : Grows before after
  reservations : after.reservations = before.reservations
  ledger : after.ledger = before.ledger

/-- A transaction of an analysis. -/
inductive BudgetEvent where
  | call (call : BudgetCall)
  | elsewhere (change : Store → Store) (keeps : ∀ store, Elsewhere store (change store))

/-- A transaction that raises is rolled back. -/
def perform (store : Store) : BudgetEvent → Store × Except PyError Unit
  | .call call =>
      match call.run store with
      | .ok after => (after, .ok ())
      | .error reason => (store, .error reason)
  | .elsewhere change _ => (change store, .ok ())

/-- The store that transactions reach from an empty database. -/
def reached (events : List BudgetEvent) : Store := runCalls perform {} events

/-- Every call but a retirement is a sequence of writes that keep claims. -/
theorem BudgetCall.run_keeps {call : BudgetCall} (ran : call.run before = .ok after) :
    Writes false before after ∨ ∃ stamps work, call = .retireUndispatched stamps work
      ∧ before.retireUndispatched stamps work = .ok after := by
  cases call with
  | reserve evidence reservation =>
      obtain ⟨_, returned, rest⟩ := except_bind_ok ran
      cases rest
      exact .inl (Store.reserve_writes returned)
  | claim authority stamp decisionRef kind work reservationRef needsBudget =>
      obtain ⟨_, returned, rest⟩ := except_bind_ok ran
      cases rest
      exact .inl (Store.claim_writes returned)
  | commitUsage stamp entry =>
      obtain ⟨_, returned, rest⟩ := except_bind_ok ran
      cases rest
      exact .inl (Store.commitUsage_writes returned)
  | release released =>
      obtain ⟨_, returned, rest⟩ := except_bind_ok ran
      cases rest
      exact .inl (Store.release_writes returned)
  | retireUndispatched stamps work => exact .inr ⟨stamps, work, rfl, ran⟩

/-- A write that keeps claims is a write. -/
theorem Write.any (write : Write false before after) : Write true before after := by
  cases write with
  | keep reservations ledger => exact .keep reservations ledger
  | reserve evidence reservation work action admission inserted ledger =>
      exact .reserve evidence reservation work action admission inserted ledger
  | claim row found opened reservations ledger => exact .claim row found opened reservations ledger
  | release row current found unclaimed valid released reservations ledger =>
      exact .release row current found unclaimed valid released reservations ledger
  | retire retires => cases retires
  | commit row entry current found fresh valid committed named recorded analysis numbered
      reservations ledger =>
      exact .commit row entry current found fresh valid committed named recorded analysis numbered
        reservations ledger

theorem Writes.any (writes : Writes false before after) : Writes true before after := by
  induction writes with
  | refl => exact .refl
  | tail _ written ih => exact ih.tail ⟨written.grows, written.write.any⟩

theorem BudgetCall.run_writes {call : BudgetCall} (hold : RowsHold before)
    (ran : call.run before = .ok after) : Writes true before after := by
  rcases BudgetCall.run_keeps ran with writes | ⟨_, _, _, retired⟩
  · exact writes.any
  · exact (Store.retireUndispatched_ok hold retired).writes

/-- Every transaction is a sequence of writes. -/
theorem perform_writes (event : BudgetEvent) (hold : RowsHold before) :
    Writes true before (perform before event).1 := by
  cases event with
  | call call =>
      rw [perform]
      split
      · rename_i ran
        exact call.run_writes hold ran
      · exact .refl
  | elsewhere change keeps =>
      obtain ⟨grows, reservations, ledger⟩ := keeps before
      exact Writes.single ⟨grows, .keep reservations ledger⟩

theorem reached_rowsHold (events : List BudgetEvent) : RowsHold (reached events) := by
  apply runCalls_keeps
  · exact fun store event hold => (perform_writes event hold).rowsHold hold
  · intro row member
    cases member

theorem runCalls_writes (events : List BudgetEvent) (hold : RowsHold before) :
    Writes true before (runCalls perform before events) := by
  induction events generalizing before with
  | nil => exact .refl
  | cons event rest ih =>
      have first := perform_writes event hold
      exact first.trans (ih (first.rowsHold hold))

theorem reached_writes (events : List BudgetEvent) : Writes true {} (reached events) :=
  runCalls_writes events (reached_rowsHold [])

/-- What every write keeps holds of every reached store. -/
theorem reached_keeps {holds : Store → Prop} (events : List BudgetEvent)
    (keeps : ∀ {before after}, RowsHold before → Written true before after → holds before → holds after)
    (initially : holds {}) : holds (reached events) := by
  have both : ∀ {before after}, Written true before after → RowsHold before ∧ holds before →
      RowsHold after ∧ holds after := by
    intro before after written kept
    exact ⟨written.rowsHold kept.1, keeps kept.1 written kept.2⟩
  exact ((reached_writes events).keeps both ⟨reached_rowsHold [], initially⟩).2

end Sastsimi.Storage
