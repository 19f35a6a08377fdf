import Sastsimi.Storage.WorkCeilings

/-!
# The ceilings of a verification

What the reservations below one verification request or have used stays within the maxima of
the verification profile, up to the committed overruns, and no more evidence calls than it
allows are open at once.  The root of a reservation is fixed when it is admitted: its ancestors
are published records.
-/

namespace Sastsimi.Storage

open Lib Sastsimi.Runtime

variable [ContentHash] {retiring : Bool} {before after : Store}

namespace Store

variable (store : Store)

/-! ## What a reservation counts for -/

/-- The verification a reservation belongs to. -/
def rootOf (row : ReservationRow) : Option String := do
  let work ← store.workOf row
  match store.verificationRoot work with
  | .ok root => root
  | .error _ => none

/-- What a committed reservation used. -/
def actualOf (row : ReservationRow) (field : UnitField) : Nat :=
  ((store.debitOf row.reservationId).map fun debit => debit.payload.actualUnits.get field).getD 0

/-- What a reservation counts for: its request while it is open, its use once it is committed. -/
def countedOf (field : UnitField) (row : ReservationRow) : Nat :=
  match row.status with
  | .reserved => row.payload.requestedUnits.get field
  | .committed => store.actualOf row field
  | .released => 0

/-- What a committed reservation used beyond its request. -/
def overrunOf (field : UnitField) (row : ReservationRow) : Nat :=
  match row.status with
  | .committed => store.actualOf row field - row.payload.requestedUnits.get field
  | _ => 0

/-- A reservation of a verification. -/
def belongs (analysisId root : String) (row : ReservationRow) : Prop :=
  row.analysisId = analysisId ∧ store.rootOf row = some root

instance (analysisId root : String) (row : ReservationRow) :
    Decidable (store.belongs analysisId root row) :=
  inferInstanceAs (Decidable (_ ∧ _))

/-- A weight of the reservations of a verification. -/
def within (analysisId root : String) (weight : ReservationRow → Nat) (row : ReservationRow) :
    Nat :=
  if store.belongs analysisId root row then weight row else 0

/-- What the reservations of a verification count for. -/
def countedTotal (analysisId root : String) (field : UnitField) : Nat :=
  store.reservations.total (store.within analysisId root (store.countedOf field))

/-- What the reservations of a verification used beyond their requests. -/
def verificationOverrun (analysisId root : String) (field : UnitField) : Nat :=
  store.reservations.total (store.within analysisId root (store.overrunOf field))

/-- One for an open external reservation of an evidence work. -/
def openEvidence (row : ReservationRow) : Nat :=
  if row.status = .reserved
      ∧ (store.workOf row).any (fun work => collectsEvidence work.workType) = true
      ∧ (store.actionOf row).any (fun action => action.actionType.isExternal) = true then 1
  else 0

/-- The open evidence calls of a verification. -/
def evidenceTotal (analysisId root : String) : Nat :=
  store.reservations.total (store.within analysisId root store.openEvidence)

/-- The profile of the verifications of a run. -/
def verificationProfileOf (state : AnalysisRunState) : Except PyError VerificationBudgetProfile := do
  let ref ← required state.budgetBindingRef (.valueError "BUDGET unavailable")
  match ← store.resolve ref with
  | .binding binding => store.verificationProfile binding
  | _ => .error assertionError

end Store

/-- The maximum of a verification profile, for the units it limits. -/
def VerificationBudgetProfile.limit (profile : VerificationBudgetProfile) :
    UnitField → Option Nat
  | .workCount => some profile.maxWorkPerVerification
  | .elapsedMs => some profile.maxVerificationElapsedMs
  | .llmCallCount => some profile.maxLlmCallsPerVerification
  | _ => none

/-! ## Ancestors -/

theorem Store.parentWork_ok {store : Store} {ref : RecordRef} {work : WorkExecutionState} :
    store.parentWork ref = .ok work ↔ store.resolve ref = .ok (.work work) := by
  constructor
  · intro found
    obtain ⟨record, resolved, rest⟩ := except_bind_ok found
    split at rest
    · cases rest
      exact resolved
    · cases rest
  · intro resolved
    rw [Store.parentWork, resolved]
    rfl

/-- The ancestors of a work that lead to a root are published, and stay. -/
theorem Grows.rootFrom (grows : Grows before after) {fuel more : Nat} {seen : List String}
    {work : WorkExecutionState} {root : Option String}
    (found : before.rootFrom fuel seen work = .ok root) (enough : fuel ≤ more) :
    after.rootFrom more seen work = .ok root := by
  induction fuel generalizing seen work more with
  | zero => cases found
  | succ fuel ih =>
      obtain ⟨more, rfl⟩ : ∃ rest, more = rest + 1 := ⟨more - 1, by omega⟩
      rw [Store.rootFrom] at found ⊢
      split_ifs at found ⊢
      · exact found
      · cases parent : work.parentWorkRef with
        | none => rwa [parent] at found
        | some ref =>
            rw [parent] at found
            obtain ⟨ancestor, resolved, rest⟩ := except_bind_ok found
            have published := grows.resolve (Store.parentWork_ok.1 resolved)
            have later : after.parentWork ref = .ok ancestor := Store.parentWork_ok.2 published
            simp only [later, bind, Except.bind]
            exact ih rest (by omega)

/-- A work keeps its root. -/
theorem Grows.verificationRoot (grows : Grows before after) {work : WorkExecutionState}
    {root : Option String} (found : before.verificationRoot work = .ok root) :
    after.verificationRoot work = .ok root :=
  grows.rootFrom found (Nat.add_le_add_right grows.records.length_le 2)

theorem Store.rootOf_eq {store : Store} {row : ReservationRow} {work : WorkExecutionState}
    {root : Option String} (forWork : store.workOf row = some work)
    (found : store.verificationRoot work = .ok root) : store.rootOf row = root := by
  rw [Store.rootOf, forWork]
  simp only [Option.bind_eq_bind, Option.bind_some, found]

/-- A run keeps the profile of its verifications. -/
theorem Grows.verificationProfileOf (grows : Grows before after) {state later : AnalysisRunState}
    (continues : state.Continues later) {profile : VerificationBudgetProfile}
    (given : before.verificationProfileOf state = .ok profile) :
    after.verificationProfileOf later = .ok profile := by
  obtain ⟨ref, named, rest⟩ := except_bind_ok given
  obtain ⟨record, resolved, rest⟩ := except_bind_ok rest
  rw [Store.verificationProfileOf, continues.binding (required_ok.1 named)]
  simp only [required, bind, Except.bind, grows.resolve resolved]
  split at rest
  · obtain ⟨found, stored, returned⟩ := except_bind_ok rest
    simp only [Store.verificationProfile, grows.resolve stored, bind, Except.bind]
    exact returned
  · cases rest

/-- The root of a reservation is known, and its run has a verification profile when there is
one. -/
structure RowRooted (store : Store) (row : ReservationRow) : Prop where
  rooted : ∃ work root, store.workOf row = some work ∧ store.verificationRoot work = .ok root
  profiled : (store.rootOf row).isSome = true → ∃ state profile,
    store.getRun row.analysisId = .ok state ∧ store.verificationProfileOf state = .ok profile

section Keeps

variable {row later : ReservationRow} (grows : Grows before after) (holds : RowHolds before row)
  (known : RowRooted before row) (keeps : RowKeeps row later)

include grows holds known keeps

theorem RowKeeps.rootOf : after.rootOf later = before.rootOf row := by
  obtain ⟨work, root, forWork, found⟩ := known.rooted
  have later := (keeps.workOf grows holds).trans forWork
  exact (Store.rootOf_eq later (grows.verificationRoot found)).trans
    (Store.rootOf_eq forWork found).symm

theorem RowKeeps.rooted : RowRooted after later := by
  obtain ⟨work, root, forWork, found⟩ := known.rooted
  refine ⟨⟨work, root, ?_, grows.verificationRoot found⟩, ?_⟩
  · rw [keeps.workOf grows holds, forWork]
  · rw [keeps.rootOf grows holds known, keeps.analysisId]
    intro below
    obtain ⟨state, profile, running, given⟩ := known.profiled below
    obtain ⟨next, stored, continues⟩ := grows.runs running
    exact ⟨next, profile, stored, grows.verificationProfileOf continues given⟩

end Keeps

/-- The root of every reservation is known. -/
def RootsHold (store : Store) : Prop := ∀ row ∈ store.reservations.rows, RowRooted store row

/-! ## Admission -/

section Admission

variable {evidence : TrustedEvidence} {reservation : BudgetReservation}
  {work : WorkExecutionState} {action : ActionRequest}
  (admission : Admission before evidence reservation work action)

include admission

/-- An admission under a binding is made under the binding of the run. -/
theorem Admission.running {binding : BudgetProfileBinding} {profile : VerificationBudgetProfile}
    (resolved : before.resolve reservation.budgetBindingRef = .ok (.binding binding))
    (given : before.verificationProfile binding = .ok profile) :
    ∃ state, before.getRun reservation.metadata.analysisId = .ok state
      ∧ before.verificationProfileOf state = .ok profile := by
  obtain ⟨_, _, rest⟩ := except_bind_ok admission.admitted
  obtain ⟨_, left, _⟩ := except_bind_ok rest
  obtain ⟨_, executed, _, _⟩ := Store.available_ok left
  obtain ⟨record, pinned, rest⟩ := except_bind_ok executed
  obtain ⟨_, found⟩ := raiseIf_bind_ok.1 pinned
  rw [resolved] at found
  cases found
  obtain ⟨state, running, rest⟩ := except_bind_ok rest
  obtain ⟨same, _⟩ := raiseIf_bind_ok.1 rest
  refine ⟨state, running, ?_⟩
  rw [Store.verificationProfileOf, not_not.1 same]
  simp only [required, bind, Except.bind, resolved, given]

omit admission in
/-- A workspace has no verification above it. -/
theorem workspace_root {store : Store} {work : WorkExecutionState}
    (workspace : work.workType = .workspacePrep) : store.verificationRoot work = .ok none := by
  have orphan : work.parentWorkRef = none := by
    have child := work.typeShape.2.1
    rw [workspace] at child
    cases parent : work.parentWorkRef with
    | none => rfl
    | some _ =>
        rw [parent] at child
        exact absurd (child.2 rfl) (by decide)
  rw [Store.verificationRoot, Store.rootFrom]
  simp [workspace, orphan]

/-- The root of an admitted reservation is known. -/
theorem Admission.rooted :
    RowRooted before (Store.newReservation evidence reservation work action) := by
  have forWork := admission.workOf
  obtain ⟨record, resolved, _, checked⟩ := admission.checked
  by_cases workspace : work.workType = .workspacePrep
  · have root : before.verificationRoot work = .ok none := workspace_root workspace
    refine ⟨⟨work, none, forWork, root⟩, ?_⟩
    simp [Store.rootOf_eq forWork root]
  · unfold Store.checkScope at checked
    split at checked
    · rename_i binding _
      have named : before.bindingOf (Store.newReservation evidence reservation work action)
          = some binding := by
        rw [Store.bindingOf, Store.newReservation, resolved]
      obtain ⟨root, found, rest⟩ := except_bind_ok (admission.bound named).1
      obtain ⟨profile, given, _⟩ := except_bind_ok rest
      obtain ⟨state, running, profiled⟩ := admission.running resolved given
      exact ⟨⟨work, root, forWork, found⟩, fun _ => ⟨state, profile, running, profiled⟩⟩
    · rw [if_neg workspace] at checked
      cases checked

end Admission

/-! ## What a write changes -/

section Step

variable (hold : RowsHold before) (ledger : LedgerInvariant before) (roots : RootsHold before)
  (written : Written retiring before after)

include hold written

omit ledger in
theorem RootsHold.step (roots : RootsHold before) : RootsHold after := by
  intro later member
  rcases written.write.row_of hold member with
    ⟨row, stored, change⟩ | ⟨_, _, _, _, admission, rfl, _⟩
  · exact change.keeps.rooted written.grows (hold row stored) (roots row stored)
  · exact RowKeeps.rooted written.grows admission.rowHolds admission.rooted (.refl _)

omit hold in
/-- What a reservation was debited stays. -/
theorem Written.debitOf {reservationId : String} {debit : LedgerRow}
    (found : before.debitOf reservationId = some debit) :
    after.debitOf reservationId = some debit := by
  cases written.write with
  | keep _ same | reserve _ _ _ _ _ _ same | claim _ _ _ _ same | release _ _ _ _ _ _ _ same
  | retire _ _ _ _ _ _ _ same => rwa [Store.debitOf, same]
  | commit _ _ _ _ _ _ _ _ _ _ _ _ inserted =>
      rw [Store.debitOf, (Table.insert_eq_some.1 inserted).2, List.find?_append]
      rw [Store.debitOf] at found
      rw [found]
      rfl

include ledger

omit hold in
/-- What a committed reservation used stays. -/
theorem Written.actualOf {row : ReservationRow} (stored : row ∈ before.reservations.rows)
    (committed : row.status = .committed) (field : UnitField) :
    after.actualOf row field = before.actualOf row field := by
  obtain ⟨debit, member, same⟩ := List.mem_map.1 (ledger.covered row stored committed)
  cases found : before.debitOf row.reservationId with
  | none =>
      have absent := List.find?_eq_none.1 found debit member
      simp [same] at absent
  | some first => rw [Store.actualOf, Store.actualOf, found, written.debitOf found]

omit ledger written in
/-- A row that a write closes was open. -/
theorem RowsHold.opened {row : ReservationRow} (stored : row ∈ before.reservations.rows)
    {current : BudgetReservation} (valid : validateReservationRevision row.payload current = .ok ()) :
    row.status = .reserved :=
  (hold row stored).status.symm.trans (validateReservationRevision_ok valid).1

/-- A row counts for no more after a write than before it, up to its overrun. -/
theorem RowChange.counted {row later : ReservationRow} (stored : row ∈ before.reservations.rows)
    (change : RowChange retiring after row later) (field : UnitField) :
    after.countedOf field later + before.overrunOf field row
      ≤ before.countedOf field row + after.overrunOf field later := by
  cases change with
  | same unchanged =>
      subst unchanged
      cases status : later.status with
      | reserved => simp [Store.countedOf, Store.overrunOf, status]
      | released => simp [Store.countedOf, Store.overrunOf, status]
      | committed =>
          simp only [Store.countedOf, Store.overrunOf, status,
            written.actualOf ledger stored status]
          exact le_rfl
  | claim opened claimed =>
      subst claimed
      simp [Store.countedOf, Store.overrunOf, ReservationRow.withClaim, opened]
  | release current valid released _ closed | retire _ current valid released closed =>
      subst closed
      simp [Store.countedOf, Store.overrunOf, ReservationRow.withClaim, ReservationRow.finalized,
        released, hold.opened stored valid]
  | commit current valid committed _ closed =>
      subst closed
      have requested := (validateReservationRevision_ok valid).2.2.2.2.2.2.2
      simp only [Store.countedOf, Store.overrunOf, ReservationRow.finalized, committed,
        hold.opened stored valid, requested]
      omega

omit ledger in
/-- A row is no open evidence call after a write that it was not before. -/
theorem RowChange.evidence {row later : ReservationRow} (stored : row ∈ before.reservations.rows)
    (change : RowChange retiring after row later) :
    after.openEvidence later ≤ before.openEvidence row := by
  have holds := hold row stored
  have keeps := change.keeps
  by_cases opened : later.status = .reserved
  · have reserved : row.status = .reserved := by
      by_contra closed
      have settled : row.payload.status ≠ .reserved := holds.status ▸ closed
      exact closed ((keeps.settled settled).2.symm.trans opened)
    rw [Store.openEvidence, Store.openEvidence, keeps.workOf written.grows holds,
      keeps.actionOf written.grows holds, opened, reserved]
  · rw [Store.openEvidence, if_neg fun evidence => opened evidence.1]
    exact Nat.zero_le _

end Step

/-! ## Recounts -/

section Recount

variable (hold : RowsHold before) (ledger : LedgerInvariant before)

include hold ledger

/-- What an admission reads of a standing reservation is what it counts for. -/
theorem LedgerInvariant.countedUnits {row : ReservationRow}
    (stored : row ∈ before.reservations.rows) (standing : row.status ≠ .released)
    {units : BudgetUnits} (counted : before.countedUnits row.payload = .ok units)
    (field : UnitField) : units.get field = before.countedOf field row := by
  have status := (hold row stored).status
  rw [Store.countedUnits] at counted
  by_cases committed : row.status = .committed
  · obtain ⟨debit, member, same⟩ := List.mem_map.1 (ledger.covered row stored committed)
    cases found : before.debitOf row.reservationId with
    | none =>
        have absent := List.find?_eq_none.1 found debit member
        simp [same] at absent
    | some first =>
        have selected : first.reservationId = row.reservationId := by
          simpa using List.find?_some found
        have debited := ledger.rows first (List.mem_of_find?_eq_some found)
        obtain ⟨own, located, _, _, named⟩ := debited.committed
        obtain rfl := Table.eq_of_key (Table.find_eq_some.1 located).1 stored
          ((Table.find_eq_some.1 located).2.trans selected)
        rw [named] at counted
        simp only [debited.recorded, bind, Except.bind] at counted
        cases counted
        simp [Store.countedOf, Store.actualOf, committed, found]
  · have unsettled : row.payload.ledgerEntryRef = none :=
      row.payload.ledgerEntryRef_eq_none.2 (status ▸ committed)
    rw [unsettled] at counted
    cases counted
    cases opened : row.status with
    | reserved => simp [Store.countedOf, opened]
    | committed => exact absurd opened committed
    | released => exact absurd opened standing

variable (roots : RootsHold before) {reservation : BudgetReservation}
  {work : WorkExecutionState} {root : String}

include roots

omit hold ledger roots in
theorem Store.reservedWork_ok {row : ReservationRow} {work : WorkExecutionState}
    (resolved : before.reservedWork row.payload = .ok work) : before.workOf row = some work := by
  obtain ⟨record, found, rest⟩ := except_bind_ok resolved
  rw [Store.workOf, found]
  split at rest
  · cases rest
    rfl
  · cases rest

omit hold ledger roots in
theorem Store.reservedAction_ok {row : ReservationRow} {actionType : Option ActionType}
    (resolved : before.reservedAction row.payload = .ok actionType) :
    actionType = (before.actionOf row).map fun action => action.actionType := by
  obtain ⟨record, found, rest⟩ := except_bind_ok resolved
  rw [Store.actionOf, found]
  split at rest
  · cases rest
    rfl
  · rename_i other
    cases rest
    split
    · rename_i named
      cases named
      exact absurd rfl (other _)
    · rfl

/-- One turn of an admission below a root adds what the reservation counts for below it. -/
theorem RowsHold.hierarchyTurn (fresh : before.reservations.find reservation.reservationId = none)
    {totals next : Store.HierarchyTotals} {row : ReservationRow}
    (member : row ∈ before.standingRows work.metadata.analysisId)
    (turned : Store.hierarchyTurn before reservation work (some root) totals row = .ok next)
    (field : UnitField) :
    totalUnits field next.scopeUnits = totalUnits field totals.scopeUnits
        + before.within work.metadata.analysisId root (before.countedOf field) row
      ∧ (totals.evidenceCalls ≠ 0 → next.evidenceCalls ≠ 0
        ∧ next.evidenceCalls = totals.evidenceCalls
          + before.within work.metadata.analysisId root before.openEvidence row) := by
  obtain ⟨stored, standing⟩ := List.mem_filter.1 member
  obtain ⟨analysis, unreleased⟩ := of_decide_eq_true standing
  have holds := hold row stored
  obtain ⟨other, otherRoot, forWork, found⟩ := (roots row stored).rooted
  have below := Store.rootOf_eq forWork found
  have differs : row.payload.reservationId ≠ reservation.reservationId := by
    rw [holds.identified]
    exact Table.find_eq_none.1 fresh row stored
  rw [Store.hierarchyTurn, if_neg differs] at turned
  obtain ⟨reserved, resolved, rest⟩ := except_bind_ok turned
  obtain ⟨otherAction, acted, rest⟩ := except_bind_ok rest
  obtain ⟨evidence, called, rest⟩ := except_bind_ok rest
  obtain ⟨units, counted, rest⟩ := except_bind_ok rest
  obtain ⟨inScope, inside, rest⟩ := except_bind_ok rest
  cases rest
  have same : reserved = other := by
    have named := Store.reservedWork_ok resolved
    rw [forWork] at named
    exact (Option.some.inj named).symm
  subst same
  have within : ∀ weight : ReservationRow → Nat,
      before.within work.metadata.analysisId root weight row = if inScope then weight row else 0 := by
    intro weight
    simp only [Store.below, Option.isSome_some, if_true, found, bind, Except.bind,
      Except.ok.injEq] at inside
    simp [Store.within, Store.belongs, analysis, below, ← inside]
  refine ⟨?_, ?_⟩
  · rw [within, ← ledger.countedUnits hold stored unreleased counted field]
    cases inScope <;> simp [totalUnits]
  · intro calls
    have opened : before.within work.metadata.analysisId root before.openEvidence row
        = if evidence then 1 else 0 := by
      have action := Store.reservedAction_ok acted
      rw [Store.evidenceCall] at called
      split at called
      · rename_i collects
        rw [found] at called
        cases called
        simp only [Store.within, Store.belongs, analysis, below, true_and, Store.openEvidence,
          ← holds.status, collects.2.1, forWork, Option.any_some, collects.2.2, action,
          Option.any_map, Bool.and_eq_true, decide_eq_true_eq]
        by_cases rooted : otherRoot = some root
        · simp only [rooted, true_and, if_true]
        · simp [rooted]
      · rename_i collects
        cases called
        have idle : before.openEvidence row = 0 := by
          apply if_neg
          intro evidence
          rw [forWork] at evidence
          exact collects ⟨calls, holds.status.trans evidence.1, evidence.2.1⟩
        simp [Store.within, idle]
    rw [opened]
    cases evidence <;> simp [calls]

omit [ContentHash] hold ledger roots in
/-- The sum over the standing rows is the total over the rows of the analysis. -/
theorem Store.standing_sum {store : Store} {analysisId : String} {weight : ReservationRow → Nat}
    (released : ∀ row, row.status = .released → weight row = 0)
    (foreign : ∀ row, row.analysisId ≠ analysisId → weight row = 0) :
    ((store.standingRows analysisId).map weight).sum = store.reservations.total weight := by
  rw [Store.standingRows, sum_filter, Table.total]
  congr 1
  apply List.map_congr_left
  intro row _
  split
  · rfl
  · rename_i idle
    by_cases own : row.analysisId = analysisId
    · exact (released row (not_not.1 fun standing => idle (decide_eq_true ⟨own, standing⟩))).symm
    · exact (foreign row own).symm

/-- The loop of an admission below a root adds what its standing reservations count for. -/
theorem RowsHold.hierarchy_totals
    (fresh : before.reservations.find reservation.reservationId = none)
    {totals last : Store.HierarchyTotals}
    (looped : (before.standingRows work.metadata.analysisId).foldlM
      (Store.hierarchyTurn before reservation work (some root)) totals = .ok last)
    (field : UnitField) :
    totalUnits field last.scopeUnits = totalUnits field totals.scopeUnits
        + before.countedTotal work.metadata.analysisId root field
      ∧ (totals.evidenceCalls ≠ 0 → last.evidenceCalls = totals.evidenceCalls
        + before.evidenceTotal work.metadata.analysisId root) := by
  have foreign : ∀ weight row, row.analysisId ≠ work.metadata.analysisId →
      before.within work.metadata.analysisId root weight row = 0 :=
    fun _ _ other => if_neg fun belongs => other belongs.1
  constructor
  · have summed := foldlM_measure
      (fun totals : Store.HierarchyTotals => totalUnits field totals.scopeUnits)
      (fun member turned (_ : True) =>
        ⟨trivial, (hold.hierarchyTurn ledger roots fresh member turned field).1⟩) looped trivial
    rw [Store.countedTotal, ← Store.standing_sum _ (foreign _)]
    · exact summed
    · intro row released
      simp [Store.within, Store.countedOf, released]
  · intro calls
    have summed := foldlM_measure
      (fun totals : Store.HierarchyTotals => totals.evidenceCalls)
      (fun member turned (calls : _ ≠ 0) =>
        (hold.hierarchyTurn ledger roots fresh member turned field).2 calls) looped calls
    rw [Store.evidenceTotal, ← Store.standing_sum _ (foreign _)]
    · exact summed
    · intro row released
      simp [Store.within, Store.openEvidence, released]

/-- An admission below a root fits into what the verification profile leaves. -/
theorem Admission.verification {evidence : TrustedEvidence} {action : ActionRequest}
    (admission : Admission before evidence reservation work action)
    (fresh : before.reservations.find reservation.reservationId = none)
    (below : before.rootOf (Store.newReservation evidence reservation work action) = some root) :
    ∃ state profile, before.getRun work.metadata.analysisId = .ok state
      ∧ before.verificationProfileOf state = .ok profile
      ∧ (∀ field maximum, profile.limit field = some maximum →
        before.countedTotal work.metadata.analysisId root field
          + reservation.requestedUnits.get field ≤ maximum)
      ∧ (before.openEvidence (Store.newReservation evidence reservation work action) ≠ 0 →
        before.evidenceTotal work.metadata.analysisId root + 1
          ≤ profile.maxParallelEvidenceCalls) := by
  have forWork : work.workType ≠ .workspacePrep := by
    intro workspace
    rw [Store.rootOf_eq admission.workOf (workspace_root workspace)] at below
    cases below
  obtain ⟨record, resolved, bound, checked⟩ := admission.checked
  unfold Store.checkScope at checked
  split at checked
  · rename_i binding _
    obtain ⟨_, _, hierarchy⟩ := except_bind_ok bound
    obtain ⟨found, rooted, rest⟩ := except_bind_ok hierarchy
    rw [Store.rootOf_eq admission.workOf rooted] at below
    subst below
    obtain ⟨profile, given, rest⟩ := except_bind_ok rest
    obtain ⟨state, running, profiled⟩ := admission.running resolved given
    obtain ⟨_, _, rest⟩ := except_bind_ok rest
    obtain ⟨_, _, rest⟩ := except_bind_ok rest
    obtain ⟨_, _, rest⟩ := except_bind_ok rest
    obtain ⟨totals, looped, rest⟩ := except_bind_ok rest
    obtain ⟨_, limited, rest⟩ := except_bind_ok rest
    obtain ⟨parallel, _⟩ := raiseIf_bind_ok.1 rest
    have summed := hold.hierarchy_totals ledger roots fresh looped
    have verified := checkIf_ok.1 limited rfl
    obtain ⟨works, rest⟩ := raiseIf_bind_ok.1 verified
    obtain ⟨elapsed, rest⟩ := raiseIf_bind_ok.1 rest
    obtain ⟨calls, _⟩ := raiseIf_bind_ok.1 rest
    have within : ∀ field maximum, profile.limit field = some maximum →
        totalUnits field totals.scopeUnits ≤ maximum := by
      intro field maximum limit
      cases field with
      | workCount => cases limit; exact Nat.le_of_not_lt works
      | elapsedMs => cases limit; exact Nat.le_of_not_lt elapsed
      | llmCallCount => cases limit; exact Nat.le_of_not_lt calls
      | retryCount => cases limit
      | costMinorUnits => cases limit
    refine ⟨state, profile, admission.analysis ▸ running, profiled, ?_, ?_⟩
    · intro field maximum limit
      have fits := within field maximum limit
      rw [(summed field).1] at fits
      simp only [totalUnits, List.map_cons, List.map_nil, List.sum_cons, List.sum_nil] at fits
      omega
    · intro opens
      have collects : (before.workOf (Store.newReservation evidence reservation work action)).any
          (fun work => Store.collectsEvidence work.workType) = true
          ∧ (before.actionOf (Store.newReservation evidence reservation work action)).any
            (fun action => action.actionType.isExternal) = true := by
        by_contra other
        exact opens (if_neg fun evidence => other evidence.2)
      rw [admission.workOf, admission.actionOf, Option.any_some, Option.any_some] at collects
      have first := (summed .workCount).2
      rw [if_pos collects] at first
      have counted : totals.evidenceCalls
          = 1 + before.evidenceTotal work.metadata.analysisId root := first Nat.one_ne_zero
      omega
  · rw [if_neg forWork] at checked
    cases checked

end Recount

/-! ## Runs -/

/-- The reservations below a root stay within a verification profile. -/
structure WithinVerification (store : Store) (analysisId root : String)
    (profile : VerificationBudgetProfile) : Prop where
  units : ∀ field maximum, profile.limit field = some maximum →
    store.countedTotal analysisId root field
      ≤ maximum + store.verificationOverrun analysisId root field
  evidence : store.evidenceTotal analysisId root ≤ profile.maxParallelEvidenceCalls

/-- Every verification stays within the profile of its run. -/
def VerificationCeilings (store : Store) : Prop :=
  ∀ analysisId root state profile, store.getRun analysisId = .ok state →
    store.verificationProfileOf state = .ok profile →
    WithinVerification store analysisId root profile

section Ceilings

variable (hold : RowsHold before) (ledger : LedgerInvariant before) (roots : RootsHold before)
  (written : Written retiring before after) {analysisId root : String}

omit hold ledger roots written in
/-- A changed row belongs to the same verification. -/
theorem RowKeeps.within {row later : ReservationRow} (keeps : RowKeeps row later)
    (grows : Grows before after) (holds : RowHolds before row) (known : RowRooted before row)
    (analysisId root : String) (weight : ReservationRow → Nat) :
    after.within analysisId root weight later
      = if before.belongs analysisId root row then weight later else 0 := by
  rw [Store.within]
  congr 1
  rw [Store.belongs, keeps.analysisId, keeps.rootOf grows holds known]
  rfl

include roots

/-- An analysis without a verification profile has no reservation below a root. -/
theorem RootsHold.idle
    (idle : ¬ ∃ state profile, before.getRun analysisId = .ok state
      ∧ before.verificationProfileOf state = .ok profile) (weight : ReservationRow → Nat) :
    before.reservations.total (before.within analysisId root weight) = 0 := by
  have nothing : before.reservations.total (before.within analysisId root weight)
      = before.reservations.total fun _ => 0 := by
    apply Table.total_congr
    intro row stored
    apply if_neg
    intro belongs
    have profiled := (roots row stored).profiled (by rw [belongs.2]; rfl)
    exact idle (belongs.1 ▸ profiled)
  rw [nothing]
  simp [Table.total]

include written

/-- A verification was within its profile before a write when every earlier one was. -/
theorem VerificationCeilings.earlier (ceilings : VerificationCeilings before)
    (root : String) {state : AnalysisRunState} {profile : VerificationBudgetProfile}
    (running : after.getRun analysisId = .ok state)
    (given : after.verificationProfileOf state = .ok profile) :
    WithinVerification before analysisId root profile := by
  by_cases known : ∃ state profile, before.getRun analysisId = .ok state
      ∧ before.verificationProfileOf state = .ok profile
  · obtain ⟨first, own, found, profiled⟩ := known
    obtain ⟨later, stored, continues⟩ := written.grows.runs found
    rw [running] at stored
    cases stored
    have same := (written.grows.verificationProfileOf continues profiled).symm.trans given
    cases same
    exact ceilings analysisId root first _ found profiled
  · constructor
    · intro field maximum _
      rw [Store.countedTotal, roots.idle known]
      exact Nat.zero_le _
    · rw [Store.evidenceTotal, roots.idle known]
      exact Nat.zero_le _

include hold ledger

/-- An admission below a root fits into what the profile of its run leaves. -/
theorem Written.admitted {evidence : TrustedEvidence} {reservation : BudgetReservation}
    {work : WorkExecutionState} {action : ActionRequest}
    (admission : Admission before evidence reservation work action)
    (inserted : before.reservations.insert (Store.newReservation evidence reservation work action)
      = some after.reservations)
    (belongs : before.belongs analysisId root
      (Store.newReservation evidence reservation work action))
    {state : AnalysisRunState} {profile : VerificationBudgetProfile}
    (running : after.getRun analysisId = .ok state)
    (given : after.verificationProfileOf state = .ok profile) :
    (∀ field maximum, profile.limit field = some maximum →
        before.countedTotal analysisId root field + reservation.requestedUnits.get field ≤ maximum)
      ∧ (before.openEvidence (Store.newReservation evidence reservation work action) ≠ 0 →
        before.evidenceTotal analysisId root + 1 ≤ profile.maxParallelEvidenceCalls) := by
  obtain ⟨first, own, found, profiled, units, evidenced⟩ :=
    admission.verification hold ledger roots (Table.insert_eq_some.1 inserted).1 belongs.2
  have within : work.metadata.analysisId = analysisId := admission.analysis.trans belongs.1
  rw [within] at found units evidenced
  obtain ⟨later, stored, continues⟩ := written.grows.runs found
  rw [running] at stored
  cases stored
  have same := (written.grows.verificationProfileOf continues profiled).symm.trans given
  cases same
  exact ⟨units, evidenced⟩

/-- A write keeps the units of a verification within its profile, up to the overruns. -/
theorem Written.units {state : AnalysisRunState} {profile : VerificationBudgetProfile}
    (running : after.getRun analysisId = .ok state)
    (given : after.verificationProfileOf state = .ok profile) {field : UnitField} {maximum : Nat}
    (limit : profile.limit field = some maximum)
    (counted : before.countedTotal analysisId root field
      ≤ maximum + before.verificationOverrun analysisId root field) :
    after.countedTotal analysisId root field
      ≤ maximum + after.verificationOverrun analysisId root field := by
  have turn : ∀ row ∈ before.reservations.rows, ∀ later, RowChange retiring after row later →
      after.within analysisId root (after.countedOf field) later
          + before.within analysisId root (before.overrunOf field) row
        ≤ before.within analysisId root (before.countedOf field) row
          + after.within analysisId root (after.overrunOf field) later := by
    intro row stored later change
    have within := change.keeps.within written.grows (hold row stored) (roots row stored)
      analysisId root
    rw [within, within, Store.within, Store.within]
    split
    · exact change.counted hold ledger written stored field
    · exact le_rfl
  rw [Store.countedTotal, Store.verificationOverrun] at counted ⊢
  rcases written.write.balance hold turn with
    less | ⟨evidence, reservation, work, action, admission, inserted, less⟩
  · omega
  · have keeps : RowKeeps (Store.newReservation evidence reservation work action) _ := .refl _
    have within := keeps.within written.grows admission.rowHolds admission.rooted analysisId root
    rw [within, within] at less
    split at less
    · rename_i belongs
      have fits := (written.admitted hold ledger roots admission inserted belongs running
        given).1 field maximum limit
      have requested : after.countedOf field
          (Store.newReservation evidence reservation work action)
          = reservation.requestedUnits.get field := by
        simp [Store.countedOf, Store.newReservation, admission.opened]
      rw [Store.countedTotal] at fits
      rw [requested] at less
      omega
    · omega

/-- A write keeps the open evidence calls of a verification within its profile. -/
theorem Written.evidence {state : AnalysisRunState} {profile : VerificationBudgetProfile}
    (running : after.getRun analysisId = .ok state)
    (given : after.verificationProfileOf state = .ok profile)
    (counted : before.evidenceTotal analysisId root ≤ profile.maxParallelEvidenceCalls) :
    after.evidenceTotal analysisId root ≤ profile.maxParallelEvidenceCalls := by
  have turn : ∀ row ∈ before.reservations.rows, ∀ later, RowChange retiring after row later →
      after.within analysisId root after.openEvidence later + 0
        ≤ before.within analysisId root before.openEvidence row + 0 := by
    intro row stored later change
    rw [change.keeps.within written.grows (hold row stored) (roots row stored), Store.within]
    split
    · exact change.evidence hold written stored
    · exact le_rfl
  rw [Store.evidenceTotal] at counted ⊢
  rcases written.write.balance hold turn with
    less | ⟨evidence, reservation, work, action, admission, inserted, less⟩
  · rw [Table.total_zero, Table.total_zero] at less
    omega
  · have keeps : RowKeeps (Store.newReservation evidence reservation work action) _ := .refl _
    rw [keeps.within written.grows admission.rowHolds admission.rooted, Table.total_zero,
      Table.total_zero] at less
    split at less
    · rename_i belongs
      have fits := (written.admitted hold ledger roots admission inserted belongs running given).2
      have same : after.openEvidence (Store.newReservation evidence reservation work action)
          = before.openEvidence (Store.newReservation evidence reservation work action) := by
        rw [Store.openEvidence, Store.openEvidence, keeps.workOf written.grows admission.rowHolds,
          keeps.actionOf written.grows admission.rowHolds]
      rw [same] at less
      rw [Store.evidenceTotal] at fits
      by_cases opens : before.openEvidence
          (Store.newReservation evidence reservation work action) = 0
      · omega
      · have one : before.openEvidence
            (Store.newReservation evidence reservation work action) ≤ 1 := by
          rw [Store.openEvidence]
          split <;> omega
        have bound := fits opens
        omega
    · omega

/-- Every write keeps every verification within its profile. -/
theorem VerificationCeilings.step (ceilings : VerificationCeilings before) :
    VerificationCeilings after := by
  intro analysisId root state profile running given
  have earlier := ceilings.earlier roots written root running given
  exact ⟨fun _ _ limit => written.units hold ledger roots running given limit
    (earlier.units _ _ limit), written.evidence hold ledger roots running given earlier.evidence⟩

end Ceilings

/-- The roots and the ceilings of the verifications of every reached store. -/
theorem reached_verificationCeilings (events : List BudgetEvent) :
    VerificationCeilings (reached events) := by
  have kept : RootsHold (reached events) ∧ LedgerInvariant (reached events)
      ∧ VerificationCeilings (reached events) := by
    apply @reached_keeps _ (fun store =>
      RootsHold store ∧ LedgerInvariant store ∧ VerificationCeilings store) events
    · intro before after hold written kept
      obtain ⟨roots, ledger, ceilings⟩ := kept
      exact ⟨roots.step hold written, ledger.step hold written,
        ceilings.step hold ledger roots written⟩
    · refine ⟨fun _ member => absurd member List.not_mem_nil, (reached_budget []).ledger, ?_⟩
      intro analysisId root state profile running
      cases running
  exact kept.2.2

/-! ## The ceilings of an analysis -/

/-- What holds of every work and of every verification in a store. -/
structure CeilingsKept (store : Store) : Prop where
  /-- The attempts of a work under one limit that are not released. -/
  attempts : ∀ analysisId workId limit state, store.getRun analysisId = .ok state →
    store.SingleLimit analysisId workId limit →
    store.workTotal analysisId workId attemptCharge
      ≤ allowed limit.maxAttempts state.purpose localManualRepairAttempts
  /-- Its external calls that are not released. -/
  calls : ∀ analysisId workId limit state, store.getRun analysisId = .ok state →
    store.SingleLimit analysisId workId limit →
    store.workTotal analysisId workId callCharge
      ≤ allowed limit.maxCallsPerWork state.purpose localManualRepairCalls
  /-- The items admitted for it. -/
  items : ∀ analysisId workId limit state, store.getRun analysisId = .ok state →
    store.SingleLimit analysisId workId limit →
    store.workTotal analysisId workId itemCharge ≤ limit.maxItemsPerWork.getD 0
  /-- The units of a verification: requested while reserved, used once committed. -/
  units : ∀ analysisId root state profile, store.getRun analysisId = .ok state →
    store.verificationProfileOf state = .ok profile →
    ∀ field maximum, profile.limit field = some maximum →
      store.countedTotal analysisId root field
        ≤ maximum + store.verificationOverrun analysisId root field
  /-- The open evidence calls of a verification. -/
  evidence : ∀ analysisId root state profile, store.getRun analysisId = .ok state →
    store.verificationProfileOf state = .ok profile →
    store.evidenceTotal analysisId root ≤ profile.maxParallelEvidenceCalls

/-- Every work and every verification stays within its ceilings along every sequence of
transactions. -/
theorem ceilings_kept (events : List BudgetEvent) : CeilingsKept (reached events) where
  attempts analysisId workId limit state running single :=
    ((reached_workCeilings events).2 analysisId workId limit state running single).attempts
  calls analysisId workId limit state running single :=
    ((reached_workCeilings events).2 analysisId workId limit state running single).calls
  items analysisId workId limit state running single :=
    ((reached_workCeilings events).2 analysisId workId limit state running single).items
  units analysisId root state profile running given :=
    (reached_verificationCeilings events analysisId root state profile running given).units
  evidence analysisId root state profile running given :=
    (reached_verificationCeilings events analysisId root state profile running given).evidence

end Sastsimi.Storage
