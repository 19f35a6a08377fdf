import Sastsimi.Storage.BudgetWrites
import Sastsimi.Storage.Registration

/-!
# What keeps the registrations

Only a reservation adds a row to the reservations, and only a registration adds a row to the works
or makes a work pending.  Every other transaction keeps the terms of the reservations and the works
they were made for.
-/

namespace Sastsimi.Storage

open Lib Sastsimi.Runtime

/-! ## What a row keeps -/

/-- The fields of a reservation and its row that never change. -/
structure Terms where
  reservationId : String
  analysisId : String
  named : String
  workRef : RecordRef
  actionRef : RecordRef
  bindingRef : RecordRef
  initialRef : RecordRef

/-- The terms of a row. -/
def ReservationRow.terms (row : ReservationRow) : Terms where
  reservationId := row.reservationId
  analysisId := row.analysisId
  named := row.payload.reservationId
  workRef := row.payload.workRef
  actionRef := row.payload.actionRef
  bindingRef := row.payload.budgetBindingRef
  initialRef := row.initialRef

variable [ContentHash]

/-- The terms of the row of a new reservation. -/
def BudgetReservation.terms (reservation : BudgetReservation) : Terms where
  reservationId := reservation.reservationId
  analysisId := reservation.metadata.analysisId
  named := reservation.reservationId
  workRef := reservation.workRef
  actionRef := reservation.actionRef
  bindingRef := reservation.budgetBindingRef
  initialRef := reference (.reservation reservation)

/-- What a revision keeps of the row of a work.  Only a registration makes a work pending. -/
structure WorkKeeps (row later : WorkRow) : Prop where
  workId : later.workId = row.workId
  analysisId : later.analysisId = row.analysisId
  named : later.payload.workId = row.payload.workId
  within : later.payload.metadata.analysisId = row.payload.metadata.analysisId
  pending : later.payload.status = .pending → later.payload = row.payload

omit [ContentHash] in
theorem WorkKeeps.refl (row : WorkRow) : WorkKeeps row row := ⟨rfl, rfl, rfl, rfl, fun _ => rfl⟩

omit [ContentHash] in
theorem WorkKeeps.trans {row later last : WorkRow} (first : WorkKeeps row later)
    (second : WorkKeeps later last) : WorkKeeps row last where
  workId := second.workId.trans first.workId
  analysisId := second.analysisId.trans first.analysisId
  named := second.named.trans first.named
  within := second.within.trans first.within
  pending := by
    intro pending
    have same := second.pending pending
    rw [same] at pending
    exact same.trans (first.pending pending)

/-- Every row of a reservation and of a work repeats the identifier of its payload. -/
structure Named (store : Store) : Prop where
  reservations : ∀ row ∈ store.reservations.rows, row.payload.reservationId = row.reservationId
  works : ∀ row ∈ store.works.rows, row.payload.workId = row.workId

/-- A transaction that neither reserves nor registers. -/
structure KeepsScopes (before after : Store) : Prop where
  records : before.records.Extends after.records
  terms : after.reservations.rows.map ReservationRow.terms
    = before.reservations.rows.map ReservationRow.terms
  works : ∀ later ∈ after.works.rows, ∃ row ∈ before.works.rows, WorkKeeps row later
  workIds : after.works.rows.map WorkRow.workId = before.works.rows.map WorkRow.workId

namespace KeepsScopes

variable {before middle after : Store}

omit [ContentHash] in
/-- The tables of reservations and works may stay. -/
theorem of_same (records : before.records.Extends after.records)
    (reservations : after.reservations = before.reservations)
    (works : after.works = before.works) : KeepsScopes before after where
  records := records
  terms := by rw [reservations]
  works := fun row member => ⟨row, works ▸ member, .refl row⟩
  workIds := by rw [works]

omit [ContentHash] in
theorem refl (store : Store) : KeepsScopes store store := of_same (.refl _) rfl rfl

omit [ContentHash] in
theorem trans (first : KeepsScopes before middle) (second : KeepsScopes middle after) :
    KeepsScopes before after where
  records := first.records.trans second.records
  terms := second.terms.trans first.terms
  works := by
    intro last member
    obtain ⟨later, between, keeps⟩ := second.works last member
    obtain ⟨row, stored, kept⟩ := first.works later between
    exact ⟨row, stored, kept.trans keeps⟩
  workIds := second.workIds.trans first.workIds

omit [ContentHash] in
/-- The terms of a row are those of an earlier one. -/
theorem terms_of (keeps : KeepsScopes before after) {row : ReservationRow}
    (member : row ∈ after.reservations.rows) :
    ∃ earlier ∈ before.reservations.rows, earlier.terms = row.terms := by
  have listed := List.mem_map_of_mem (f := ReservationRow.terms) member
  rw [keeps.terms] at listed
  exact List.mem_map.1 listed

omit [ContentHash] in
/-- A row stays with its terms. -/
theorem terms_to (keeps : KeepsScopes before after) {row : ReservationRow}
    (member : row ∈ before.reservations.rows) :
    ∃ later ∈ after.reservations.rows, later.terms = row.terms := by
  have listed := List.mem_map_of_mem (f := ReservationRow.terms) member
  rw [← keeps.terms] at listed
  exact List.mem_map.1 listed

omit [ContentHash] in
theorem named (keeps : KeepsScopes before after) (named : Named before) : Named after where
  reservations := by
    intro row member
    obtain ⟨earlier, stored, same⟩ := keeps.terms_of member
    have own := named.reservations earlier stored
    have first : earlier.payload.reservationId = row.payload.reservationId :=
      congrArg Terms.named same
    have second : earlier.reservationId = row.reservationId := congrArg Terms.reservationId same
    exact first.symm.trans (own.trans second)
  works := by
    intro later member
    obtain ⟨row, stored, kept⟩ := keeps.works later member
    exact kept.named.trans ((named.works row stored).trans kept.workId.symm)

/-! ## Single writes -/

theorem save {record : Record} (saved : before.save record = .ok after) :
    KeepsScopes before after := by
  obtain ⟨shape, grows, _⟩ := Store.save_ok saved
  exact of_same grows (by rw [shape]) (by rw [shape])

omit [ContentHash] in
theorem stageRecord {record : Record} (staged : before.stageRecord record = .ok after) :
    KeepsScopes before after := by
  obtain ⟨records, stores, returned⟩ := except_bind_ok staged
  cases returned
  exact of_same (RecordStore.stage_ok stores).1 rfl rfl

omit [ContentHash] in
theorem setClaim (reservationId : String) (claimed : Bool) :
    KeepsScopes before (before.setClaim reservationId claimed) where
  records := .refl _
  terms := Table.map_update (fun row => row.withClaim_reservationId claimed) fun _ _ _ => rfl
  works := fun row member => ⟨row, member, .refl row⟩
  workIds := rfl

/-- A reservation is settled under its own terms. -/
theorem finalize (named : Named before) {row : ReservationRow} {current : BudgetReservation}
    (member : row ∈ before.reservations.rows)
    (finalized : before.finalize row.payload current = .ok after) : KeepsScopes before after := by
  obtain ⟨valid, grows, shape⟩ := Store.finalize_ok finalized
  obtain ⟨_, _, identified, _, binding, action, work, _⟩ := validateReservationRevision_ok valid
  have own := named.reservations row member
  have terms : (before.closedRows current).rows.map ReservationRow.terms
      = before.reservations.rows.map ReservationRow.terms := by
    refine Table.map_update (fun row => row.finalized_reservationId current) ?_
    intro other stored selected
    have same : other.reservationId = row.reservationId :=
      (of_decide_eq_true selected).trans (identified.trans own)
    obtain rfl := Table.eq_of_key stored member same
    simp only [ReservationRow.terms, ReservationRow.finalized, identified, binding, action, work]
  rw [shape]
  exact ⟨grows, terms, fun row member => ⟨row, member, .refl row⟩, rfl⟩

/-! ## Transactions on reservations -/

theorem claimPaid {authority : Authority} {ref : Option RecordRef} {action : ActionRequest}
    {work : WorkExecutionState} {needsBudget : Bool}
    (claimed : before.claimPaid authority ref action work needsBudget = .ok after) :
    KeepsScopes before after := by
  unfold Store.claimPaid at claimed
  split at claimed
  · obtain ⟨reservation, _, returned⟩ := except_bind_ok claimed
    cases returned
    exact setClaim reservation.reservationId true
  · cases claimed
    exact refl _

theorem claim {authority : Authority} {stamp : Stamp} {decisionRef : RecordRef}
    {kind : ActionType} {work : WorkExecutionState} {ref : Option RecordRef} {needsBudget : Bool}
    {used : ActionDecision}
    (claimed : before.claim authority stamp decisionRef kind work ref needsBudget
      = .ok (after, used)) : KeepsScopes before after := by
  obtain ⟨⟨decision, action⟩, _, rest⟩ := except_bind_ok claimed
  obtain ⟨saved, saves, rest⟩ := except_bind_ok rest
  obtain ⟨decided, inserts, rest⟩ := except_bind_ok rest
  obtain ⟨_, paid, returned⟩ := except_bind_ok rest
  cases returned
  obtain ⟨_, shape⟩ := Store.insertDecision_ok inserts
  have inserted : KeepsScopes saved decided := by
    rw [shape]
    exact of_same (.refl _) rfl rfl
  exact ((save saves).trans inserted).trans (claimPaid paid)

/-- A claim leaves the works alone. -/
theorem claim_works {authority : Authority} {stamp : Stamp} {decisionRef : RecordRef}
    {kind : ActionType} {work : WorkExecutionState} {ref : Option RecordRef} {needsBudget : Bool}
    {used : ActionDecision}
    (claimed : before.claim authority stamp decisionRef kind work ref needsBudget
      = .ok (after, used)) : after.works = before.works := by
  obtain ⟨⟨decision, action⟩, _, rest⟩ := except_bind_ok claimed
  obtain ⟨saved, saves, rest⟩ := except_bind_ok rest
  obtain ⟨decided, inserts, rest⟩ := except_bind_ok rest
  obtain ⟨_, paid, returned⟩ := except_bind_ok rest
  cases returned
  obtain ⟨first, _, _⟩ := Store.save_ok saves
  obtain ⟨_, second⟩ := Store.insertDecision_ok inserts
  have decidedWorks : decided.works = before.works := by rw [second, first]
  unfold Store.claimPaid at paid
  split at paid
  · obtain ⟨reservation, _, returned⟩ := except_bind_ok paid
    cases returned
    exact decidedWorks
  · cases paid
    exact decidedWorks

theorem save_works {record : Record} (saved : before.save record = .ok after) :
    after.works = before.works := by
  rw [(Store.save_ok saved).1]

theorem commitNew (named : Named before) {stamp : Stamp} {reservationId : String}
    {entry : BudgetLedgerEntry} (committed : before.commitNew stamp reservationId entry = .ok after) :
    KeepsScopes before after := by
  obtain ⟨row, found, rest⟩ := except_bind_ok committed
  obtain ⟨_, rest⟩ := raiseIf_bind_ok.1 rest
  obtain ⟨_, rest⟩ := raiseIf_bind_ok.1 rest
  obtain ⟨_, rest⟩ := raiseIf_bind_ok.1 rest
  obtain ⟨_, _, rest⟩ := except_bind_ok rest
  obtain ⟨_, rest⟩ := raiseIf_bind_ok.1 rest
  obtain ⟨_, _, rest⟩ := except_bind_ok rest
  obtain ⟨saved, saves, rest⟩ := except_bind_ok rest
  obtain ⟨current, _, rest⟩ := except_bind_ok rest
  obtain ⟨closed, finalized, inserted⟩ := except_bind_ok rest
  obtain ⟨shape, _, _⟩ := Store.save_ok saves
  have first := save saves
  have member : row ∈ saved.reservations.rows := by
    rw [shape]
    exact (Table.find_eq_some.1 (required_ok.1 found)).1
  have second := finalize (first.named named) member finalized
  obtain ⟨_, last⟩ := Store.insertLedger_ok inserted
  have third : KeepsScopes closed after := by
    rw [last]
    exact of_same (.refl _) rfl rfl
  exact (first.trans second).trans third

theorem commitUsage (named : Named before) {stamp : Stamp} {entry answer : BudgetLedgerEntry}
    (committed : before.commitUsage stamp entry = .ok (after, answer)) :
    KeepsScopes before after := by
  obtain ⟨initial, _, rest⟩ := except_bind_ok committed
  split at rest
  · split at rest
    · cases rest
      exact refl _
    · cases rest
  · obtain ⟨stored, commits, returned⟩ := except_bind_ok rest
    cases returned
    exact commitNew named commits

theorem release (named : Named before) {released answer : BudgetReservation}
    (returned : before.release released = .ok (after, answer)) : KeepsScopes before after := by
  obtain ⟨row, found, rest⟩ := except_bind_ok returned
  have member := (Table.find_eq_some.1 (required_ok.1 found)).1
  unfold Store.releaseRow at rest
  split at rest
  · cases rest
    exact refl _
  · obtain ⟨_, rest⟩ := raiseIf_bind_ok.1 rest
    obtain ⟨closed, finalized, answered⟩ := except_bind_ok rest
    cases answered
    exact finalize named member finalized

theorem issue {registrar : Registrar} {stamp : IssueStamp} {action : ActionRequest}
    {work : WorkExecutionState} {ref : Option RecordRef} {decision : ActionDecision}
    (issued : before.issue registrar stamp action work ref = .ok (after, decision)) :
    KeepsScopes before after := by
  obtain ⟨published, publishes, rest⟩ := except_bind_ok issued
  obtain ⟨saved, saves, rest⟩ := except_bind_ok rest
  obtain ⟨requests, _, returned⟩ := except_bind_ok rest
  cases returned
  have inserted : KeepsScopes saved { saved with requests } := of_same (.refl _) rfl rfl
  exact ((save publishes).trans (save saves)).trans inserted

theorem authorize {registrar : Registrar} {stamp : IssueStamp} {action : ActionRequest}
    {work : WorkExecutionState} {ref : Option RecordRef} {decision : ActionDecision}
    (authorized : before.authorize registrar stamp action work ref = .ok (after, decision)) :
    KeepsScopes before after := by
  unfold Store.authorize at authorized
  split at authorized
  · obtain ⟨_, rest⟩ := raiseIf_bind_ok.1 authorized
    obtain ⟨_, _, returned⟩ := except_bind_ok rest
    cases returned
    exact refl _
  · exact issue authorized

/-! ## Transactions on works -/

omit [ContentHash] in
/-- A work that moves on is no longer pending and stays in its analysis. -/
theorem moveWork (named : Named before) {row : WorkRow} {work : WorkExecutionState}
    (member : row ∈ before.works.rows) (same : work.workId = row.payload.workId)
    (within : work.metadata.analysisId = row.payload.metadata.analysisId)
    (moved : work.status ≠ .pending) (moves : before.moveWork row.payload work = .ok after) :
    KeepsScopes before after := by
  obtain ⟨_, returned⟩ := raiseIf_bind_ok.1 moves
  cases returned
  have own := named.works row member
  refine ⟨.refl _, rfl, ?_, ?_⟩
  · intro later stored
    obtain ⟨earlier, present, changed⟩ := List.mem_map.1 stored
    refine ⟨earlier, present, ?_⟩
    subst changed
    split
    · rename_i selected
      simp only [Bool.and_eq_true, decide_eq_true_eq] at selected
      obtain rfl := Table.eq_of_key present member (selected.1.trans (same.trans own))
      exact ⟨rfl, rfl, same, within, fun pending => absurd pending moved⟩
    · exact .refl earlier
  · exact Table.map_update (fun row => row.revised_workId work)
      fun other _ _ => other.revised_workId work

theorem saveWork (named : Named before) {projections : Projections} {row : WorkRow}
    {work : WorkExecutionState} (member : row ∈ before.works.rows)
    (same : work.workId = row.payload.workId)
    (within : work.metadata.analysisId = row.payload.metadata.analysisId)
    (moved : work.status ≠ .pending)
    (saved : before.saveWork projections row.payload work = .ok after) :
    KeepsScopes before after := by
  obtain ⟨stored, saves, rest⟩ := except_bind_ok saved
  obtain ⟨changed, moves, rest⟩ := except_bind_ok rest
  obtain ⟨pointed, points, advanced⟩ := except_bind_ok rest
  obtain ⟨shape, _, _⟩ := Store.save_ok saves
  have first := save saves
  have present : row ∈ stored.works.rows := by
    rw [shape]
    exact member
  have second := moveWork (first.named named) present same within moved moves
  have third : KeepsScopes changed pointed := by
    rw [Store.point_ok points]
    exact of_same (.refl _) rfl rfl
  have projected := projections.keeps advanced
  have last : KeepsScopes pointed after := by
    have frame := projected.frame
    exact of_same projected.records (by rw [frame]) (by rw [frame])
  exact ((first.trans second).trans third).trans last

omit [ContentHash] in
theorem leaseWork (workId workerId : String) (leaseExpiresAt : Nat) :
    KeepsScopes before (before.leaseWork workId workerId leaseExpiresAt) where
  records := .refl _
  terms := rfl
  works := by
    intro later stored
    obtain ⟨earlier, present, changed⟩ := List.mem_map.1 stored
    refine ⟨earlier, present, ?_⟩
    subst changed
    split
    · exact ⟨rfl, rfl, rfl, rfl, fun _ => rfl⟩
    · exact .refl earlier
  workIds := Table.map_update (fun row => row.leased_workId workerId leaseExpiresAt)
    fun other _ _ => other.leased_workId workerId leaseExpiresAt

omit [ContentHash] in
/-- The work under an identifier is the payload of a row. -/
theorem currentWork {workId : String} {work : WorkExecutionState}
    (found : before.currentWork workId = .ok work) :
    ∃ row ∈ before.works.rows, row.payload = work := by
  obtain ⟨row, stored, returned⟩ := except_bind_ok found
  cases returned
  exact ⟨row, (Table.find_eq_some.1 (required_ok.1 stored)).1, rfl⟩

theorem makeReady (named : Named before) {authority : Authority} {projections : Projections}
    {stamp used : Stamp} {transition : StateTransition} {work : WorkExecutionState}
    (readied : before.makeReady authority projections stamp used transition = .ok (after, work)) :
    KeepsScopes before after := by
  obtain ⟨previous, current, rest⟩ := except_bind_ok readied
  obtain ⟨_, _, rest⟩ := except_bind_ok rest
  obtain ⟨_, _, rest⟩ := except_bind_ok rest
  obtain ⟨_, rest⟩ := raiseIf_bind_ok.1 rest
  obtain ⟨⟨claimed, _⟩, claims, rest⟩ := except_bind_ok rest
  obtain ⟨saved, saves, rest⟩ := except_bind_ok rest
  obtain ⟨next, revised, rest⟩ := except_bind_ok rest
  obtain ⟨stored, stores, returned⟩ := except_bind_ok rest
  cases returned
  obtain ⟨row, member, rfl⟩ := currentWork current
  have fields := Store.nextWork_ok revised
  have first := (claim claims).trans (save saves)
  have present : row ∈ saved.works.rows := by
    rw [save_works saves, claim_works claims]
    exact member
  have moved : work.status ≠ .pending := by
    rw [fields]
    exact WorkStatus.noConfusion
  have second := saveWork (first.named named) present (by rw [fields]; rfl) (by rw [fields]; rfl)
    moved stores
  exact first.trans second

theorem startAttempt (named : Named before) {authority : Authority} {projections : Projections}
    {stamp used : Stamp} {start : Store.AttemptStart} {work : WorkExecutionState}
    (started : before.startAttempt authority projections stamp used start = .ok (after, work)) :
    KeepsScopes before after := by
  obtain ⟨_, _, rest⟩ := except_bind_ok started
  obtain ⟨previous, current, rest⟩ := except_bind_ok rest
  obtain ⟨_, _, rest⟩ := except_bind_ok rest
  obtain ⟨_, _, rest⟩ := except_bind_ok rest
  obtain ⟨_, _, rest⟩ := except_bind_ok rest
  obtain ⟨_, rest⟩ := raiseIf_bind_ok.1 rest
  obtain ⟨prior, _, begins⟩ := except_bind_ok rest
  obtain ⟨transitioned, transitions, rest⟩ := except_bind_ok begins
  obtain ⟨next, revised, rest⟩ := except_bind_ok rest
  obtain ⟨_, _, rest⟩ := except_bind_ok rest
  obtain ⟨⟨claimed, _⟩, claims, rest⟩ := except_bind_ok rest
  obtain ⟨recorded, records, rest⟩ := except_bind_ok rest
  obtain ⟨saved, saves, rest⟩ := except_bind_ok rest
  obtain ⟨inserted, inserts, returned⟩ := except_bind_ok rest
  cases returned
  obtain ⟨row, member, rfl⟩ := currentWork current
  have fields := Store.nextWork_ok revised
  have first := ((save transitions).trans (claim claims)).trans (save records)
  have present : row ∈ recorded.works.rows := by
    rw [save_works records, claim_works claims, save_works transitions]
    exact member
  have moved : work.status ≠ .pending := by
    rw [fields]
    exact WorkStatus.noConfusion
  have second := saveWork (first.named named) present (by rw [fields]; rfl) (by rw [fields]; rfl)
    moved saves
  have third : KeepsScopes saved inserted := by
    obtain ⟨_, rest⟩ := raiseIf_bind_ok.1 inserts
    obtain ⟨attempts, _, returned⟩ := except_bind_ok rest
    cases returned
    exact of_same (.refl _) rfl rfl
  exact ((first.trans second).trans third).trans (leaseWork _ _ _)

end KeepsScopes

end Sastsimi.Storage
