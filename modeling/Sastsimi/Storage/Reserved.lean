import Sastsimi.Storage.BudgetRows

/-!
# Reservations on record

Every published reservation has a row that reserves the same action, in every state the budget's
calls reach, and these calls leave works, attempts and cancellations alone.
-/

namespace Sastsimi.Storage

open Lib Sastsimi.Runtime

variable [ContentHash] {before after : Store}

/-- Every published reservation has a row that reserves its action. -/
def Reserved (store : Store) : Prop :=
  ∀ ref reservation, store.resolve ref = .ok (.reservation reservation) →
    ∃ row, store.reservations.find reservation.reservationId = some row
      ∧ row.payload.actionRef = reservation.actionRef

/-- The tables of the budget's calls besides its own are the same. -/
structure Aside (before after : Store) : Prop where
  works : after.works = before.works
  attempts : after.attempts = before.attempts
  controls : after.controls = before.controls

omit [ContentHash] in
theorem Aside.refl (store : Store) : Aside store store := ⟨rfl, rfl, rfl⟩

omit [ContentHash] in
theorem Aside.trans {middle : Store} (first : Aside before middle) (second : Aside middle after) :
    Aside before after :=
  ⟨second.works.trans first.works, second.attempts.trans first.attempts,
    second.controls.trans first.controls⟩

/-! ## Single steps -/

theorem Reserved.same (reserved : Reserved before) (records : after.records = before.records)
    (kept : ∀ {reservationId row}, before.reservations.find reservationId = some row →
      ∃ later, after.reservations.find reservationId = some later
        ∧ later.payload.actionRef = row.payload.actionRef) : Reserved after := by
  intro ref reservation resolved
  rw [Store.resolve, records] at resolved
  obtain ⟨row, found, named⟩ := reserved ref reservation resolved
  obtain ⟨later, stored, same⟩ := kept found
  exact ⟨later, stored, same.trans named⟩

/-- A saved record that is no reservation declares none. -/
theorem Reserved.saved (reserved : Reserved before) {record : Record}
    (saved : before.save record = .ok after) (other : ∀ reservation, record ≠ .reservation reservation) :
    Reserved after := by
  obtain ⟨records, stored, returned⟩ := except_bind_ok saved
  cases returned
  intro ref reservation resolved
  rcases RecordStore.save_new stored resolved with old | new
  · exact reserved ref reservation old
  · exact absurd new.symm (other reservation)

/-- The revision that settles a row is on record with it. -/
theorem Reserved.finalized (reserved : Reserved before) (hold : RowsHold before)
    {row : ReservationRow} {current : BudgetReservation}
    (found : before.reservations.find row.reservationId = some row)
    (finalized : before.finalize row.payload current = .ok after) : Reserved after := by
  obtain ⟨_, valid, rest⟩ := except_bind_ok finalized
  obtain ⟨saved, stores, returned⟩ := except_bind_ok rest
  cases returned
  obtain ⟨records, stored, returned⟩ := except_bind_ok stores
  cases returned
  obtain ⟨_, _, identified, _, _, action, _⟩ := validateReservationRevision_ok valid
  have own := identified.trans (hold row (Table.find_eq_some.1 found).1).identified
  have located := hold.find_closed found valid
  intro ref reservation resolved
  rcases RecordStore.save_new stored resolved with old | new
  · obtain ⟨first, kept, named⟩ := reserved ref reservation old
    by_cases same : reservation.reservationId = row.reservationId
    · rw [same, found] at kept
      cases kept
      refine ⟨row.finalized current, ?_, action.trans named⟩
      rw [same]
      exact (located row.reservationId).trans (if_pos rfl)
    · exact ⟨first, (located _).trans (by rw [if_neg same]; exact kept), named⟩
  · cases new
    exact ⟨row.finalized current, (located _).trans (if_pos own), rfl⟩

omit [ContentHash] in
theorem Store.setClaim_find (store : Store) (reservationId other : String) (claimed : Bool) :
    (store.setClaim reservationId claimed).reservations.find other
      = (store.reservations.find other).map fun row =>
        if row.reservationId = reservationId then row.withClaim claimed else row := by
  rw [Store.setClaim, Table.find_update]
  simp

/-- A claim declares no reservation. -/
theorem Reserved.setClaim (reserved : Reserved before) (reservationId : String) (claimed : Bool) :
    Reserved (before.setClaim reservationId claimed) := by
  refine reserved.same rfl ?_
  intro other row found
  rw [Store.setClaim_find, found]
  refine ⟨_, rfl, ?_⟩
  beta_reduce
  split <;> rfl

/-! ## Calls -/

/-- What a call that may declare reservations does to the tables of this module. -/
structure Declares (before after : Store) : Prop where
  reserved : Reserved after
  aside : Aside before after
  dispatches : after.dispatches = before.dispatches

theorem Declares.refl (reserved : Reserved before) : Declares before before :=
  ⟨reserved, .refl _, rfl⟩

theorem Reserved.reserveNew (reserved : Reserved before) {evidence : TrustedEvidence}
    {reservation : BudgetReservation}
    (admitted : before.reserveNew evidence reservation = .ok after) :
    Declares before after := by
  obtain ⟨_, rest⟩ := raiseIf_bind_ok.1 admitted
  obtain ⟨workRecord, forWork, rest⟩ := except_bind_ok rest
  obtain ⟨actionRecord, forAction, rest⟩ := except_bind_ok rest
  obtain ⟨work, _, rest⟩ := except_bind_ok rest
  obtain ⟨action, isAction, rest⟩ := except_bind_ok rest
  obtain ⟨records, publishes, rest⟩ := except_bind_ok rest
  obtain ⟨_, _, rest⟩ := except_bind_ok rest
  obtain ⟨saved, saves, inserts⟩ := except_bind_ok rest
  obtain ⟨inserted, result⟩ := Store.insertReservation_ok inserts
  obtain ⟨shape, _, _⟩ := Store.save_ok saves
  obtain ⟨stored, saving, returned⟩ := except_bind_ok saves
  cases returned
  obtain rfl := Store.admittedAction_ok isAction
  refine ⟨?_, ?_, ?_⟩
  · intro ref other resolved
    rw [result] at resolved
    rcases RecordStore.save_new saving resolved with old | new
    · rcases RecordStore.publish_new publishes forAction old with first | published
      · obtain ⟨row, found, named⟩ := reserved ref other first
        refine ⟨row, ?_, named⟩
        rw [Table.find_insert inserted, if_neg]
        · exact found
        · intro same
          rw [same] at found
          exact absurd (found.symm.trans (Table.insert_eq_some.1 inserted).1) (by simp)
      · cases published
    · cases new
      exact ⟨_, (Table.find_insert inserted).trans (if_pos rfl), rfl⟩
  · rw [result]
    exact ⟨rfl, rfl, rfl⟩
  · rw [result]

theorem Reserved.reserve (reserved : Reserved before) {evidence : TrustedEvidence}
    {reservation answer : BudgetReservation}
    (returned : before.reserve evidence reservation = .ok (after, answer)) :
    Declares before after := by
  unfold Store.reserve at returned
  split at returned
  · obtain ⟨_, _, rest⟩ := except_bind_ok returned
    obtain ⟨_, rest⟩ := raiseIf_bind_ok.1 rest
    cases rest
    exact .refl reserved
  · obtain ⟨stored, admitted, rest⟩ := except_bind_ok returned
    cases rest
    exact reserved.reserveNew admitted

theorem Reserved.commitNew (reserved : Reserved before) (hold : RowsHold before) {stamp : Stamp}
    {reservationId : String} {entry : BudgetLedgerEntry}
    (committed : before.commitNew stamp reservationId entry = .ok after) :
    Declares before after := by
  obtain ⟨row, found, rest⟩ := except_bind_ok committed
  obtain ⟨_, rest⟩ := raiseIf_bind_ok.1 rest
  obtain ⟨_, rest⟩ := raiseIf_bind_ok.1 rest
  obtain ⟨_, rest⟩ := raiseIf_bind_ok.1 rest
  obtain ⟨_, _, rest⟩ := except_bind_ok rest
  obtain ⟨_, rest⟩ := raiseIf_bind_ok.1 rest
  obtain ⟨_, _, rest⟩ := except_bind_ok rest
  obtain ⟨saved, saves, rest⟩ := except_bind_ok rest
  obtain ⟨current, _, rest⟩ := except_bind_ok rest
  obtain ⟨closed, finalized, inserted⟩ := except_bind_ok rest
  obtain ⟨shape, grows, _⟩ := Store.save_ok saves
  obtain ⟨_, _, result⟩ := Store.finalize_ok finalized
  obtain ⟨_, last⟩ := Store.insertLedger_ok inserted
  have keyed := (Table.find_eq_some.1 (required_ok.1 found)).2
  have held : RowsHold saved := by
    intro other member
    rw [shape] at member
    exact (hold other member).grows (.of_records grows (by rw [shape]))
  have stored : saved.reservations.find row.reservationId = some row := by
    rw [shape, keyed]
    exact required_ok.1 found
  have first := reserved.saved saves fun _ => by simp
  have second := first.finalized held stored finalized
  refine ⟨second.same ?_ ?_, ?_, ?_⟩
  · rw [last]
  · intro other kept present
    rw [last]
    exact ⟨kept, present, rfl⟩
  · rw [last, result, shape]
    exact ⟨rfl, rfl, rfl⟩
  · rw [last, result, shape]

theorem Reserved.commitUsage (reserved : Reserved before) (hold : RowsHold before) {stamp : Stamp}
    {entry answer : BudgetLedgerEntry}
    (committed : before.commitUsage stamp entry = .ok (after, answer)) : Declares before after := by
  obtain ⟨initial, _, rest⟩ := except_bind_ok committed
  split at rest
  · split at rest
    · cases rest
      exact .refl reserved
    · cases rest
  · obtain ⟨stored, commits, returned⟩ := except_bind_ok rest
    cases returned
    exact reserved.commitNew hold commits

theorem Reserved.release (reserved : Reserved before) (hold : RowsHold before)
    {released answer : BudgetReservation}
    (returned : before.release released = .ok (after, answer)) : Declares before after := by
  obtain ⟨row, found, rest⟩ := except_bind_ok returned
  have stored := required_ok.1 found
  have keyed : before.reservations.find row.reservationId = some row :=
    (Table.find_eq_some.1 stored).2 ▸ stored
  unfold Store.releaseRow at rest
  split at rest
  · cases rest
    exact .refl reserved
  · obtain ⟨_, rest⟩ := raiseIf_bind_ok.1 rest
    obtain ⟨closed, finalized, answered⟩ := except_bind_ok rest
    cases answered
    obtain ⟨_, _, result⟩ := Store.finalize_ok finalized
    refine ⟨reserved.finalized hold keyed finalized, ?_, ?_⟩
    · rw [result]
      exact ⟨rfl, rfl, rfl⟩
    · rw [result]

theorem Reserved.claimPaid (reserved : Reserved before) {authority : Authority}
    {ref : Option RecordRef} {action : ActionRequest} {work : WorkExecutionState}
    {needsBudget : Bool}
    (claimed : before.claimPaid authority ref action work needsBudget = .ok after) :
    Declares before after := by
  unfold Store.claimPaid at claimed
  split at claimed
  · obtain ⟨reservation, _, returned⟩ := except_bind_ok claimed
    cases returned
    exact ⟨reserved.setClaim _ _, ⟨rfl, rfl, rfl⟩, rfl⟩
  · cases claimed
    exact .refl reserved

theorem Reserved.claim (reserved : Reserved before) {authority : Authority} {stamp : Stamp}
    {decisionRef : RecordRef} {kind : ActionType} {work : WorkExecutionState}
    {reservationRef : Option RecordRef} {needsBudget : Bool} {used : ActionDecision}
    (claimed : before.claim authority stamp decisionRef kind work reservationRef needsBudget
      = .ok (after, used)) : Declares before after := by
  obtain ⟨⟨decision, action⟩, _, rest⟩ := except_bind_ok claimed
  obtain ⟨saved, saves, rest⟩ := except_bind_ok rest
  obtain ⟨decided, inserts, rest⟩ := except_bind_ok rest
  obtain ⟨_, paid, returned⟩ := except_bind_ok rest
  cases returned
  obtain ⟨shape, _, _⟩ := Store.save_ok saves
  obtain ⟨_, result⟩ := Store.insertDecision_ok inserts
  have first := reserved.saved saves fun _ => by simp
  have second : Reserved decided := by
    refine first.same (by rw [result]) ?_
    intro other row found
    rw [result]
    exact ⟨row, found, rfl⟩
  obtain ⟨last, aside, dispatches⟩ := second.claimPaid paid
  refine ⟨last, .trans ?_ aside, dispatches.trans ?_⟩
  · rw [result, shape]
    exact ⟨rfl, rfl, rfl⟩
  · rw [result, shape]

theorem Reserved.retire (reserved : Reserved before) (hold : RowsHold before) {stamp : Stamp}
    {row : ReservationRow} {actionId : String}
    (found : before.reservations.find row.reservationId = some row)
    (retired : before.retire stamp row.payload actionId = .ok after) :
    Reserved after ∧ Aside before after := by
  obtain ⟨current, _, rest⟩ := except_bind_ok retired
  obtain ⟨closed, finalized, returned⟩ := except_bind_ok rest
  cases returned
  obtain ⟨_, _, result⟩ := Store.finalize_ok finalized
  have first := (reserved.finalized hold found finalized).setClaim row.payload.reservationId false
  refine ⟨first.same rfl fun present => ⟨_, present, rfl⟩, ?_⟩
  rw [result]
  exact ⟨rfl, rfl, rfl⟩

/-! ## Retirement -/

/-- A dispatch row is as it was, or its undispatched request is reconciled. -/
def SettledRow (row later : DispatchRow) : Prop :=
  later = row ∨ row.dispatchedAt = none ∧ ∃ now, later = row.reconciledBy now

/-- The dispatch rows are as they were, but undispatched ones may be reconciled. -/
def Settles (before after : Store) : Prop :=
  ∀ actionId, Option.Rel SettledRow (before.dispatches.find actionId)
    (after.dispatches.find actionId)

omit [ContentHash] in
theorem Settles.refl (store : Store) : Settles store store := by
  intro actionId
  cases store.dispatches.find actionId with
  | none => exact .none
  | some row => exact .some (.inl rfl)

omit [ContentHash] in
theorem Settles.trans {middle : Store} (first : Settles before middle)
    (second : Settles middle after) : Settles before after := by
  intro actionId
  have earlier := first actionId
  have later := second actionId
  revert earlier later
  generalize before.dispatches.find actionId = row
  generalize middle.dispatches.find actionId = between
  generalize after.dispatches.find actionId = last
  rintro (⟨⟨rfl⟩ | ⟨open_, now, rfl⟩⟩ | _) later
  · exact later
  · obtain ⟨⟨rfl⟩ | ⟨_, again, rfl⟩⟩ := later
    · exact .some (.inr ⟨open_, now, rfl⟩)
    · exact .some (.inr ⟨open_, again, rfl⟩)
  · exact later

/-- What a retirement does to the tables of this module. -/
structure Retires (before after : Store) : Prop where
  reserved : Reserved after
  aside : Aside before after
  settles : Settles before after

theorem Retires.turn {work : WorkExecutionState} {start store next : Store}
    {row : ReservationRow} {remaining : List ReservationRow} {stamps : String → Stamp}
    (retires : Retires start store) (retiring : Retiring work start store (row :: remaining))
    (turned : Store.retireTurn stamps work store row = .ok next) : Retires start next := by
  rcases Store.retireTurn_ok turned with rfl | ⟨action, _, _, absent, retired⟩
  · exact retires
  · have found := retiring.kept row List.mem_cons_self
    obtain ⟨reserved, aside⟩ := retires.reserved.retire retiring.hold found retired
    obtain ⟨_, _, dispatches⟩ := Store.retire_ok found retired
    refine ⟨reserved, retires.aside.trans aside, retires.settles.trans ?_⟩
    intro actionId
    rw [dispatches, Table.find_update]
    cases present : store.dispatches.find actionId with
    | none => exact .none
    | some dispatch =>
        refine .some ?_
        beta_reduce
        split
        · rename_i selected
          have own : dispatch.actionId = action.actionId := of_decide_eq_true selected
          rw [Store.undispatched, ← own, (Table.find_eq_some.1 present).2, present] at absent
          simp only [Option.all_some, Bool.and_eq_true, Option.isNone_iff_eq_none] at absent
          exact .inr ⟨absent.1, _, rfl⟩
        · exact .inl rfl

/-- A retirement settles dispatch rows and declares no reservation. -/
theorem Reserved.retireUndispatched (reserved : Reserved before) (hold : RowsHold before)
    {stamps : String → Stamp} {work : WorkExecutionState}
    (retired : before.retireUndispatched stamps work = .ok after) : Retires before after := by
  have turns : ∀ {remaining : List ReservationRow} {store : Store},
      (remaining.map ReservationRow.reservationId).Nodup → Retiring work before store remaining →
      Retires before store → remaining.foldlM (Store.retireTurn stamps work) store = .ok after →
      Retires before after := by
    intro remaining
    induction remaining with
    | nil =>
        intro store _ _ retires looped
        cases looped
        exact retires
    | cons row rest ih =>
        intro store distinct retiring retires looped
        obtain ⟨next, turned, continued⟩ := foldlM_cons_ok looped
        rw [List.map_cons, List.nodup_cons] at distinct
        exact ih distinct.2 (retiring.turn distinct.1 turned) (retires.turn retiring turned)
          continued
  exact turns (Table.filter_keys_nodup _ _) (.start hold) ⟨reserved, .refl _, .refl _⟩ retired

end Sastsimi.Storage
