import Sastsimi.Storage.Reserved
import Sastsimi.Storage.Works

/-!
# External requests

A request is paid for by one reservation, sent at most once by the active attempt of its work,
and never released after it was sent.  While its outcome is unknown its work sends nothing else
and starts no attempt.
-/

namespace Sastsimi.Storage

open Lib Sastsimi.Runtime

variable [ContentHash] {before after : Store}

/-! ## Transactions -/

/-- The update of a cancellation on a request it closed. -/
def Store.reconcileDispatch (store : Store) (now : Nat) (workId attemptId : String)
    (decisionRef : RecordRef) : Except PyError Store := do
  let selects := fun row : DispatchRow =>
    decide (row.workId = workId ∧ row.attemptId = attemptId ∧ row.decisionRef = decisionRef)
      && row.unresolved
  raiseIf (store.dispatches.count selects ≠ 1) (.valueError "CANCELLATION_DISPATCH_CAS_FAILED")
  .ok
    { store with
      dispatches := store.dispatches.update selects (fun row => row.reconciledBy now)
        (fun row => row.reconciledBy_actionId now) }

/-- A transaction of another service: it adds records other than reservations, continues runs,
changes works and ends attempts, and leaves requests and reservations alone. -/
structure Beside (before after : Store) : Prop where
  grows : Grows before after
  reservations : after.reservations = before.reservations
  ledger : after.ledger = before.ledger
  dispatches : after.dispatches = before.dispatches
  unreserved : ∀ {ref reservation}, after.resolve ref = .ok (.reservation reservation) →
    before.resolve ref = .ok (.reservation reservation)
  attempts : ∀ row ∈ after.attempts.rows, ∃ earlier ∈ before.attempts.rows,
    earlier.attemptId = row.attemptId ∧ earlier.workId = row.workId

/-- A call on the requests of an analysis, their reservations and the attempts that send them. -/
inductive DispatchCall where
  | claimExternal (authority : Authority) (stamp : Stamp) (workId : String)
      (decisionRef : RecordRef) (reservationRef : Option RecordRef)
  | markDispatched (authority : Authority) (now : Nat) (decisionRef : RecordRef)
      (providerRequestId idempotencyKey : Option String)
  | markReturned (now : Nat) (decisionRef : RecordRef)
  | reconcile (now : Nat) (workId attemptId : String) (decisionRef : RecordRef)
  | budget (call : BudgetCall)
  | startAttempt (authority : Authority) (projections : Projections) (stamp used : Stamp)
      (start : Store.AttemptStart)

/-- The body of a call. -/
def DispatchCall.run (store : Store) : DispatchCall → Except PyError Store
  | .claimExternal authority stamp workId decisionRef reservationRef => do
      let (after, _) ← store.claimExternal authority stamp workId decisionRef reservationRef
      .ok after
  | .markDispatched authority now decisionRef providerRequestId idempotencyKey =>
      store.markDispatched authority now decisionRef providerRequestId idempotencyKey
  | .markReturned now decisionRef => store.markReturned now decisionRef
  | .reconcile now workId attemptId decisionRef =>
      store.reconcileDispatch now workId attemptId decisionRef
  | .budget call => call.run store
  | .startAttempt authority projections stamp used start => do
      let (after, _) ← store.startAttempt authority projections stamp used start
      .ok after

/-- A transaction of an analysis.  A result commit, a recovery, a resumption or a cancellation is
a sequence of these: it changes works beside the requests, and may retire or reconcile some. -/
inductive DispatchEvent where
  | call (call : DispatchCall)
  | beside (change : Store → Store) (keeps : ∀ store, Beside store (change store))

/-- A transaction that raises is rolled back. -/
def dispatch (store : Store) : DispatchEvent → Store × Except PyError Unit
  | .call call =>
      match call.run store with
      | .ok after => (after, .ok ())
      | .error reason => (store, .error reason)
  | .beside change _ => (change store, .ok ())

/-- The store that transactions reach from an empty database. -/
def dispatched (events : List DispatchEvent) : Store := runCalls dispatch {} events

/-! ## Payment -/

/-- A reservation that pays for a request. -/
def Paying (row : ReservationRow) : Prop :=
  row.status = .reserved ∧ row.claimed = true ∨ row.status = .committed

/-- The reservation of a request, which pays for it unless the request was retired unsent. -/
structure PaidBy (store : Store) (request : DispatchRow) (payer : ReservationRow) : Prop where
  reserved : ∃ reservation action,
    store.resolve request.reservationRef = .ok (.reservation reservation)
      ∧ store.resolve reservation.actionRef = .ok (.action action)
      ∧ action.actionId = request.actionId
      ∧ payer.reservationId = reservation.reservationId
      ∧ payer.payload.actionRef = reservation.actionRef
  found : store.reservations.find payer.reservationId = some payer
  pays : Paying payer ∨ request.dispatchedAt = none ∧ payer.status = .released

/-- Every request has its reservation. -/
def Paid (store : Store) : Prop := ∀ row ∈ store.dispatches.rows, ∃ payer, PaidBy store row payer

omit [ContentHash] in
/-- Without a retirement a reservation that pays keeps paying. -/
theorem RowChange.paying {row later : ReservationRow} (change : RowChange false after row later)
    (opened : row.payload.status = row.status) (paying : Paying row) : Paying later := by
  cases change with
  | same unchanged => exact unchanged ▸ paying
  | claim open_ claimed =>
      subst claimed
      exact .inl ⟨open_, rfl⟩
  | release current valid _ unclaimed closed =>
      have reserved := (validateReservationRevision_ok valid).1
      rw [opened] at reserved
      rcases paying with ⟨_, claimed⟩ | committed
      · exact absurd (claimed.symm.trans unclaimed) (by decide)
      · exact absurd (reserved.symm.trans committed) (by decide)
  | commit current _ committed _ closed =>
      subst closed
      exact .inr committed
  | retire retires => cases retires

theorem Writes.paying (writes : Writes false before after) (hold : RowsHold before)
    {reservationId : String} {row : ReservationRow}
    (found : before.reservations.find reservationId = some row) :
    ∃ later, after.reservations.find reservationId = some later ∧ RowKeeps row later
      ∧ (Paying row → Paying later) := by
  induction writes with
  | refl => exact ⟨row, found, .refl row, id⟩
  | tail earlier written ih =>
      obtain ⟨between, stored, keeps, pays⟩ := ih
      have held := Writes.rowsHold earlier hold
      obtain ⟨later, last, change⟩ := written.write.find_of held stored
      have status := (held between (Table.find_eq_some.1 stored).1).status
      exact ⟨later, last, keeps.trans change.keeps, fun paying => change.paying status (pays paying)⟩

/-- A request stays paid for while its reservation keeps paying. -/
theorem PaidBy.kept {request later : DispatchRow} {payer paying : ReservationRow}
    (paid : PaidBy before request payer) (grows : Grows before after)
    (same : later.reservationRef = request.reservationRef ∧ later.actionId = request.actionId)
    (found : after.reservations.find paying.reservationId = some paying)
    (keeps : RowKeeps payer paying)
    (pays : Paying paying ∨ later.dispatchedAt = none ∧ paying.status = .released) :
    PaidBy after later paying := by
  obtain ⟨reservation, action, resolved, acted, named, identified, own⟩ := paid.reserved
  refine ⟨⟨reservation, action, ?_, grows.resolve acted, named.trans same.2.symm,
    keeps.reservationId.trans identified, keeps.actionRef.trans own⟩, found, pays⟩
  rw [same.1]
  exact grows.resolve resolved

/-! ## Requests -/

/-- How the row of a request may change in one transaction, which sends one request at most. -/
inductive RequestChange (before : Store) (request : String) (row later : DispatchRow) : Prop where
  | same (unchanged : later = row)
  | sent (own : row.actionId = request) (unsent : row.dispatchedAt = none)
      (active : before.activeAttempt row.workId = some row.attemptId)
      (quiet : before.uncertain row.workId = false) (now : Nat)
      (providerRequestId idempotencyKey : Option String)
      (dispatched : later = row.dispatchedBy now providerRequestId idempotencyKey)
  | returned (now : Nat) (result : later = row.returnedBy now)
  | reconciled (now : Nat) (result : later = row.reconciledBy now)

/-- How the row under a key may change in one transaction, which prepares one request at most. -/
inductive RequestStep (before : Store) (request : String) :
    Option DispatchRow → Option DispatchRow → Prop where
  | absent : RequestStep before request none none
  | prepared {row : DispatchRow} (own : row.actionId = request) (unsent : row.dispatchedAt = none)
      (fresh : ∀ other ∈ before.dispatches.rows, other.decisionRef ≠ row.decisionRef) :
      RequestStep before request none (some row)
  | changed {row later : DispatchRow} (change : RequestChange before request row later) :
      RequestStep before request (some row) (some later)

/-- The requests change as one transaction changes them. -/
def RequestsStep (before after : Store) : Prop :=
  ∃ request, ∀ actionId, RequestStep before request (before.dispatches.find actionId)
    (after.dispatches.find actionId)

omit [ContentHash] in
theorem RequestsStep.of_same (same : after.dispatches = before.dispatches) :
    RequestsStep before after := by
  refine ⟨"", ?_⟩
  intro actionId
  rw [same]
  cases before.dispatches.find actionId with
  | none => exact .absent
  | some row => exact .changed (.same rfl)

omit [ContentHash] in
theorem RequestsStep.of_settles (settles : Settles before after) : RequestsStep before after := by
  refine ⟨"", ?_⟩
  intro actionId
  have settled := settles actionId
  revert settled
  generalize before.dispatches.find actionId = row
  generalize after.dispatches.find actionId = later
  rintro (⟨⟨rfl⟩ | ⟨_, now, rfl⟩⟩ | _)
  · exact .changed (.same rfl)
  · exact .changed (.reconciled now rfl)
  · exact .absent

omit [ContentHash] in
/-- An update of some rows changes each of them. -/
theorem RequestsStep.of_update {selects : DispatchRow → Bool} {change : DispatchRow → DispatchRow}
    {keeps : ∀ row, (change row).actionId = row.actionId} (request : String)
    (updated : after.dispatches = before.dispatches.update selects change keeps)
    (changes : ∀ row ∈ before.dispatches.rows, selects row = true →
      RequestChange before request row (change row)) : RequestsStep before after := by
  refine ⟨request, ?_⟩
  intro actionId
  rw [updated, Table.find_update]
  cases found : before.dispatches.find actionId with
  | none => exact .absent
  | some row =>
      refine .changed ?_
      beta_reduce
      split
      · rename_i selected
        exact changes row (Table.find_eq_some.1 found).1 selected
      · exact .same rfl

/-- A decision authorizes one request at most. -/
def Decided (store : Store) : Prop :=
  ∀ left ∈ store.dispatches.rows, ∀ right ∈ store.dispatches.rows,
    left.decisionRef = right.decisionRef → left = right

/-- A work has one request of unknown outcome at most. -/
def Alone (store : Store) : Prop :=
  ∀ left ∈ store.dispatches.rows, ∀ right ∈ store.dispatches.rows, left.workId = right.workId →
    left.unresolved = true → right.unresolved = true → left = right

omit [ContentHash] in
/-- A change of a request keeps what identifies it. -/
theorem RequestChange.keeps {request : String} {row later : DispatchRow}
    (change : RequestChange before request row later) :
    later.actionId = row.actionId ∧ later.workId = row.workId ∧ later.attemptId = row.attemptId
      ∧ later.decisionRef = row.decisionRef ∧ later.reservationRef = row.reservationRef := by
  cases change with
  | same unchanged => subst unchanged; exact ⟨rfl, rfl, rfl, rfl, rfl⟩
  | sent _ _ _ _ _ _ _ dispatched => subst dispatched; exact ⟨rfl, rfl, rfl, rfl, rfl⟩
  | returned _ result | reconciled _ result => subst result; exact ⟨rfl, rfl, rfl, rfl, rfl⟩

omit [ContentHash] in
/-- A request that is sent stays sent. -/
theorem RequestChange.sent_once {request : String} {row later : DispatchRow}
    (change : RequestChange before request row later) {moment : Nat}
    (sent : row.dispatchedAt = some moment) : later.dispatchedAt = some moment := by
  cases change with
  | same unchanged => exact unchanged ▸ sent
  | sent _ unsent => exact absurd (sent.symm.trans unsent) (by simp)
  | returned _ result | reconciled _ result => subst result; exact sent

omit [ContentHash] in
/-- A request of unknown outcome was one before, or it is sent now. -/
theorem RequestChange.unresolved {request : String} {row later : DispatchRow}
    (change : RequestChange before request row later) (open_ : later.unresolved = true) :
    row.unresolved = true ∨ row.actionId = request ∧ before.uncertain row.workId = false := by
  cases change with
  | same unchanged => exact .inl (unchanged ▸ open_)
  | sent own _ _ quiet => exact .inr ⟨own, quiet⟩
  | returned _ result =>
      subst result
      simp [DispatchRow.unresolved, DispatchRow.returnedBy] at open_
  | reconciled _ result =>
      subst result
      simp [DispatchRow.unresolved, DispatchRow.reconciledBy] at open_

section Requests

variable {request : String}
  (steps : ∀ actionId, RequestStep before request (before.dispatches.find actionId)
    (after.dispatches.find actionId))

include steps

omit [ContentHash] in
/-- A row after a transaction is a changed row, or the prepared one. -/
theorem RequestStep.earlier {later : DispatchRow} (member : later ∈ after.dispatches.rows) :
    (∃ row ∈ before.dispatches.rows, RequestChange before request row later)
      ∨ later.actionId = request ∧ later.dispatchedAt = none
        ∧ ∀ other ∈ before.dispatches.rows, other.decisionRef ≠ later.decisionRef := by
  have stepped := steps later.actionId
  have found : after.dispatches.find later.actionId = some later :=
    Table.find_eq_some.2 ⟨member, rfl⟩
  rw [found] at stepped
  cases stored : before.dispatches.find later.actionId with
  | none =>
      rw [stored] at stepped
      cases stepped with
      | prepared own unsent fresh => exact .inr ⟨own, unsent, fresh⟩
  | some row =>
      rw [stored] at stepped
      cases stepped with
      | changed change => exact .inl ⟨row, (Table.find_eq_some.1 stored).1, change⟩

omit [ContentHash] in
theorem Decided.step (decided : Decided before) : Decided after := by
  intro left first right second same
  rcases RequestStep.earlier steps first with ⟨row, stored, change⟩ | ⟨own, _, fresh⟩
  · rcases RequestStep.earlier steps second with ⟨other, kept, changed⟩ | ⟨_, _, fresh⟩
    · obtain ⟨named, _, _, decision, _⟩ := change.keeps
      obtain ⟨others, _, _, decisions, _⟩ := changed.keeps
      obtain rfl := decided row stored other kept (by rw [← decision, ← decisions, same])
      exact Table.eq_of_key first second (named.trans others.symm)
    · exact absurd (change.keeps.2.2.2.1.symm.trans same) (fresh row stored)
  · rcases RequestStep.earlier steps second with ⟨other, kept, changed⟩ | ⟨owned, _⟩
    · exact absurd (changed.keeps.2.2.2.1.symm.trans same.symm) (fresh other kept)
    · exact Table.eq_of_key first second (own.trans owned.symm)

omit [ContentHash] in
theorem Alone.step (alone : Alone before) : Alone after := by
  have uncertain : ∀ row ∈ before.dispatches.rows, row.unresolved = true →
      before.uncertain row.workId = true := by
    intro row stored open_
    exact List.any_eq_true.2 ⟨row, stored, by simp [open_]⟩
  intro left first right second same leftOpen rightOpen
  apply Table.eq_of_key first second
  rcases RequestStep.earlier steps first with ⟨row, stored, change⟩ | ⟨_, unsent, _⟩
  · rcases RequestStep.earlier steps second with ⟨other, kept, changed⟩ | ⟨_, unsent, _⟩
    · obtain ⟨named, work, _⟩ := change.keeps
      obtain ⟨others, works, _⟩ := changed.keeps
      have shared : row.workId = other.workId := by rw [← work, ← works, same]
      rw [named, others]
      rcases change.unresolved leftOpen with old | ⟨own, quiet⟩
      · rcases changed.unresolved rightOpen with kept_open | ⟨_, quiet⟩
        · exact congrArg DispatchRow.actionId (alone row stored other kept shared old kept_open)
        · rw [← shared, uncertain row stored old] at quiet
          cases quiet
      · rcases changed.unresolved rightOpen with kept_open | ⟨owned, _⟩
        · rw [shared, uncertain other kept kept_open] at quiet
          cases quiet
        · exact own.trans owned.symm
    · simp [DispatchRow.unresolved, unsent] at rightOpen
  · simp [DispatchRow.unresolved, unsent] at leftOpen

end Requests

/-! ## What every call keeps -/

/-- What holds of the requests of every reached store. -/
structure DispatchInvariant (store : Store) : Prop where
  hold : RowsHold store
  reserved : Reserved store
  paid : Paid store
  decided : Decided store
  alone : Alone store

/-- The attempts after a transaction are earlier ones, or of works without uncertain requests. -/
def AttemptsStep (before after : Store) : Prop :=
  ∀ row ∈ after.attempts.rows,
    (∃ earlier ∈ before.attempts.rows, earlier.attemptId = row.attemptId
      ∧ earlier.workId = row.workId) ∨ before.uncertain row.workId = false

omit [ContentHash] in
theorem AttemptsStep.of_same (same : after.attempts = before.attempts) :
    AttemptsStep before after := by
  intro row member
  rw [same] at member
  exact .inl ⟨row, member, rfl, rfl⟩

/-- One transaction on a store of the invariant. -/
structure DispatchStep (before after : Store) : Prop where
  grows : Grows before after
  hold : RowsHold after
  reserved : Reserved after
  paid : Paid after
  requests : RequestsStep before after
  attempts : AttemptsStep before after

theorem DispatchStep.invariant (step : DispatchStep before after)
    (invariant : DispatchInvariant before) : DispatchInvariant after := by
  obtain ⟨request, steps⟩ := step.requests
  exact ⟨step.hold, step.reserved, step.paid, invariant.decided.step steps,
    invariant.alone.step steps⟩

theorem DispatchStep.refl (invariant : DispatchInvariant before) : DispatchStep before before :=
  ⟨.refl _, invariant.hold, invariant.reserved, invariant.paid, .of_same rfl, .of_same rfl⟩

section Calls

variable (invariant : DispatchInvariant before)

include invariant

/-- The requests stay paid for by writes that keep claims. -/
theorem DispatchInvariant.paid_writes (writes : Writes false before after)
    (same : after.dispatches = before.dispatches) : Paid after := by
  intro row member
  rw [same] at member
  obtain ⟨payer, paid⟩ := invariant.paid row member
  obtain ⟨later, stored, keeps, pays⟩ := writes.paying invariant.hold paid.found
  refine ⟨later, paid.kept writes.grows ⟨rfl, rfl⟩ (keeps.reservationId ▸ stored) keeps ?_⟩
  rcases paid.pays with paying | ⟨unsent, released⟩
  · exact .inl (pays paying)
  · have status := (invariant.hold payer (Table.find_eq_some.1 paid.found).1).status
    have settled : payer.payload.status ≠ .reserved := by
      rw [status, released]
      decide
    exact .inr ⟨unsent, (keeps.settled settled).2.trans released⟩

/-- A call of the budget that retires nothing. -/
theorem DispatchInvariant.declares (writes : Writes false before after)
    (declares : Declares before after) : DispatchStep before after :=
  ⟨writes.grows, writes.rowsHold invariant.hold, declares.reserved,
    invariant.paid_writes writes declares.dispatches, .of_same declares.dispatches,
    .of_same declares.aside.attempts⟩

/-- A retirement releases only the reservations of requests that were not sent. -/
theorem DispatchInvariant.retire {stamps : String → Stamp} {work : WorkExecutionState}
    (retired : before.retireUndispatched stamps work = .ok after) : DispatchStep before after := by
  have retiring := Store.retireUndispatched_ok invariant.hold retired
  have retires := invariant.reserved.retireUndispatched invariant.hold retired
  refine ⟨retiring.writes.grows, retiring.hold, retires.reserved, ?_,
    .of_settles retires.settles, .of_same retires.aside.attempts⟩
  intro later member
  have settled := retires.settles later.actionId
  rw [Table.find_eq_some.2 ⟨member, rfl⟩] at settled
  cases stored : before.dispatches.find later.actionId with
  | none =>
      rw [stored] at settled
      cases settled
  | some row =>
      rw [stored] at settled
      obtain ⟨change⟩ := settled
      have present := Table.find_eq_some.1 stored
      obtain ⟨payer, paid⟩ := invariant.paid row present.1
      obtain ⟨paying, kept, keeps⟩ := retiring.writes.find_of invariant.hold paid.found
      obtain ⟨settledRow, located, cause⟩ := retiring.settled paid.found
      rw [kept] at located
      cases located
      have same : later.reservationRef = row.reservationRef ∧ later.actionId = row.actionId := by
        rcases change with rfl | ⟨_, now, rfl⟩ <;> exact ⟨rfl, rfl⟩
      have dispatchedAt : later.dispatchedAt = row.dispatchedAt := by
        rcases change with rfl | ⟨_, now, rfl⟩ <;> rfl
      refine ⟨paying, paid.kept retiring.writes.grows same (keeps.reservationId ▸ kept) keeps ?_⟩
      rw [dispatchedAt]
      rcases cause with rfl | ⟨⟨action, acted, _, absent⟩, _, released, _⟩
      · exact paid.pays
      · refine .inr ⟨?_, released⟩
        obtain ⟨reservation, own, _, ownActed, named, _, actionRef⟩ := paid.reserved
        rw [actionRef] at acted
        have sameAction := RecordStore.resolve_unique ownActed acted
        cases sameAction
        rw [Store.undispatched, named, present.2, stored] at absent
        simp only [Option.all_some, Bool.and_eq_true, Option.isNone_iff_eq_none] at absent
        exact absent.1

theorem DispatchInvariant.budget {call : BudgetCall} (ran : call.run before = .ok after) :
    DispatchStep before after := by
  cases call with
  | reserve evidence reservation =>
      obtain ⟨_, returned, rest⟩ := except_bind_ok ran
      cases rest
      exact invariant.declares (Store.reserve_writes returned) (invariant.reserved.reserve returned)
  | claim authority stamp decisionRef kind work reservationRef needsBudget =>
      obtain ⟨_, returned, rest⟩ := except_bind_ok ran
      cases rest
      exact invariant.declares (Store.claim_writes returned) (invariant.reserved.claim returned)
  | commitUsage stamp entry =>
      obtain ⟨_, returned, rest⟩ := except_bind_ok ran
      cases rest
      exact invariant.declares (Store.commitUsage_writes returned)
        (invariant.reserved.commitUsage invariant.hold returned)
  | release released =>
      obtain ⟨_, returned, rest⟩ := except_bind_ok ran
      cases rest
      exact invariant.declares (Store.release_writes returned)
        (invariant.reserved.release invariant.hold returned)
  | retireUndispatched stamps work => exact invariant.retire ran

end Calls

/-! ## Single calls -/

theorem Store.exactDecision_ok {ref : RecordRef} {message : String} {decision : ActionDecision}
    (resolved : before.exactDecision ref message = .ok decision) :
    before.resolve ref = .ok (.decision decision) := by
  obtain ⟨record, found, rest⟩ := except_bind_ok resolved
  split at rest
  · cases rest
    exact found
  · cases rest

theorem Store.exactAction_ok {ref : RecordRef} {message : String} {action : ActionRequest}
    (resolved : before.exactAction ref message = .ok action) :
    before.resolve ref = .ok (.action action) := by
  obtain ⟨record, found, rest⟩ := except_bind_ok resolved
  split at rest
  · cases rest
    exact found
  · cases rest

/-- A checked decision and its action are on record. -/
theorem Store.check_ok {authority : Authority} {now : Nat} {decisionRef : RecordRef}
    {kind : ActionType} {work : WorkExecutionState} {reservationRef : Option RecordRef}
    {needsBudget : Bool} {decision : ActionDecision} {action : ActionRequest}
    (checked : before.check authority now decisionRef kind work reservationRef needsBudget
      = .ok (decision, action)) :
    before.resolve decisionRef = .ok (.decision decision)
      ∧ before.resolve decision.actionRef = .ok (.action action) ∧ action.actionType = kind := by
  obtain ⟨_, rest⟩ := raiseIf_bind_ok.1 checked
  obtain ⟨found, decides, rest⟩ := except_bind_ok rest
  obtain ⟨own, acts, rest⟩ := except_bind_ok rest
  obtain ⟨typed, rest⟩ := raiseIf_bind_ok.1 rest
  obtain ⟨_, _, rest⟩ := except_bind_ok rest
  obtain ⟨_, rest⟩ := raiseIf_bind_ok.1 rest
  obtain ⟨_, rest⟩ := raiseIf_bind_ok.1 rest
  obtain ⟨_, rest⟩ := raiseIf_bind_ok.1 rest
  obtain ⟨_, rest⟩ := raiseIf_bind_ok.1 rest
  obtain ⟨_, rest⟩ := raiseIf_bind_ok.1 rest
  obtain ⟨_, _, returned⟩ := except_bind_ok rest
  cases returned
  exact ⟨Store.exactDecision_ok decides, Store.exactAction_ok acts, not_not.1 typed⟩

/-- What a paid claim says of the reservation that pays. -/
theorem Store.claim_pays {authority : Authority} {stamp : Stamp} {decisionRef : RecordRef}
    {kind : ActionType} {work : WorkExecutionState} {reservationRef : Option RecordRef}
    {used : ActionDecision}
    (claimed : before.claim authority stamp decisionRef kind work reservationRef true
      = .ok (after, used)) :
    ∃ decision action exactRef reservation payer,
      before.resolve decisionRef = .ok (.decision decision)
        ∧ before.resolve decision.actionRef = .ok (.action action)
        ∧ reservationRef = some exactRef
        ∧ after.resolve exactRef = .ok (.reservation reservation)
        ∧ reservation.actionRef = reference (.action action)
        ∧ after.reservations.find reservation.reservationId = some payer ∧ Paying payer := by
  obtain ⟨⟨decision, action⟩, checked, rest⟩ := except_bind_ok claimed
  obtain ⟨saved, saves, rest⟩ := except_bind_ok rest
  obtain ⟨decided, inserts, rest⟩ := except_bind_ok rest
  obtain ⟨_, paid, returned⟩ := except_bind_ok rest
  cases returned
  obtain ⟨decides, acts, _⟩ := Store.check_ok checked
  rw [Store.claimPaid, if_pos rfl] at paid
  obtain ⟨reservation, reserved, returned⟩ := except_bind_ok paid
  cases returned
  obtain ⟨⟨exactRef, given, resolved⟩, ⟨row, found, opened, _⟩, named, _⟩ :=
    Store.checkReservation_ok reserved
  have own := (Table.find_eq_some.1 found).2
  refine ⟨decision, action, exactRef, reservation, row.withClaim true, decides, acts, given,
    resolved, named, ?_, .inl ⟨opened, rfl⟩⟩
  rw [Store.setClaim_find, found, Option.map_some, if_pos own]

/-- The rows of the reservations hold while the records grow. -/
theorem RowsHold.grows (hold : RowsHold before) (grows : Grows before after)
    (same : after.reservations = before.reservations) : RowsHold after := by
  intro row member
  rw [same] at member
  exact (hold row member).grows grows

/-- A request is paid for in a store with the same reservations. -/
theorem PaidBy.same {row : DispatchRow} {payer : ReservationRow} (paid : PaidBy before row payer)
    (grows : Grows before after) (same : after.reservations = before.reservations) :
    PaidBy after row payer :=
  paid.kept grows ⟨rfl, rfl⟩ (by rw [same]; exact paid.found) (.refl _) paid.pays

section Calls

variable (invariant : DispatchInvariant before)

include invariant

/-- A claimed request is paid for, and its decision has no other request. -/
theorem DispatchInvariant.claimExternal {authority : Authority} {stamp : Stamp} {workId : String}
    {decisionRef : RecordRef} {reservationRef : Option RecordRef} {answer : RecordRef}
    (claims : before.claimExternal authority stamp workId decisionRef reservationRef
      = .ok (after, answer)) : DispatchStep before after := by
  obtain ⟨_, rest⟩ := raiseIf_bind_ok.1 claims
  obtain ⟨work, _, rest⟩ := except_bind_ok rest
  obtain ⟨_, _, rest⟩ := except_bind_ok rest
  obtain ⟨_, rest⟩ := raiseIf_bind_ok.1 rest
  obtain ⟨decision, decides, rest⟩ := except_bind_ok rest
  obtain ⟨record, acts, rest⟩ := except_bind_ok rest
  split at rest
  · obtain ⟨_, _, returned⟩ := except_bind_ok rest
    cases returned
    exact .refl invariant
  · rename_i absent
    obtain ⟨action, external, rest⟩ := except_bind_ok rest
    obtain ⟨⟨claimed, used⟩, claiming, rest⟩ := except_bind_ok rest
    obtain ⟨paidBy, given, rest⟩ := except_bind_ok rest
    obtain ⟨dispatches, inserted, returned⟩ := except_bind_ok rest
    cases returned
    have isAction : record = .action action := by
      unfold externalAction at external
      split at external
      · split at external
        · cases external
          rfl
        · cases external
      · cases external
    subst isAction
    have step := invariant.declares (Store.claim_writes claiming) (invariant.reserved.claim claiming)
    have same := (invariant.reserved.claim claiming).dispatches
    obtain ⟨decided, acted, exactRef, reservation, payer, decidesAgain, actsAgain, named, resolved,
      forAction, found, paying⟩ := Store.claim_pays claiming
    have sameDecision := RecordStore.resolve_unique (Store.exactDecision_ok decides) decidesAgain
    cases sameDecision
    have sameAction := RecordStore.resolve_unique acts actsAgain
    cases sameAction
    have sameRef : paidBy = exactRef := Option.some.inj ((required_ok.1 given).symm.trans named)
    subst sameRef
    have stored := required_ok.1 inserted
    have located := fun actionId => @Table.find_insert _ _ _ _ _ _ _ actionId stored
    have aside : Grows claimed { claimed with dispatches } := .of_same rfl rfl
    refine
      { grows := step.grows.trans aside
        hold := step.hold.grows aside rfl
        reserved := step.reserved.same rfl fun present => ⟨_, present, rfl⟩
        paid := ?_
        requests := ⟨action.actionId, ?_⟩
        attempts := .of_same (invariant.reserved.claim claiming).aside.attempts }
    · intro row member
      have inserted := (Table.insert_eq_some.1 stored).2
      rw [inserted, List.mem_append, List.mem_singleton] at member
      rcases member with old | new
      · obtain ⟨owner, paid⟩ := step.paid row old
        exact ⟨owner, paid.same aside rfl⟩
      · subst new
        obtain ⟨payerRow, present, declared⟩ := step.reserved paidBy reservation resolved
        rw [found] at present
        cases present
        have own := (Table.find_eq_some.1 found).2
        refine ⟨payer, ⟨reservation, action, resolved, ?_, rfl, own, declared⟩,
          own ▸ found, .inl paying⟩
        rw [forAction]
        have published := step.grows.resolve actsAgain
        exact (RecordStore.resolve_ok.1 published).2.1 ▸ published
    · intro actionId
      rw [located, same]
      split
      · rename_i own
        have free := (Table.insert_eq_some.1 stored).1
        rw [same] at free
        rw [own, free]
        refine .prepared rfl rfl ?_
        intro other kept taken
        have listed : other ∈ before.dispatchesOf decisionRef :=
          List.mem_filter.2 ⟨kept, decide_eq_true taken⟩
        rw [absent] at listed
        cases listed
      · cases before.dispatches.find actionId with
        | none => exact .absent
        | some row => exact .changed (.same rfl)

/-- An update of some requests, each of which is paid for when it was sent. -/
theorem DispatchInvariant.update {selects : DispatchRow → Bool}
    {change : DispatchRow → DispatchRow} {keeps : ∀ row, (change row).actionId = row.actionId}
    (request : String)
    (updated : after = { before with dispatches := before.dispatches.update selects change keeps })
    (changes : ∀ row ∈ before.dispatches.rows, selects row = true →
      RequestChange before request row (change row))
    (pays : ∀ row ∈ before.dispatches.rows, selects row = true → ∀ payer, PaidBy before row payer →
      row.dispatchedAt = none → (change row).dispatchedAt ≠ none → Paying payer) :
    DispatchStep before after := by
  have grows : Grows before after := by
    rw [updated]
    exact .of_same rfl rfl
  have reservations : after.reservations = before.reservations := by rw [updated]
  have dispatches : after.dispatches = before.dispatches.update selects change keeps := by
    rw [updated]
  refine
    { grows := grows
      hold := invariant.hold.grows grows reservations
      reserved := invariant.reserved.same (by rw [updated]) fun present => ⟨_, ?_, rfl⟩
      paid := ?_
      requests := .of_update request dispatches changes
      attempts := .of_same (by rw [updated]) }
  · rw [reservations]
    exact present
  · intro later member
    rw [dispatches] at member
    obtain ⟨row, stored, rfl⟩ := List.mem_map.1 member
    obtain ⟨payer, paid⟩ := invariant.paid row stored
    have found : after.reservations.find payer.reservationId = some payer := by
      rw [reservations]
      exact paid.found
    refine ⟨payer, ?_⟩
    split
    · rename_i selected
      obtain ⟨named, _, _, _, reserved⟩ := (changes row stored selected).keeps
      refine paid.kept grows ⟨reserved, named⟩ found (.refl _) ?_
      rcases paid.pays with paying | ⟨unsent, released⟩
      · exact .inl paying
      · by_cases sent : (change row).dispatchedAt = none
        · exact .inr ⟨sent, released⟩
        · exact .inl (pays row stored selected payer paid unsent sent)
    · exact paid.kept grows ⟨rfl, rfl⟩ found (.refl _) paid.pays

/-- A request is sent by the active attempt of a work without uncertain requests, and its
reservation still pays for it. -/
theorem DispatchInvariant.markDispatched {authority : Authority} {now : Nat}
    {decisionRef : RecordRef} {providerRequestId idempotencyKey : Option String}
    (marked : before.markDispatched authority now decisionRef providerRequestId idempotencyKey
      = .ok after) : DispatchStep before after := by
  obtain ⟨row, one, rest⟩ := except_bind_ok marked
  obtain ⟨decision, _, rest⟩ := except_bind_ok rest
  obtain ⟨_, rest⟩ := raiseIf_bind_ok.1 rest
  obtain ⟨action, _, rest⟩ := except_bind_ok rest
  obtain ⟨work, _, rest⟩ := except_bind_ok rest
  obtain ⟨_, _, rest⟩ := except_bind_ok rest
  obtain ⟨reservation, checked, rest⟩ := except_bind_ok rest
  obtain ⟨_, quiet, rest⟩ := except_bind_ok rest
  obtain ⟨active, rest⟩ := raiseIf_bind_ok.1 rest
  obtain ⟨_, returned⟩ := raiseIf_bind_ok.1 rest
  cases returned
  have stored : row ∈ before.dispatches.rows := by
    unfold Store.oneDispatch at one
    split at one
    · rename_i only
      cases one
      have listed : row ∈ before.dispatchesOf decisionRef := by rw [only]; exact List.mem_singleton.2 rfl
      exact (List.mem_filter.1 listed).1
    · cases one
  have own : ∀ other ∈ before.dispatches.rows,
      (decide (other.actionId = row.actionId) && other.dispatchedAt.isNone) = true →
      other = row ∧ other.dispatchedAt = none := by
    intro other member selected
    simp only [Bool.and_eq_true, decide_eq_true_eq, Option.isNone_iff_eq_none] at selected
    exact ⟨Table.eq_of_key member stored selected.1, selected.2⟩
  refine invariant.update row.actionId rfl ?_ ?_
  · intro other member selected
    obtain ⟨rfl, unsent⟩ := own other member selected
    have silent : before.uncertain other.workId = false := by
      simpa [Store.rejectUncertain] using quiet
    exact .sent rfl unsent (not_not.1 active) silent now providerRequestId idempotencyKey rfl
  · intro other member selected payer paid _ _
    obtain ⟨rfl, unsent⟩ := own other member selected
    obtain ⟨⟨exactRef, given, resolved⟩, ⟨open_, found, opened, _⟩, _⟩ :=
      Store.checkReservation_ok checked
    cases given
    obtain ⟨named, _, again, _, _, identified, _⟩ := paid.reserved
    have same := RecordStore.resolve_unique again resolved
    cases same
    have located := paid.found
    rw [identified, found] at located
    cases located
    rcases paid.pays with paying | ⟨_, released⟩
    · exact paying
    · exact absurd (opened.symm.trans released) (by decide)

/-- A request that returned was sent. -/
theorem DispatchInvariant.markReturned {now : Nat} {decisionRef : RecordRef}
    (marked : before.markReturned now decisionRef = .ok after) : DispatchStep before after := by
  obtain ⟨_, returned⟩ := raiseIf_bind_ok.1 marked
  cases returned
  refine invariant.update "" rfl (fun _ _ _ => .returned now rfl) ?_
  intro row _ selected _ _ unsent
  simp [unsent] at selected

/-- A reconciled request was sent. -/
theorem DispatchInvariant.reconcile {now : Nat} {workId attemptId : String}
    {decisionRef : RecordRef}
    (reconciled : before.reconcileDispatch now workId attemptId decisionRef = .ok after) :
    DispatchStep before after := by
  obtain ⟨_, returned⟩ := raiseIf_bind_ok.1 reconciled
  cases returned
  refine invariant.update "" rfl (fun _ _ _ => .reconciled now rfl) ?_
  intro row _ selected _ _ unsent
  simp [DispatchRow.unresolved, unsent] at selected

/-- Other services leave requests and reservations alone. -/
theorem DispatchInvariant.beside (beside : Beside before after) : DispatchStep before after := by
  refine
    { grows := beside.grows
      hold := invariant.hold.grows beside.grows beside.reservations
      reserved := ?_
      paid := ?_
      requests := .of_same beside.dispatches
      attempts := fun row member => .inl (beside.attempts row member) }
  · intro ref reservation resolved
    rw [beside.reservations]
    exact invariant.reserved ref reservation (beside.unreserved resolved)
  · intro row member
    rw [beside.dispatches] at member
    obtain ⟨payer, paid⟩ := invariant.paid row member
    exact ⟨payer, paid.same beside.grows beside.reservations⟩

end Calls

/-! ## Starts of attempts -/

/-- A part of a transaction that leaves requests and attempts alone. -/
structure Silent (before after : Store) : Prop where
  invariant : DispatchInvariant after
  grows : Grows before after
  dispatches : after.dispatches = before.dispatches
  attempts : after.attempts = before.attempts

theorem Silent.trans {middle : Store} (first : Silent before middle)
    (second : Silent middle after) : Silent before after :=
  ⟨second.invariant, first.grows.trans second.grows, second.dispatches.trans first.dispatches,
    second.attempts.trans first.attempts⟩

section Silent

variable (invariant : DispatchInvariant before)

include invariant

/-- A change of works and pointers is silent. -/
theorem DispatchInvariant.silent (grows : Grows before after)
    (unreserved : ∀ {ref reservation}, after.resolve ref = .ok (.reservation reservation) →
      before.resolve ref = .ok (.reservation reservation))
    (reservations : after.reservations = before.reservations)
    (ledger : after.ledger = before.ledger) (dispatches : after.dispatches = before.dispatches)
    (attempts : after.attempts = before.attempts) : Silent before after := by
  have beside : Beside before after :=
    { grows, reservations, ledger, dispatches, unreserved
      attempts := fun row member => ⟨row, attempts ▸ member, rfl, rfl⟩ }
  exact ⟨(invariant.beside beside).invariant invariant, grows, dispatches, attempts⟩

theorem DispatchInvariant.silent_save {record : Record} (saved : before.save record = .ok after)
    (other : ∀ reservation, record ≠ .reservation reservation) : Silent before after := by
  obtain ⟨shape, grows, _⟩ := Store.save_ok saved
  obtain ⟨records, stored, returned⟩ := except_bind_ok saved
  cases returned
  refine invariant.silent (.of_records grows rfl) ?_ rfl rfl rfl rfl
  intro ref reservation resolved
  rcases RecordStore.save_new stored resolved with old | new
  · exact old
  · exact absurd new.symm (other reservation)

theorem DispatchInvariant.silent_claim {authority : Authority} {stamp : Stamp}
    {decisionRef : RecordRef} {kind : ActionType} {work : WorkExecutionState}
    {reservationRef : Option RecordRef} {needsBudget : Bool} {used : ActionDecision}
    (claimed : before.claim authority stamp decisionRef kind work reservationRef needsBudget
      = .ok (after, used)) : Silent before after := by
  have declares := invariant.reserved.claim claimed
  have step := invariant.declares (Store.claim_writes claimed) declares
  exact ⟨step.invariant invariant, step.grows, declares.dispatches, declares.aside.attempts⟩

/-- A saved work changes no request. -/
theorem DispatchInvariant.silent_saveWork {projections : Projections}
    {previous work : WorkExecutionState}
    (saved : before.saveWork projections previous work = .ok after) : Silent before after := by
  obtain ⟨recorded, saves, rest⟩ := except_bind_ok saved
  obtain ⟨moved, moves, rest⟩ := except_bind_ok rest
  obtain ⟨pointed, points, advanced⟩ := except_bind_ok rest
  have first := invariant.silent_save saves fun _ => by simp
  have second : Silent recorded moved := by
    obtain ⟨_, returned⟩ := raiseIf_bind_ok.1 moves
    cases returned
    exact first.invariant.silent (.of_same rfl rfl) id rfl rfl rfl rfl
  have third : Silent moved pointed := by
    rw [Store.point_ok points]
    exact second.invariant.silent (.of_same rfl rfl) id rfl rfl rfl rfl
  have projected := projections.keeps advanced
  have last : Silent pointed after := by
    have frame := projected.frame
    refine third.invariant.silent (.of_records projected.records ?_) projected.unreserved
      ?_ ?_ ?_ ?_ <;> rw [frame]
  exact ((first.trans second).trans third).trans last

/-- An attempt starts only for a work without uncertain requests. -/
theorem DispatchInvariant.startAttempt {authority : Authority} {projections : Projections}
    {stamp used : Stamp} {start : Store.AttemptStart} {work : WorkExecutionState}
    (started : before.startAttempt authority projections stamp used start = .ok (after, work)) :
    DispatchStep before after := by
  obtain ⟨_, _, rest⟩ := except_bind_ok started
  obtain ⟨previous, _, rest⟩ := except_bind_ok rest
  obtain ⟨_, _, rest⟩ := except_bind_ok rest
  obtain ⟨_, quiet, rest⟩ := except_bind_ok rest
  obtain ⟨_, _, rest⟩ := except_bind_ok rest
  obtain ⟨_, rest⟩ := raiseIf_bind_ok.1 rest
  obtain ⟨prior, _, begins⟩ := except_bind_ok rest
  obtain ⟨transitioned, transitions, rest⟩ := except_bind_ok begins
  obtain ⟨next, validated, rest⟩ := except_bind_ok rest
  obtain ⟨_, context, rest⟩ := except_bind_ok rest
  obtain ⟨⟨claimed, _⟩, claims, rest⟩ := except_bind_ok rest
  obtain ⟨recorded, records, rest⟩ := except_bind_ok rest
  obtain ⟨saved, saves, rest⟩ := except_bind_ok rest
  obtain ⟨inserted, inserts, returned⟩ := except_bind_ok rest
  cases returned
  have first := invariant.silent_save transitions fun _ => by simp
  have second := first.invariant.silent_claim claims
  have third := second.invariant.silent_save records fun _ => by simp
  have fourth := third.invariant.silent_saveWork saves
  have silent := ((first.trans second).trans third).trans fourth
  obtain ⟨_, rest⟩ := raiseIf_bind_ok.1 inserts
  obtain ⟨attempts, stored, returned⟩ := except_bind_ok rest
  cases returned
  have last : Grows saved (Store.leaseWork { saved with attempts } work.workId start.workerId
      start.leaseExpiresAt) := .of_same rfl rfl
  refine
    { grows := silent.grows.trans last
      hold := silent.invariant.hold.grows last rfl
      reserved := silent.invariant.reserved.same rfl fun present => ⟨_, present, rfl⟩
      paid := ?_
      requests := .of_same silent.dispatches
      attempts := ?_ }
  · intro row member
    obtain ⟨payer, paid⟩ := silent.invariant.paid row member
    exact ⟨payer, paid.same last rfl⟩
  · intro row member
    have listed : row ∈ attempts.rows := member
    rw [(Table.insert_eq_some.1 (required_ok.1 stored)).2, List.mem_append,
      List.mem_singleton] at listed
    rcases listed with old | new
    · rw [silent.attempts] at old
      exact .inl ⟨row, old, rfl, rfl⟩
    · right
      obtain ⟨mismatch, _⟩ := raiseIf_bind_ok.1 context
      push Not at mismatch
      have named : work.workId = previous.workId := by
        rw [Store.nextWork_ok validated]
        rfl
      have own : row.workId = previous.workId := by
        rw [new]
        exact mismatch.1.trans named
      simpa [Store.rejectUncertain, own] using quiet

end Silent

/-! ## Runs -/

/-- Every transaction is a step. -/
theorem DispatchInvariant.step (invariant : DispatchInvariant before) (event : DispatchEvent) :
    DispatchStep before (dispatch before event).1 := by
  cases event with
  | beside change keeps => exact invariant.beside (keeps before)
  | call call =>
      rw [dispatch]
      split
      · rename_i ran
        cases call with
        | claimExternal authority stamp workId decisionRef reservationRef =>
            obtain ⟨_, claimed, returned⟩ := except_bind_ok ran
            cases returned
            exact invariant.claimExternal claimed
        | markDispatched authority now decisionRef providerRequestId idempotencyKey =>
            exact invariant.markDispatched ran
        | markReturned now decisionRef => exact invariant.markReturned ran
        | reconcile now workId attemptId decisionRef => exact invariant.reconcile ran
        | budget call => exact invariant.budget ran
        | startAttempt authority projections stamp used start =>
            obtain ⟨_, started, returned⟩ := except_bind_ok ran
            cases returned
            exact invariant.startAttempt started
      · exact .refl invariant

theorem runCalls_dispatch (events : List DispatchEvent) (invariant : DispatchInvariant before) :
    DispatchInvariant (runCalls dispatch before events) := by
  apply runCalls_keeps
  · exact fun _ event kept => (kept.step event).invariant kept
  · exact invariant

/-- The invariant holds of every reached store. -/
theorem dispatched_invariant (events : List DispatchEvent) :
    DispatchInvariant (dispatched events) := by
  apply runCalls_dispatch
  refine ⟨fun _ member => ?_, ?_, fun _ member => ?_, fun _ member => ?_, fun _ member => ?_⟩
  · cases member
  · intro ref reservation resolved
    have stored := (RecordStore.resolve_ok.1 resolved).1
    cases stored
  · cases member
  · cases member
  · cases member

/-- The row of a request that was sent keeps what it says of the sending. -/
theorem runCalls_sent (events : List DispatchEvent) (invariant : DispatchInvariant before)
    {actionId : String} {row : DispatchRow} {moment : Nat}
    (found : before.dispatches.find actionId = some row)
    (sent : row.dispatchedAt = some moment) :
    ∃ later, (runCalls dispatch before events).dispatches.find actionId = some later
      ∧ later.dispatchedAt = some moment ∧ later.attemptId = row.attemptId
      ∧ later.decisionRef = row.decisionRef ∧ later.reservationRef = row.reservationRef := by
  induction events generalizing before row with
  | nil => exact ⟨row, found, sent, rfl, rfl, rfl⟩
  | cons event rest ih =>
      have step := invariant.step event
      obtain ⟨request, steps⟩ := step.requests
      have stepped := steps actionId
      rw [found] at stepped
      cases located : (dispatch before event).1.dispatches.find actionId with
      | none =>
          rw [located] at stepped
          cases stepped
      | some next =>
          rw [located] at stepped
          cases stepped with
          | changed change =>
              obtain ⟨_, _, attempt, decision, reservation⟩ := change.keeps
              obtain ⟨later, last, kept, attempts, decisions, reservations⟩ :=
                ih (step.invariant invariant) located (change.sent_once sent)
              exact ⟨later, last, kept, attempts.trans attempt, decisions.trans decision,
                reservations.trans reservation⟩

/-- What holds of the external requests in a reached store, and of every transaction on it. -/
structure RequestsKept (events : List DispatchEvent) : Prop where
  /-- A request that was sent is paid for. -/
  paid : ∀ row ∈ (dispatched events).dispatches.rows, row.dispatchedAt ≠ none →
    ∃ reservation payer,
      (dispatched events).resolve row.reservationRef = .ok (.reservation reservation)
        ∧ (dispatched events).reservations.find reservation.reservationId = some payer
        ∧ (payer.status = .reserved ∧ payer.claimed = true ∨ payer.status = .committed)
  /-- A decision belongs to one request. -/
  decisions : ∀ left ∈ (dispatched events).dispatches.rows,
    ∀ right ∈ (dispatched events).dispatches.rows, left.decisionRef = right.decisionRef →
    left = right
  /-- A reservation belongs to one request. -/
  reservations : ∀ left ∈ (dispatched events).dispatches.rows,
    ∀ right ∈ (dispatched events).dispatches.rows, ∀ first second,
    (dispatched events).resolve left.reservationRef = .ok (.reservation first) →
    (dispatched events).resolve right.reservationRef = .ok (.reservation second) →
    first.reservationId = second.reservationId → left = right
  /-- A request that was sent is not sent again. -/
  once : ∀ more actionId row moment,
    (dispatched events).dispatches.find actionId = some row → row.dispatchedAt = some moment →
    ∃ later, (dispatched (events ++ more)).dispatches.find actionId = some later
      ∧ later.dispatchedAt = some moment ∧ later.attemptId = row.attemptId
      ∧ later.decisionRef = row.decisionRef ∧ later.reservationRef = row.reservationRef
  /-- A request is sent while its attempt is the active one and no other is uncertain. -/
  active : ∀ event actionId later,
    (dispatched (events ++ [event])).dispatches.find actionId = some later →
    later.dispatchedAt ≠ none →
    ∃ row, (dispatched events).dispatches.find actionId = some row
      ∧ (row.dispatchedAt = later.dispatchedAt
        ∨ row.dispatchedAt = none
          ∧ (dispatched events).activeAttempt later.workId = some later.attemptId
          ∧ (dispatched events).uncertain later.workId = false)
  /-- While some request of a work is uncertain, no attempt of the work starts. -/
  quiet : ∀ event, ∀ attempt ∈ (dispatched (events ++ [event])).attempts.rows,
    (dispatched events).uncertain attempt.workId = true →
    ∃ earlier ∈ (dispatched events).attempts.rows, earlier.attemptId = attempt.attemptId
      ∧ earlier.workId = attempt.workId
  /-- A work has one uncertain request at most. -/
  alone : ∀ left ∈ (dispatched events).dispatches.rows,
    ∀ right ∈ (dispatched events).dispatches.rows, left.workId = right.workId →
    left.unresolved = true → right.unresolved = true → left = right

theorem dispatched_append (events more : List DispatchEvent) :
    dispatched (events ++ more) = runCalls dispatch (dispatched events) more :=
  runCalls_append

/-- Every external request that was sent stays paid for and is never sent again, along every
sequence of transactions. -/
theorem requests_kept (events : List DispatchEvent) : RequestsKept events where
  paid := by
    intro row member sent
    obtain ⟨payer, paid⟩ := (dispatched_invariant events).paid row member
    obtain ⟨reservation, _, resolved, _, _, identified, _⟩ := paid.reserved
    refine ⟨reservation, payer, resolved, identified ▸ paid.found, ?_⟩
    rcases paid.pays with paying | ⟨unsent, _⟩
    · exact paying
    · exact absurd unsent sent
  decisions := (dispatched_invariant events).decided
  reservations := by
    intro left first right second one other resolved again same
    have invariant := dispatched_invariant events
    obtain ⟨payer, paid⟩ := invariant.paid left first
    obtain ⟨paying, alsoPaid⟩ := invariant.paid right second
    obtain ⟨own, action, ownResolved, acted, named, identified, declared⟩ := paid.reserved
    obtain ⟨others, another, otherResolved, alsoActed, alsoNamed, alsoIdentified, alsoDeclared⟩ :=
      alsoPaid.reserved
    have sameOwn := RecordStore.resolve_unique ownResolved resolved
    cases sameOwn
    have sameOther := RecordStore.resolve_unique otherResolved again
    cases sameOther
    have found := paid.found
    rw [identified, same, ← alsoIdentified, alsoPaid.found] at found
    cases found
    rw [← declared, alsoDeclared] at acted
    have sameAction := RecordStore.resolve_unique acted alsoActed
    cases sameAction
    exact Table.eq_of_key first second (named.symm.trans alsoNamed)
  once := by
    intro more actionId row moment found sent
    rw [dispatched_append]
    exact runCalls_sent more (dispatched_invariant events) found sent
  active := by
    intro event actionId later found sent
    rw [dispatched_append] at found
    obtain ⟨request, steps⟩ := ((dispatched_invariant events).step event).requests
    have stepped := steps actionId
    rw [show (dispatch (dispatched events) event).1.dispatches.find actionId = some later from found]
      at stepped
    cases located : (dispatched events).dispatches.find actionId with
    | none =>
        rw [located] at stepped
        cases stepped with
        | prepared _ unsent => exact absurd unsent sent
    | some row =>
        rw [located] at stepped
        refine ⟨row, rfl, ?_⟩
        cases stepped with
        | changed change =>
            obtain ⟨_, work, attempt, _⟩ := change.keeps
            cases change with
            | same unchanged => exact .inl (by rw [unchanged])
            | sent _ unsent active quiet =>
                rw [work, attempt]
                exact .inr ⟨unsent, active, quiet⟩
            | returned _ result | reconciled _ result => exact .inl (by rw [result]; rfl)
  quiet := by
    intro event attempt member uncertain
    rw [dispatched_append] at member
    rcases ((dispatched_invariant events).step event).attempts attempt member with old | quiet
    · exact old
    · rw [uncertain] at quiet
      cases quiet
  alone := (dispatched_invariant events).alone

end Sastsimi.Storage
