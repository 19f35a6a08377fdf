import Sastsimi.Storage.RegistrationFrames
import Sastsimi.Storage.RegistrationRuns

/-!
# Exactly one registration scope

The search for the scope of a work meets every reservation of the analysis.  It succeeds for all
works of the analysis as long as every call that has reserved a registration has registered its
own candidate: then the reservations of registrations correspond to the works one to one.  A call
that is denied, fails or crashes after its reservation, or is answered with an earlier work, leaves
a reservation whose candidate is never published.
-/

namespace Sastsimi.Storage

open Lib Sastsimi.Runtime

variable [ContentHash] [ValueHash] {before after : Store}

/-! ## Reservations -/

/-- What a reservation that is made does: it adds one row, under its own terms. -/
structure Reserves (before after : Store) (reservation : BudgetReservation) : Prop where
  records : before.records.Extends after.records
  works : after.works = before.works
  row : ∃ row ∈ after.reservations.rows, row.terms = reservation.terms
  rows : ∀ row ∈ after.reservations.rows, row ∈ before.reservations.rows
    ∨ row.terms = reservation.terms ∧ row.payload.reservationId = row.reservationId
  kept : ∀ row ∈ before.reservations.rows, row ∈ after.reservations.rows
  recorded : after.resolve (reference (.reservation reservation)) = .ok (.reservation reservation)
  action : ∃ action, before.resolveCandidate reservation.actionRef = .ok (.action action)
    ∧ after.resolve reservation.actionRef = .ok (.action action)

omit [ValueHash] in
theorem Store.reserveNew_ok {evidence : TrustedEvidence} {reservation : BudgetReservation}
    (reserved : before.reserveNew evidence reservation = .ok after) :
    Reserves before after reservation := by
  obtain ⟨_, rest⟩ := raiseIf_bind_ok.1 reserved
  obtain ⟨workRecord, _, rest⟩ := except_bind_ok rest
  obtain ⟨actionRecord, forAction, rest⟩ := except_bind_ok rest
  obtain ⟨work, _, rest⟩ := except_bind_ok rest
  obtain ⟨action, isAction, rest⟩ := except_bind_ok rest
  obtain ⟨records, publishes, rest⟩ := except_bind_ok rest
  obtain ⟨_, _, rest⟩ := except_bind_ok rest
  obtain ⟨saved, saves, inserts⟩ := except_bind_ok rest
  obtain ⟨inserted, result⟩ := Store.insertReservation_ok inserts
  obtain ⟨shape, grows, recorded⟩ := Store.save_ok saves
  obtain ⟨first, published, candidate, resolved⟩ := RecordStore.publish_ok publishes
  obtain rfl := Store.admittedAction_ok isAction
  obtain rfl := RecordStore.resolve_unique forAction candidate
  have rows := (Table.insert_eq_some.1 inserted).2
  have reservations : saved.reservations = before.reservations := by rw [shape]
  rw [reservations] at rows
  have kept : saved.resolve reservation.actionRef = .ok (.action action) := grows.resolve resolved
  refine
    { records := ?_
      works := ?_
      row := ?_
      rows := ?_
      kept := ?_
      recorded := ?_
      action := ⟨action, forAction, ?_⟩ }
  · rw [result]
    exact first.trans grows
  · rw [result, shape]
  · refine ⟨Store.newReservation evidence reservation work action, ?_, rfl⟩
    rw [rows]
    simp
  · intro row member
    rw [rows, List.mem_append, List.mem_singleton] at member
    rcases member with old | rfl
    · exact .inl old
    · exact .inr ⟨rfl, rfl⟩
  · intro row member
    rw [rows]
    exact List.mem_append_left _ member
  · rw [result]
    exact recorded
  · rw [result]
    exact kept

/-! ## Registrations -/

/-- What a registration does: it adds the row of its work, and publishes the work. -/
structure Enters (before after : Store) (work : WorkExecutionState) : Prop where
  keeps : before.records.Extends after.records
  terms : after.reservations.rows.map ReservationRow.terms
    = before.reservations.rows.map ReservationRow.terms
  published : after.resolve (reference (.work work)) = .ok (.work work)
  fresh : ∀ row ∈ before.works.rows, row.workId ≠ work.workId
  row : ∃ row, after.works.rows = before.works.rows ++ [row] ∧ row.workId = work.workId
    ∧ row.analysisId = work.metadata.analysisId ∧ row.payload = work

omit [ContentHash] in
theorem Store.insertWork_ok {work : WorkExecutionState}
    (inserted : before.insertWork work = .ok after) :
    after = { before with works := after.works }
      ∧ (∀ row ∈ before.works.rows, row.workId ≠ work.workId)
      ∧ ∃ row, after.works.rows = before.works.rows ++ [row] ∧ row.workId = work.workId
        ∧ row.analysisId = work.metadata.analysisId ∧ row.payload = work := by
  obtain ⟨_, rest⟩ := raiseIf_bind_ok.1 inserted
  obtain ⟨works, stored, returned⟩ := except_bind_ok rest
  cases returned
  obtain ⟨absent, rows⟩ := Table.insert_eq_some.1 (required_ok.1 stored)
  exact ⟨rfl, Table.find_eq_none.1 absent, _, rows, rfl, rfl, rfl⟩

theorem Store.registerNew_ok {registrar : Registrar} {stamp : Stamp} {work : WorkExecutionState}
    {decisionRef : RecordRef} {ref : Option RecordRef}
    (registered : before.registerNew registrar stamp work decisionRef ref = .ok after) :
    Enters before after work := by
  obtain ⟨_, rest⟩ := raiseIf_bind_ok.1 registered
  obtain ⟨_, _, rest⟩ := except_bind_ok rest
  obtain ⟨_, _, rest⟩ := except_bind_ok rest
  obtain ⟨⟨claimed, _⟩, claims, rest⟩ := except_bind_ok rest
  obtain ⟨saved, saves, rest⟩ := except_bind_ok rest
  obtain ⟨inserted, inserts, points⟩ := except_bind_ok rest
  have first := (KeepsScopes.claim claims).trans (KeepsScopes.save saves)
  have same : saved.works = before.works := by
    rw [KeepsScopes.save_works saves, KeepsScopes.claim_works claims]
  obtain ⟨shape, absent, row, rows, entered⟩ := Store.insertWork_ok inserts
  have pointed := Store.point_ok points
  rw [same] at absent rows
  have works : after.works = inserted.works := by rw [pointed]
  have reservations : after.reservations = saved.reservations := by rw [pointed, shape]
  have records : after.records = saved.records := by rw [pointed, shape]
  exact
    { keeps := records ▸ first.records
      terms := by rw [reservations, first.terms]
      published := by
        rw [Store.resolve, records]
        exact (Store.save_ok saves).2.2
      fresh := absent
      row := ⟨row, works ▸ rows, entered⟩ }

/-! ## Candidates -/

omit [ContentHash] in
theorem RegistrationCall.candidate_ok {call : RegistrationCall} {work : WorkExecutionState}
    (built : call.candidate = .ok work) :
    work.metadata.recordId = call.candidateId ∧ work.metadata.analysisId = call.analysisId
      ∧ work.status = .pending ∧ work.workId = call.workId := by
  obtain ⟨_, rest⟩ := raiseIf_bind_ok.1 built
  obtain ⟨_, rest⟩ := raiseIf_bind_ok.1 rest
  have fields := WorkFields.validate_ok rest
  refine ⟨by rw [fields]; rfl, ?_, by rw [fields], by rw [fields]⟩
  rw [fields]
  exact RecordMeta.fresh_analysisId ..

/-- The candidate of a call and its request are staged. -/
structure Staged (calls : RegistrationCalls) (store : Store) (number : Nat)
    (work : WorkExecutionState) : Prop where
  built : (calls.call number).candidate = .ok work
  candidate : store.resolveCandidate (reference (.work work)) = .ok (.work work)
  request : store.resolveCandidate (reference (.action ((calls.call number).request work)))
    = .ok (.action ((calls.call number).request work))

variable {calls : RegistrationCalls} {system : RegistrationSystem}

theorem Staged.grows {number : Nat} {work : WorkExecutionState}
    (staged : Staged calls before number work) (grows : before.records.Extends after.records) :
    Staged calls after number work :=
  ⟨staged.built, grows.resolve staged.candidate, grows.resolve staged.request⟩

/-- Two calls have two candidates. -/
theorem Staged.unique {first second : Nat} {work : WorkExecutionState}
    (left : Staged calls before first work) (right : Staged calls after second work) :
    first = second := by
  have one := (RegistrationCall.candidate_ok left.built).1
  have other := (RegistrationCall.candidate_ok right.built).1
  exact calls.fresh (one.symm.trans other)

/-! ## The invariant -/

/-- A reservation of an attempt is for a published work. -/
def Starts (store : Store) (reservation : BudgetReservation) : Prop :=
  ∃ work action, store.resolve reservation.workRef = .ok (.work work)
    ∧ store.resolve reservation.actionRef = .ok (.action action)
    ∧ action.actionType = .startAttempt

/-- Every reservation registers the candidate of a call or starts an attempt. -/
inductive Purposed (calls : RegistrationCalls) (store : Store) (phase : Nat → Phase)
    (reservation : BudgetReservation) : Prop where
  | registration (number : Nat) (work : WorkExecutionState)
      (reserves : (phase number).reserves = some work)
      (made : reservation = (calls.call number).reservation work)
  | attempt (starts : Starts store reservation)

/-- What holds of every reached system.  The reservations of registrations are those of the calls,
and the works are those the calls registered. -/
structure Tracked (calls : RegistrationCalls) (system : RegistrationSystem) : Prop where
  named : Named system.store
  staged : ∀ {number work}, (system.phase number).candidate = some work →
    Staged calls system.store number work
  rows : ∀ row ∈ system.store.reservations.rows, ∃ reservation : BudgetReservation,
    row.terms = reservation.terms
      ∧ system.store.resolve (reference (.reservation reservation)) = .ok (.reservation reservation)
      ∧ Purposed calls system.store system.phase reservation
  reserved : ∀ {number work}, (system.phase number).reserves = some work →
    (∃ row ∈ system.store.reservations.rows,
      row.terms = ((calls.call number).reservation work).terms)
    ∧ system.store.resolve (reference (.action ((calls.call number).request work)))
      = .ok (.action ((calls.call number).request work))
  works : ∀ row ∈ system.store.works.rows, row.payload.metadata.analysisId = row.analysisId
    ∧ ∃ number work, (system.phase number).registers = some work ∧ work.workId = row.workId
      ∧ work.metadata.analysisId = row.analysisId
      ∧ (row.payload.status = .pending → row.payload = work)
  registered : ∀ {number work}, (system.phase number).registers = some work →
    system.store.resolve (reference (.work work)) = .ok (.work work)
      ∧ ∃ row ∈ system.store.works.rows, row.workId = work.workId
  distinct : ∀ {first second work other}, (system.phase first).registers = some work →
    (system.phase second).registers = some other → work.workId = other.workId → first = second

omit [ValueHash] in
theorem Purposed.grows {phase later : Nat → Phase} {reservation : BudgetReservation}
    (purposed : Purposed calls before phase reservation)
    (grows : before.records.Extends after.records)
    (keeps : ∀ {number work}, (phase number).reserves = some work →
      (later number).reserves = some work) : Purposed calls after later reservation := by
  cases purposed with
  | registration number work reserves made => exact .registration number work (keeps reserves) made
  | attempt starts =>
      obtain ⟨work, action, forWork, forAction, kind⟩ := starts
      exact .attempt ⟨work, action, grows.resolve forWork, grows.resolve forAction, kind⟩

/-- What neither reserves nor registers keeps the invariant. -/
theorem Tracked.keeps (tracked : Tracked calls system) (keeps : KeepsScopes system.store after)
    {phase : Nat → Phase}
    (staged : ∀ {number work}, (phase number).candidate = some work →
      Staged calls after number work)
    (reserves : ∀ number, (phase number).reserves = (system.phase number).reserves)
    (registers : ∀ number, (phase number).registers = (system.phase number).registers) :
    Tracked calls ⟨after, phase⟩ where
  named := keeps.named tracked.named
  staged := staged
  rows := by
    intro row member
    obtain ⟨earlier, stored, same⟩ := keeps.terms_of member
    obtain ⟨reservation, terms, recorded, purposed⟩ := tracked.rows earlier stored
    refine ⟨reservation, same.symm.trans terms, keeps.records.resolve recorded, ?_⟩
    exact purposed.grows keeps.records fun held => (reserves _).trans held
  reserved := by
    intro number work held
    obtain ⟨⟨row, stored, terms⟩, recorded⟩ := tracked.reserved ((reserves number).symm.trans held)
    obtain ⟨later, member, same⟩ := keeps.terms_to stored
    exact ⟨⟨later, member, same.trans terms⟩, keeps.records.resolve recorded⟩
  works := by
    intro later member
    obtain ⟨row, stored, kept⟩ := keeps.works later member
    obtain ⟨within, number, work, held, own, analysis, pending⟩ := tracked.works row stored
    refine ⟨kept.within.trans (within.trans kept.analysisId.symm), number, work,
      (registers number).trans held, own.trans kept.workId.symm,
      analysis.trans kept.analysisId.symm, ?_⟩
    intro opened
    have same := kept.pending opened
    rw [same] at opened
    exact same.trans (pending opened)
  registered := by
    intro number work held
    obtain ⟨published, row, stored, own⟩ := tracked.registered ((registers number).symm.trans held)
    refine ⟨keeps.records.resolve published, ?_⟩
    have listed := List.mem_map_of_mem (f := WorkRow.workId) stored
    rw [← keeps.workIds] at listed
    obtain ⟨later, member, same⟩ := List.mem_map.1 listed
    exact ⟨later, member, same.trans own⟩
  distinct := by
    intro first second work other left right
    exact tracked.distinct ((registers first).symm.trans left)
      ((registers second).symm.trans right)

/-- A call whose own transaction neither reserves nor registers takes its step. -/
theorem Tracked.turn (tracked : Tracked calls system) (keeps : KeepsScopes system.store after)
    {number : Nat} {phase : Phase}
    (staged : ∀ {work}, phase.candidate = some work → Staged calls after number work)
    (reserves : phase.reserves = (system.phase number).reserves)
    (registers : phase.registers = (system.phase number).registers) :
    Tracked calls ⟨after, Function.update system.phase number phase⟩ := by
  apply tracked.keeps keeps
  · intro other work held
    rcases Phase.view_updated held with ⟨rfl, own⟩ | old
    · exact staged own
    · exact (tracked.staged old).grows keeps.records
  · exact Phase.view_update reserves
  · exact Phase.view_update registers

/-- A transaction of no registration keeps the phases. -/
theorem Tracked.commit (tracked : Tracked calls system) {result : Except PyError Store}
    (keeps : ∀ {after}, result = .ok after → KeepsScopes system.store after) :
    Tracked calls (system.commit result) := by
  cases result with
  | error reason => exact tracked
  | ok after =>
      have kept := keeps rfl
      exact tracked.keeps kept (fun held => (tracked.staged held).grows kept.records)
        (fun _ => rfl) fun _ => rfl

/-! ## Reserving -/

/-- A purposed reservation is made. -/
theorem Tracked.reserves (tracked : Tracked calls system) {reservation : BudgetReservation}
    (reserves : Reserves system.store after reservation) {phase : Nat → Phase}
    (staged : ∀ {number work}, (phase number).candidate = some work →
      (system.phase number).candidate = some work)
    (kept : ∀ {number work}, (system.phase number).reserves = some work →
      (phase number).reserves = some work)
    (added : ∀ {number work}, (phase number).reserves = some work →
      (system.phase number).reserves = some work
        ∨ reservation = (calls.call number).reservation work
          ∧ after.resolve (reference (.action ((calls.call number).request work)))
            = .ok (.action ((calls.call number).request work)))
    (registers : ∀ number, (phase number).registers = (system.phase number).registers)
    (purposed : Purposed calls after phase reservation) : Tracked calls ⟨after, phase⟩ where
  named :=
    { reservations := by
        intro row member
        rcases reserves.rows row member with old | ⟨_, own⟩
        · exact tracked.named.reservations row old
        · exact own
      works := fun row member => tracked.named.works row (reserves.works ▸ member) }
  staged := fun held => (tracked.staged (staged held)).grows reserves.records
  rows := by
    intro row member
    rcases reserves.rows row member with old | ⟨terms, _⟩
    · obtain ⟨earlier, same, recorded, purpose⟩ := tracked.rows row old
      exact ⟨earlier, same, reserves.records.resolve recorded,
        purpose.grows reserves.records kept⟩
    · exact ⟨reservation, terms, reserves.recorded, purposed⟩
  reserved := by
    intro number work held
    rcases added held with old | ⟨made, requested⟩
    · obtain ⟨⟨row, stored, terms⟩, recorded⟩ := tracked.reserved old
      exact ⟨⟨row, reserves.kept row stored, terms⟩, reserves.records.resolve recorded⟩
    · exact ⟨made ▸ reserves.row, requested⟩
  works := by
    intro row member
    obtain ⟨within, number, work, held, rest⟩ := tracked.works row (reserves.works ▸ member)
    exact ⟨within, number, work, (registers number).trans held, rest⟩
  registered := by
    intro number work held
    obtain ⟨published, row, stored, own⟩ := tracked.registered ((registers number).symm.trans held)
    exact ⟨reserves.records.resolve published, row, reserves.works ▸ stored, own⟩
  distinct := by
    intro first second work other left right
    exact tracked.distinct ((registers first).symm.trans left)
      ((registers second).symm.trans right)

/-- A reservation that is returned has a row, whether it was made now or before. -/
theorem Tracked.reserve_ok (tracked : Tracked calls system) {evidence : TrustedEvidence}
    {reservation answer : BudgetReservation}
    (returned : system.store.reserve evidence reservation = .ok (after, answer)) :
    Reserves system.store after reservation := by
  unfold Store.reserve at returned
  split at returned
  · rename_i existing found
    obtain ⟨initial, resolved, rest⟩ := except_bind_ok returned
    obtain ⟨same, rest⟩ := raiseIf_bind_ok.1 rest
    cases rest
    have member := (Table.find_eq_some.1 found).1
    obtain ⟨earlier, terms, recorded, purposed⟩ := tracked.rows existing member
    have first : existing.initialRef = reference (.reservation earlier) :=
      congrArg Terms.initialRef terms
    rw [first, not_not.1 same] at resolved
    obtain rfl : reservation = earlier :=
      Record.reservation.inj (RecordStore.resolve_unique resolved recorded)
    have acted : ∃ action, system.store.resolve reservation.actionRef = .ok (.action action) := by
      cases purposed with
      | registration number work reserves made =>
          rw [made]
          exact ⟨_, (tracked.reserved reserves).2⟩
      | attempt starts =>
          obtain ⟨_, action, _, forAction, _⟩ := starts
          exact ⟨action, forAction⟩
    obtain ⟨action, forAction⟩ := acted
    exact
      { records := .refl _
        works := rfl
        row := ⟨existing, member, terms⟩
        rows := fun row stored => .inl stored
        kept := fun row stored => stored
        recorded := recorded
        action := ⟨action, RecordStore.resolve_candidate forAction, forAction⟩ }
  · obtain ⟨stored, reserved, rest⟩ := except_bind_ok returned
    cases rest
    exact Store.reserveNew_ok reserved

/-! ## Steps -/

theorem Tracked.stage (tracked : Tracked calls system) (number : Nat)
    (idle : system.phase number = .idle) :
    Tracked calls
      (system.advance number ((calls.call number).stageStep system.store) .rejected) := by
  cases result : (calls.call number).stageStep system.store with
  | error reason =>
      exact tracked.turn (.refl _) (fun held => by cases held) (by rw [idle]; rfl)
        (by rw [idle]; rfl)
  | ok value =>
      obtain ⟨work, pending, rest⟩ := except_bind_ok result
      obtain ⟨requested, requests, rest⟩ := except_bind_ok rest
      obtain ⟨staged, stages, returned⟩ := except_bind_ok rest
      cases returned
      obtain ⟨_, built, rest⟩ := except_bind_ok pending
      obtain ⟨_, returned⟩ := raiseIf_bind_ok.1 rest
      cases returned
      obtain ⟨first, stored, returned⟩ := except_bind_ok requests
      cases returned
      obtain ⟨second, placed, returned⟩ := except_bind_ok stages
      cases returned
      have requestStaged := (RecordStore.stage_ok stored).2
      obtain ⟨grows, workStaged⟩ := RecordStore.stage_ok placed
      have keeps := (KeepsScopes.stageRecord requests).trans (KeepsScopes.stageRecord stages)
      refine tracked.turn keeps ?_ (by rw [idle]; rfl) (by rw [idle]; rfl)
      intro other held
      cases held
      exact
        { built
          candidate := RecordStore.resolve_ok.2 ⟨workStaged, rfl, by simp⟩
          request := RecordStore.resolve_ok.2 ⟨grows.records requestStaged, rfl, by simp⟩ }

theorem Tracked.reserve (tracked : Tracked calls system) (number : Nat)
    (evidence : TrustedEvidence) {work : WorkExecutionState}
    (staged : system.phase number = .staged work) :
    Tracked calls
      (system.advance number ((calls.call number).reserveStep system.store evidence work)
        .rejected) := by
  cases result : (calls.call number).reserveStep system.store evidence work with
  | error reason =>
      exact tracked.turn (.refl _) (fun held => by cases held) (by rw [staged]; rfl)
        (by rw [staged]; rfl)
  | ok value =>
      obtain ⟨⟨after, answer⟩, returned, rest⟩ := except_bind_ok result
      cases rest
      have reserves := tracked.reserve_ok returned
      have held : (system.phase number).candidate = some work := by rw [staged]; rfl
      have requested : after.resolve (reference (.action ((calls.call number).request work)))
          = .ok (.action ((calls.call number).request work)) := by
        obtain ⟨action, forAction, recorded⟩ := reserves.action
        rw [← RecordStore.resolve_unique (tracked.staged held).request forAction] at recorded
        exact recorded
      have unreserved : (system.phase number).reserves = none := by rw [staged]; rfl
      have unregistered : (system.phase number).registers = none := by rw [staged]; rfl
      refine tracked.reserves reserves ?_ (Phase.view_kept (.inl unreserved)) ?_
        (Phase.view_update unregistered.symm) ?_
      · intro other candidate found
        rcases Phase.view_updated found with ⟨rfl, own⟩ | old
        · exact held.trans own
        · exact old
      · intro other candidate found
        rcases Phase.view_updated found with ⟨rfl, own⟩ | old
        · cases own
          exact .inr ⟨rfl, requested⟩
        · exact .inl old
      · exact .registration number work Phase.view_self rfl

theorem Tracked.authorize (tracked : Tracked calls system) (number : Nat) (registrar : Registrar)
    (stamp : IssueStamp) {work : WorkExecutionState}
    (reserved : system.phase number = .reserved work) :
    Tracked calls
      (system.advance number
        ((calls.call number).authorizeStep system.store registrar stamp work) (.refused work)) := by
  have held : (system.phase number).candidate = some work := by rw [reserved]; rfl
  have staged := tracked.staged held
  cases result : (calls.call number).authorizeStep system.store registrar stamp work with
  | error reason =>
      refine tracked.turn (.refl _) ?_ (by rw [reserved]; rfl) (by rw [reserved]; rfl)
      intro other found
      cases found
      exact staged
  | ok value =>
      obtain ⟨⟨after, decision⟩, authorized, rest⟩ := except_bind_ok result
      cases rest
      have keeps := KeepsScopes.authorize authorized
      split
      all_goals
        refine tracked.turn keeps ?_ (by rw [reserved]; rfl) (by rw [reserved]; rfl)
        intro other found
        cases found
        exact staged.grows keeps.records

/-- A candidate that is registered enters the works. -/
theorem Tracked.enters (tracked : Tracked calls system) {number : Nat}
    {work : WorkExecutionState} {decisionRef : RecordRef}
    (authorized : system.phase number = .authorized work decisionRef)
    (enters : Enters system.store after work) :
    Tracked calls ⟨after, Function.update system.phase number (.registered work)⟩ := by
  have held : (system.phase number).candidate = some work := by rw [authorized]; rfl
  have reserved : (system.phase number).reserves = some work := by rw [authorized]; rfl
  have staged := tracked.staged held
  obtain ⟨row, rows, own, analysis, payload⟩ := enters.row
  have entered : ∀ {other candidate},
      ((Function.update system.phase number (.registered work)) other).registers = some candidate →
      other = number ∧ candidate = work ∨ (system.phase other).registers = some candidate := by
    intro other candidate found
    rcases Phase.view_updated found with ⟨same, registered⟩ | old
    · cases registered
      exact .inl ⟨same, rfl⟩
    · exact .inr old
  have unregistered : (system.phase number).registers = none := by rw [authorized]; rfl
  have holds : (Phase.registered work).reserves = (system.phase number).reserves := reserved.symm
  have reserves := Phase.view_update holds
  have terms : ∀ {row}, row ∈ after.reservations.rows →
      ∃ earlier ∈ system.store.reservations.rows, earlier.terms = row.terms := by
    intro row member
    have listed := List.mem_map_of_mem (f := ReservationRow.terms) member
    rw [enters.terms] at listed
    exact List.mem_map.1 listed
  -- A work that was registered before has a row, so its identifier is taken.
  have differs : ∀ {other candidate}, (system.phase other).registers = some candidate →
      work.workId ≠ candidate.workId := by
    intro other candidate found same
    obtain ⟨_, earlier, stored, named⟩ := tracked.registered found
    exact enters.fresh earlier stored (named.trans same.symm)
  refine
    { named := ⟨?_, ?_⟩
      staged := ?_
      rows := ?_
      reserved := ?_
      works := ?_
      registered := ?_
      distinct := ?_ }
  · intro row member
    obtain ⟨earlier, stored, same⟩ := terms member
    have first : earlier.payload.reservationId = row.payload.reservationId :=
      congrArg Terms.named same
    have second : earlier.reservationId = row.reservationId := congrArg Terms.reservationId same
    exact first.symm.trans ((tracked.named.reservations earlier stored).trans second)
  · intro other member
    rw [rows, List.mem_append, List.mem_singleton] at member
    rcases member with old | rfl
    · exact tracked.named.works other old
    · rw [payload, own]
  · intro other candidate found
    rcases Phase.view_updated found with ⟨rfl, own⟩ | old
    · cases own
      exact staged.grows enters.keeps
    · exact (tracked.staged old).grows enters.keeps
  · intro row member
    obtain ⟨earlier, stored, same⟩ := terms member
    obtain ⟨reservation, shape, recorded, purposed⟩ := tracked.rows earlier stored
    exact ⟨reservation, same.symm.trans shape, enters.keeps.resolve recorded,
      purposed.grows enters.keeps fun found => (reserves _).trans found⟩
  · intro other candidate found
    obtain ⟨⟨row, stored, shape⟩, recorded⟩ := tracked.reserved ((reserves other).symm.trans found)
    have listed := List.mem_map_of_mem (f := ReservationRow.terms) stored
    rw [← enters.terms] at listed
    obtain ⟨later, member, same⟩ := List.mem_map.1 listed
    exact ⟨⟨later, member, same.trans shape⟩, enters.keeps.resolve recorded⟩
  · intro other member
    rw [rows, List.mem_append, List.mem_singleton] at member
    rcases member with old | rfl
    · obtain ⟨within, caller, candidate, found, rest⟩ := tracked.works other old
      exact ⟨within, caller, candidate, Phase.view_kept (.inl unregistered) found, rest⟩
    · refine ⟨by rw [payload, analysis], number, work, ?_, own.symm, analysis.symm,
        fun _ => payload⟩
      exact Phase.view_self
  · intro other candidate found
    rcases entered found with ⟨_, rfl⟩ | old
    · exact ⟨enters.published, row, by rw [rows]; simp, own⟩
    · obtain ⟨published, earlier, stored, named⟩ := tracked.registered old
      exact ⟨enters.keeps.resolve published, earlier,
        by rw [rows]; exact List.mem_append_left _ stored, named⟩
  · intro first second candidate other left right same
    rcases entered left with ⟨rfl, rfl⟩ | old
    · rcases entered right with ⟨rfl, _⟩ | older
      · rfl
      · exact absurd same (differs older)
    · rcases entered right with ⟨rfl, rfl⟩ | older
      · exact absurd same.symm (differs old)
      · exact tracked.distinct old older same

theorem Tracked.register (tracked : Tracked calls system) (number : Nat) (registrar : Registrar)
    (stamp : Stamp) {work : WorkExecutionState} {decisionRef : RecordRef}
    (authorized : system.phase number = .authorized work decisionRef) :
    Tracked calls
      (system.advance number
        ((calls.call number).registerStep system.store registrar stamp work decisionRef)
        (.refused work)) := by
  have held : (system.phase number).candidate = some work := by rw [authorized]; rfl
  have staged := tracked.staged held
  cases result :
      (calls.call number).registerStep system.store registrar stamp work decisionRef with
  | error reason =>
      refine tracked.turn (.refl _) ?_ (by rw [authorized]; rfl) (by rw [authorized]; rfl)
      intro other found
      cases found
      exact staged
  | ok value =>
      obtain ⟨⟨after, answer⟩, returned, rest⟩ := except_bind_ok result
      cases rest
      obtain ⟨_, _, rest⟩ := except_bind_ok returned
      split at rest
      · rename_i old found
        cases rest
        have member := List.mem_of_find?_eq_some found
        -- The work of the key is not the candidate, whose identifiers are fresh.
        have other : old.payload ≠ work := by
          intro same
          obtain ⟨_, caller, candidate, entered, _, _, pending⟩ := tracked.works old member
          have opened : old.payload.status = .pending := by
            rw [same]
            exact (RegistrationCall.candidate_ok staged.built).2.2.1
          rw [← pending opened, same] at entered
          have earlier := tracked.staged
            (Phase.candidate_of_reserves (Phase.reserves_of_registers entered))
          rw [earlier.unique staged, authorized] at entered
          cases entered
        rw [if_neg other]
        refine tracked.turn (.refl _) ?_ (by rw [authorized]; rfl) (by rw [authorized]; rfl)
        intro other found
        cases found
        exact staged
      · obtain ⟨stored, registered, returned⟩ := except_bind_ok rest
        cases returned
        rw [if_pos rfl]
        exact tracked.enters authorized (Store.registerNew_ok registered)

theorem Tracked.reserveAttempt (tracked : Tracked calls system) (evidence : TrustedEvidence)
    (ids : RequestIds) (workRef : RecordRef) (role : RequesterRole) (scope : RecordRef) :
    Tracked calls
      (system.commit (reserveAttemptStep system.store evidence ids workRef role scope)) := by
  cases result : reserveAttemptStep system.store evidence ids workRef role scope with
  | error reason => exact tracked
  | ok value =>
      obtain ⟨record, resolved, rest⟩ := except_bind_ok result
      cases record with
      | work work =>
          obtain ⟨requested, requests, rest⟩ := except_bind_ok rest
          obtain ⟨⟨after, answer⟩, returned, rest⟩ := except_bind_ok rest
          cases rest
          have keeps := KeepsScopes.stageRecord requests
          have moved : Tracked calls { system with store := requested } :=
            tracked.keeps keeps (fun held => (tracked.staged held).grows keeps.records)
              (fun _ => rfl) fun _ => rfl
          have reserves := moved.reserve_ok returned
          obtain ⟨records, stored, shape⟩ := except_bind_ok requests
          cases shape
          have staged : records.resolve
              (reference (.action (runnerAction ids work role .startAttempt))) true
              = .ok (.action (runnerAction ids work role .startAttempt)) :=
            RecordStore.resolve_ok.2 ⟨(RecordStore.stage_ok stored).2, rfl, by simp⟩
          have starts : Starts value (runnerReservation ids work scope
              (runnerAction ids work role .startAttempt) runnerUnits) := by
            obtain ⟨action, forAction, recorded⟩ := reserves.action
            cases RecordStore.resolve_unique staged forAction
            have published := reserves.records.resolve (keeps.records.resolve resolved)
            rw [(RecordStore.resolve_ok.1 resolved).2.1] at published
            exact ⟨work, _, published, recorded, rfl⟩
          exact moved.reserves reserves id id .inl (fun _ => rfl) (.attempt starts)
      | _ => cases rest

/-- Every step keeps the invariant. -/
theorem Tracked.perform (tracked : Tracked calls system) (step : RegistrationStep) :
    Tracked calls (calls.perform system step) := by
  cases step with
  | stage number =>
      rw [RegistrationCalls.perform]
      split
      · rename_i idle
        exact tracked.stage number idle
      · exact tracked
  | reserve number evidence =>
      rw [RegistrationCalls.perform]
      split
      · rename_i staged
        exact tracked.reserve number evidence staged
      · exact tracked
  | authorize number registrar stamp =>
      rw [RegistrationCalls.perform]
      split
      · rename_i reserved
        exact tracked.authorize number registrar stamp reserved
      · exact tracked
  | register number registrar stamp =>
      rw [RegistrationCalls.perform]
      split
      · rename_i authorized
        exact tracked.register number registrar stamp authorized
      · exact tracked
  | debit stamp entry =>
      apply tracked.commit
      intro after committed
      obtain ⟨_, returned, rfl⟩ := except_map_ok committed
      exact KeepsScopes.commitUsage tracked.named returned
  | release released =>
      apply tracked.commit
      intro after committed
      obtain ⟨_, returned, rfl⟩ := except_map_ok committed
      exact KeepsScopes.release tracked.named returned
  | issue registrar stamp action work reservationRef =>
      apply tracked.commit
      intro after committed
      obtain ⟨_, returned, rfl⟩ := except_map_ok committed
      exact KeepsScopes.authorize returned
  | ready authority projections stamp used transition =>
      apply tracked.commit
      intro after committed
      obtain ⟨_, returned, rfl⟩ := except_map_ok committed
      exact KeepsScopes.makeReady tracked.named returned
  | reserveAttempt evidence ids workRef role scope =>
      exact tracked.reserveAttempt evidence ids workRef role scope
  | startAttempt authority projections stamp used start =>
      apply tracked.commit
      intro after committed
      obtain ⟨_, returned, rfl⟩ := except_map_ok committed
      exact KeepsScopes.startAttempt tracked.named returned

/-- A database without works and reservations is tracked. -/
theorem Tracked.initially (records : RecordStore) (runs : Table RunRow.analysisId)
    (profiles : Table ProfilePin.key) :
    Tracked calls { store := { records, runs, profiles } } where
  named := ⟨fun _ member => (List.not_mem_nil member).elim,
    fun _ member => (List.not_mem_nil member).elim⟩
  staged := fun held => by cases held
  rows := fun _ member => (List.not_mem_nil member).elim
  reserved := fun held => by cases held
  works := fun _ member => (List.not_mem_nil member).elim
  registered := fun held => by cases held
  distinct := fun held => by cases held

theorem Tracked.foldl (tracked : Tracked calls system) (steps : List RegistrationStep) :
    Tracked calls (steps.foldl calls.perform system) := by
  induction steps generalizing system with
  | nil => exact tracked
  | cons step rest ih => exact ih (tracked.perform step)

/-! ## Scopes -/

omit [ContentHash] [ValueHash] in
/-- A reservation that registers no dynamic work registers the candidate of its action. -/
theorem registers_iff {work candidate : WorkExecutionState} {reservation : BudgetReservation}
    {action : ActionRequest} (direct : action.actionType ≠ .requestDynamicRepro) :
    Registers work reservation (.work candidate) (.action action) ↔
      candidate.workId = work.workId ∧ action.actionType = .registerWork := by
  rw [Registers]
  exact or_iff_left fun handoff => direct handoff.2.2.1

/-- What the search meets at a row of an analysis all of whose calls are settled: two published
records, and a match only at the row of the call that registered the work. -/
theorem Tracked.meets (tracked : Tracked calls system) {analysisId : String}
    (settled : ∀ number, (system.phase number).stray → (calls.call number).analysisId ≠ analysisId)
    {number : Nat} {registered : WorkExecutionState}
    (entered : (system.phase number).registers = some registered) {own : ReservationRow}
    (member : own ∈ system.store.reservations.rows)
    (terms : own.terms = ((calls.call number).reservation registered).terms)
    {work : WorkExecutionState} (same : work.workId = registered.workId) {row : ReservationRow}
    (stored : row ∈ system.store.reservations.rows) (within : row.analysisId = analysisId) :
    ∃ candidate action, system.store.resolve row.payload.workRef = .ok candidate
      ∧ system.store.resolve row.payload.actionRef = .ok action
      ∧ (Registers work row.payload candidate action ↔ row = own)
      ∧ (row = own → action = .action ((calls.call number).request registered)) := by
  obtain ⟨reservation, shape, _, purposed⟩ := tracked.rows row stored
  have forWork : row.payload.workRef = reservation.workRef := congrArg Terms.workRef shape
  have forAction : row.payload.actionRef = reservation.actionRef := congrArg Terms.actionRef shape
  have ownAction : own.payload.actionRef
      = reference (.action ((calls.call number).request registered)) :=
    congrArg Terms.actionRef terms
  have requested := (tracked.reserved (Phase.reserves_of_registers entered)).2
  rw [forWork, forAction]
  cases purposed with
  | registration other candidate reserves made =>
      subst made
      have staged := tracked.staged (Phase.candidate_of_reserves reserves)
      have analysis : (calls.call other).analysisId = analysisId := by
        rw [← (RegistrationCall.candidate_ok staged.built).2.1, ← within]
        have listed : row.analysisId
            = ((calls.call other).reservation candidate).metadata.analysisId :=
          congrArg Terms.analysisId shape
        exact (listed.trans (RecordMeta.fresh_analysisId ..)).symm
      have registers := Phase.registers_of_reserves reserves fun stray =>
        settled other stray analysis
      obtain ⟨published, _⟩ := tracked.registered registers
      refine ⟨_, _, published, (tracked.reserved reserves).2, ?_, ?_⟩
      · rw [registers_iff (by simp [RegistrationCall.request, runnerAction])]
        constructor
        · intro matched
          have first := tracked.distinct registers entered (matched.1.trans same)
          subst first
          rw [registers] at entered
          cases entered
          have keyed := congrArg Terms.reservationId (shape.trans terms.symm)
          exact Table.eq_of_key stored member keyed
        · rintro rfl
          refine ⟨?_, rfl⟩
          have listed := congrArg Terms.workRef (shape.symm.trans terms)
          have one := tracked.registered entered
          have other' : reference (.work candidate) = reference (.work registered) := listed
          rw [other'] at published
          cases RecordStore.resolve_unique one.1 published
          exact same.symm
      · rintro rfl
        have recorded := (tracked.reserved reserves).2
        have listed : reference (.action ((calls.call other).request candidate))
            = reference (.action ((calls.call number).request registered)) :=
          congrArg Terms.actionRef (shape.symm.trans terms)
        rw [listed] at recorded
        exact RecordStore.resolve_unique recorded requested
  | attempt starts =>
      obtain ⟨candidate, action, published, recorded, kind⟩ := starts
      refine ⟨_, _, published, recorded, ?_, ?_⟩
      · rw [registers_iff (by rw [kind]; decide)]
        constructor
        · intro matched
          rw [kind] at matched
          cases matched.2
        · rintro rfl
          rw [← forAction, ownAction] at recorded
          cases RecordStore.resolve_unique requested recorded
          cases kind
      · rintro rfl
        rw [← forAction, ownAction] at recorded
        cases RecordStore.resolve_unique requested recorded
        cases kind

/-- What the claims on the works of an analysis rest on: a stable key has one work at most, and
both searches find the scope under which a work was registered. -/
structure ScopesKept (calls : RegistrationCalls) (system : RegistrationSystem)
    (analysisId : String) : Prop where
  once : ∀ key, (system.store.works.count fun row =>
    decide (row.workId = RegistrationCall.stableWorkId key)) ≤ 1
  scope : ∀ row ∈ system.store.works.rows, row.analysisId = analysisId →
    ∃ number work, (system.phase number).registers = some work ∧ work.workId = row.workId
      ∧ system.store.registrationScope row.workId = .ok (calls.call number).scope
      ∧ system.store.registrationContext row.payload
        = .ok ((calls.call number).scope, .action ((calls.call number).request work))

theorem Tracked.scopesKept (tracked : Tracked calls system) {analysisId : String}
    (settled : ∀ number, (system.phase number).stray →
      (calls.call number).analysisId ≠ analysisId) : ScopesKept calls system analysisId where
  once := by
    intro key
    apply Table.count_le_one
    intro left first right second chosen other
    exact Table.eq_of_key first second
      ((of_decide_eq_true chosen).trans (of_decide_eq_true other).symm)
  scope := by
    intro row member analysis
    obtain ⟨within, number, registered, entered, own, belongs, _⟩ := tracked.works row member
    obtain ⟨⟨paying, stored, terms⟩, _⟩ :=
      tracked.reserved (Phase.reserves_of_registers entered)
    have named := tracked.named.works row member
    have same : row.payload.workId = registered.workId := named.trans own.symm
    have current : system.store.currentWork row.workId = .ok row.payload := by
      have found : system.store.works.find row.workId = some row :=
        Table.find_eq_some.2 ⟨member, rfl⟩
      rw [Store.currentWork, found]
      rfl
    have scope : paying.payload.budgetBindingRef = (calls.call number).scope :=
      congrArg Terms.bindingRef terms
    have paid : paying.analysisId = analysisId := by
      have recorded : paying.analysisId
          = ((calls.call number).reservation registered).metadata.analysisId :=
        congrArg Terms.analysisId terms
      exact (recorded.trans (RecordMeta.fresh_analysisId ..)).trans (belongs.trans analysis)
    have listed : paying ∈ system.store.analysisRows row.payload.metadata.analysisId := by
      rw [Store.analysisRows, List.mem_filter]
      exact ⟨stored, decide_eq_true (paid.trans (within.trans analysis).symm)⟩
    have distinct : (system.store.analysisRows row.payload.metadata.analysisId).Nodup :=
      (List.Nodup.of_map _ system.store.reservations.unique).filter _
    have met : ∀ {other},
        other ∈ system.store.analysisRows row.payload.metadata.analysisId →
        ∃ candidate action, system.store.resolve other.payload.workRef = .ok candidate
          ∧ system.store.resolve other.payload.actionRef = .ok action
          ∧ (Registers row.payload other.payload candidate action ↔ other = paying)
          ∧ (other = paying → action = .action ((calls.call number).request registered)) := by
      intro other found
      rw [Store.analysisRows, List.mem_filter, decide_eq_true_eq] at found
      exact tracked.meets settled entered stored terms same found.1
        (found.2.trans (within.trans analysis))
    refine ⟨number, registered, entered, own, ?_, ?_⟩
    · rw [Store.registrationScope, current]
      apply onlyMatch_mapM distinct listed
      intro other found
      obtain ⟨candidate, action, published, recorded, matched, _⟩ := met found
      simp only [Store.scopeTurn, published, recorded, matched, bind, Except.bind]
      split
      · rename_i chosen
        rw [chosen, scope]
      · rfl
    · apply onlyMatch_mapM distinct listed
      intro other found
      obtain ⟨candidate, action, published, recorded, matched, acted⟩ := met found
      have staged : system.store.resolveCandidate other.payload.workRef = .ok candidate :=
        RecordStore.resolve_candidate published
      simp only [Store.contextTurn, staged, recorded, matched, bind, Except.bind]
      split
      · rename_i chosen
        rw [acted chosen, chosen, scope]
      · rfl

/-- In every run, whose transactions interleave in any order, both searches find the scope of every
work of an analysis in every state in which all calls that reserved a registration of the analysis
have registered their own candidates. -/
theorem registrationScope_kept (calls : RegistrationCalls) (records : RecordStore)
    (runs : Table RunRow.analysisId) (profiles : Table ProfilePin.key)
    (steps : List RegistrationStep) (analysisId : String)
    (settled : ∀ number, ((calls.run records runs profiles steps).phase number).stray →
      (calls.call number).analysisId ≠ analysisId) :
    ScopesKept calls (calls.run records runs profiles steps) analysisId :=
  ((Tracked.initially records runs profiles).foldl steps).scopesKept settled

end Sastsimi.Storage

namespace Sastsimi.Storage.Concrete

open Lib Sastsimi.Runtime

/-- Records are hashed by their identifiers. -/
local instance recordNames : ContentHash := ⟨Record.recordId⟩

/-- Other values are hashed by their texts. -/
local instance valueTexts : ValueHash where
  contentHash
    | .stableKey key => key
    | .inputs _ => "inputs"
    | .dedupe key _ => key
    | .registration analysisId _ subjectId _ dedupeKey => analysisId ++ subjectId ++ dedupeKey

/-- Metadata of the analysis. -/
def metaOf (recordId recordType : String) : RecordMeta where
  recordId := recordId
  logicalRecordId := recordId
  recordType := recordType
  createdAt := 0
  scope := .run "a1"

/-- The profile of the run. -/
def executionProfile : ExecutionBudgetProfile where
  metadata := metaOf "profile" "execution_budget_profile"
  purpose := .localEvaluation
  maxAnalysisElapsedMs := 1000
  maxTotalCostMinorUnits := 1000
  currency := "USD"
  maxTotalWork := 10
  maxTotalLlmCalls := 10
  maxTotalRetries := 10
  maxParallelWork := 2
  status := .active

/-- The scope of the registrations. -/
def profileRef : RecordRef := reference (.executionProfile executionProfile)

/-- The profile is published. -/
def profileRecords : RecordStore where
  records := ⟨[.executionProfile executionProfile], by decide⟩
  revisions := ⟨[(Record.executionProfile executionProfile).revision], by decide⟩

/-- The run names the profile. -/
def profiledRuns : Table RunRow.analysisId where
  rows :=
    [{ analysisId := "a1"
       payload :=
        { metadata := metaOf "run" "analysis_run_state"
          purpose := .localEvaluation
          executionBudgetProfileRef := profileRef
          budgetBindingRef := none } }]
  unique := by decide

/-- The profile is pinned. -/
def profilePins : Table ProfilePin.key := ⟨[⟨"a1", profileRef.dataKind, profileRef⟩], by decide⟩

/-- Everything is permitted. -/
def registrar : Registrar where
  evidence := ⟨fun _ _ => none, fun _ => true⟩
  permitsClaim := fun _ _ _ _ => .ok ()
  permitsDispatch := fun _ _ _ _ => .ok ()
  permitsIssue := fun _ _ _ => .ok []
  currentInput := fun _ _ => .ok ()

/-- Nothing is projected. -/
def noProjections : Projections where
  advance := fun store _ _ => .ok store
  keeps := by
    intro before previous work after advanced
    cases advanced
    exact ⟨.refl _, rfl, id⟩

/-- `ensure_enqueue` of the workspace of the analysis. -/
def ensureWorkspace (number : Nat) : RegistrationCall where
  scope := profileRef
  source := executionProfile.metadata
  workType := .workspacePrep
  subjectId := "a1"
  stableKey := some "workspace-prep:a1"
  drawnWorkId := ""
  candidateId := String.ofList (List.replicate number 'c')
  ids :=
    { requestRecordId := s!"request-{number}"
      actionId := s!"action-{number}"
      reservationRecordId := s!"reservation-{number}"
      reservationId := s!"r-{number}"
      now := 1 }

/-- The call is repeated under its key. -/
def repeatedCalls : RegistrationCalls where
  call := ensureWorkspace
  fresh := by
    intro left right same
    have lengths := congrArg List.length (String.ofList_injective same)
    simpa using lengths

/-- The candidate of the first call. -/
def workspaceWork : WorkExecutionState where
  metadata :=
    { metaOf "" "work_execution_state" with createdAt := 1 }
  workId := "stable-workspace-prep:a1"
  workType := .workspacePrep
  subjectId := "a1"
  inputHash := "inputs"
  dedupeKey := "workspace-prep:a1"
  statusShape := by decide
  typeShape := by decide

/-- The reservation of a call, released. -/
def releasedReservation : BudgetReservation where
  metadata := (metaOf "reservation-1" "budget_reservation").next ⟨"released-1", 4, 4⟩
  reservationId := "r-1"
  budgetBindingRef := profileRef
  actionRef := reference (.action ((ensureWorkspace 1).request workspaceWork))
  workRef := ⟨"c", "work_execution_state", "c", some "c", .run "a1"⟩
  requestedUnits := runnerUnits 1
  status := .released
  reservedAt := 1
  finalizedAt := some 4
  shape := by decide

/-- The transactions of a call up to its answer. -/
def registrationSteps (number : Nat) : List RegistrationStep :=
  [.stage number, .reserve number registrar.evidence,
    .authorize number registrar ⟨s!"decision-{number}", s!"d-{number}", 2⟩,
    .register number registrar ⟨s!"used-{number}", 3, 3⟩]

/-- The debit of the first registration. -/
def registrationDebit : BudgetLedgerEntry where
  metadata := metaOf "entry" "budget_ledger_entry"
  ledgerEntryId := "l-0"
  reservationRef :=
    reference (.reservation ((ensureWorkspace 0).reservation workspaceWork))
  budgetBindingRef := profileRef
  actionRef := reference (.action ((ensureWorkspace 0).request workspaceWork))
  workRef := reference (.work workspaceWork)
  actualUnits := runnerUnits 1
  sequence := 1
  committedAt := 4

/-- The request to make the work ready. -/
def readyAction : ActionRequest :=
  runnerAction ⟨"ready-request", "ready-action", "", "", 4⟩ workspaceWork .orchestration
    .changeWorkState

/-- The transition to ready. -/
def readyTransition : StateTransition where
  metadata := metaOf "transition" "state_transition"
  transitionId := "t-0"
  workId := workspaceWork.workId
  actionDecisionRef :=
    ⟨"ready-decision", "action_decision", "ready-decision", some "ready-decision", .run "a1"⟩
  fromStatus := .pending
  toStatus := .ready
  expectedStateVersion := 1
  newStateVersion := 2
  attemptId := none
  cause := "READY"
  createdAt := 4

/-- The first call debits its registration and makes the work ready. -/
def readySteps : List RegistrationStep :=
  [.debit ⟨"committed-0", 4, 4⟩ registrationDebit,
    .issue registrar ⟨"ready-decision", "d-ready", 4⟩ readyAction workspaceWork none,
    .ready registrar.toAuthority noProjections ⟨"ready-work", 5, 5⟩ ⟨"ready-used", 5, 5⟩
      readyTransition]

/-- The system after the first call. -/
def enqueuedOnce : RegistrationSystem :=
  repeatedCalls.run profileRecords profiledRuns profilePins (registrationSteps 0 ++ readySteps)

/-- The system after the second call. -/
def enqueuedTwice : RegistrationSystem :=
  repeatedCalls.run profileRecords profiledRuns profilePins
    (registrationSteps 0 ++ readySteps ++ registrationSteps 1 ++ [.release releasedReservation])

/-- The second call is answered with the ready work of the first and releases its reservation.
From then on neither search finds the scope of the work. -/
theorem repeatedKey_loses_scope :
    (enqueuedTwice.store.works.find "stable-workspace-prep:a1").map WorkRow.status = some .ready
      ∧ enqueuedTwice.store.reservations.rows.map ReservationRow.status = [.committed, .released]
      ∧ enqueuedTwice.store.registrationScope "stable-workspace-prep:a1"
        = .error (.lookupError "Exact record is not published")
      ∧ (enqueuedTwice.store.currentWork "stable-workspace-prep:a1" >>=
          enqueuedTwice.store.registrationContext) = .error scopeMissing := by
  refine ⟨by decide +kernel, by decide +kernel, by decide +kernel, by decide +kernel⟩

/-- After the first call both searches find the scope. -/
theorem registrationScope_kept_once : ScopesKept repeatedCalls enqueuedOnce "a1" := by
  apply registrationScope_kept
  intro number stray
  by_cases first : number = 0
  · subst first
    have registered : (enqueuedOnce.phase 0).registers.isSome = true := by decide +kernel
    rw [enqueuedOnce, stray.2] at registered
    cases registered
  · have idle : (enqueuedOnce.phase number) = .idle := by
      apply RegistrationCalls.foldl_phase
      simp [registrationSteps, readySteps, RegistrationStep.caller, Ne.symm first]
    rw [enqueuedOnce] at idle
    rw [idle] at stray
    cases stray.1

end Sastsimi.Storage.Concrete
