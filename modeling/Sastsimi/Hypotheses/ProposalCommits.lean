import Sastsimi.Hypotheses.Growth

/-!
# What a commit registers

A commit of a work that has not ended ends it or blocks it, registers one hypothesis for each of
its proposals when it registers any, and publishes the states of these hypotheses.
-/

namespace Sastsimi.Hypotheses

open Lib Sastsimi.Runtime Sastsimi.Storage

variable [EntryHash]

namespace Registry

variable {store after : Registry}

/-- The published proposals are registered with the identifiers drawn for them, in order. -/
theorem hypothesisProjection_ok {answers : CommitAnswers} {draw : Nat → ProjectionIds}
    {work : WorkExecutionState} {proposals : List HypothesisProposal}
    {projections : List Projection}
    (projected : store.hypothesisProjection answers draw work proposals = .ok projections) :
    projections = [] ∨ BatchDistinct proposals ∧ projections =
      (proposals.zip ((List.range proposals.length).map draw)).map
        fun drawn => projectionOf drawn.2 drawn.1 := by
  unfold hypothesisProjection at projected
  split at projected
  · cases projected
    exact .inl rfl
  · obtain ⟨distinct, mapped⟩ := raiseIf_bind_ok.1 projected
    refine .inr ⟨not_not.1 distinct, mapM_ok_eq ?_ mapped⟩
    intro drawn projection computed
    obtain ⟨_, _, rest⟩ := except_bind_ok computed
    obtain ⟨_, _, returned⟩ := except_bind_ok rest
    cases returned
    rfl

/-- An open work that a request may commit. -/
theorem check_ok {answers : CommitAnswers} {request : CommitRequest} {work : WorkExecutionState}
    (checked : store.check answers request = .ok work) :
    store.currentWork request.commit.workId = .ok work ∧ work.status.terminal = false := by
  obtain ⟨_, rest⟩ := raiseIf_bind_ok.1 checked
  obtain ⟨found, current, rest⟩ := except_bind_ok rest
  obtain ⟨_, context, rest⟩ := except_bind_ok rest
  obtain ⟨_, _, rest⟩ := except_bind_ok rest
  obtain ⟨_, _, rest⟩ := except_bind_ok rest
  obtain ⟨_, _, rest⟩ := except_bind_ok rest
  obtain ⟨_, _, returned⟩ := except_bind_ok rest
  cases returned
  obtain ⟨_, _, rest⟩ := except_bind_ok context
  obtain ⟨matching, _⟩ := raiseIf_bind_ok.1 rest
  have from_status : request.transition.fromStatus = work.status := by
    by_contra differs
    exact matching (.inr (.inr differs))
  refine ⟨current, ?_⟩
  have allowed := request.allowed
  have target := request.committable
  rw [from_status] at allowed
  rw [request.targetStatus] at target
  cases status : work.status <;> cases reached : request.transition.toStatus <;>
    simp_all [allowedTransition, WorkStatus.terminal]

omit [EntryHash] in
/-- The row of a work that is moved. -/
theorem moveWork_row {previous work : WorkExecutionState}
    (moved : store.moveWork previous work = .ok after) :
    ∃ later ∈ after.works.rows, later.workId = work.workId ∧ later.payload = work := by
  obtain ⟨counted, returned⟩ := raiseIf_bind_ok.1 moved
  cases returned
  have keyed : ∀ row : WorkRow, (decide (row.workId = work.workId)
      && decide (row.stateVersion = previous.stateVersion)) = true → row.workId = work.workId := by
    intro row selected
    simp only [Bool.and_eq_true, decide_eq_true_eq] at selected
    exact selected.1
  obtain ⟨row, found, selected⟩ := (Table.count_eq_one keyed).1 (not_not.1 counted)
  obtain ⟨member, named⟩ := Table.find_eq_some.1 found
  refine ⟨row.revised work, List.mem_map.2 ⟨row, member, ?_⟩, named, rfl⟩
  rw [if_pos selected]

theorem saveWork_row {stamp : Stamp} {previous work : WorkExecutionState}
    (saved : store.saveWork stamp previous work = .ok after) :
    ∃ later ∈ after.works.rows, later.workId = work.workId ∧ later.payload = work := by
  obtain ⟨first, saves, rest⟩ := except_bind_ok saved
  obtain ⟨second, moves, rest⟩ := except_bind_ok rest
  obtain ⟨third, points, advanced⟩ := except_bind_ok rest
  have same : after.works = second.works := by
    rw [advanceVerificationWork_works advanced, (point_ok points).1]
  rw [same]
  exact moveWork_row moves

omit [EntryHash] in
/-- What the records of a list are when all of them are published as current ones. -/
theorem saveAllCurrent_ok {entries : List Entry}
    (saved : store.saveAllCurrent entries = .ok after) :
    (∀ entry, entry ∈ after.records.rows ↔ entry ∈ store.records.rows ∨ entry ∈ entries)
      ∧ (∀ name, (store.pointers.find name).isSome = true →
        (after.pointers.find name).isSome = true)
      ∧ ∀ entry ∈ entries, (after.pointers.find entry.metadata.logicalRecordId).isSome = true := by
  unfold saveAllCurrent at saved
  induction entries generalizing store with
  | nil =>
      cases saved
      simp
  | cons entry rest ih =>
      obtain ⟨next, first, others⟩ := foldlM_cons_ok saved
      obtain ⟨middle, saves, published⟩ := except_bind_ok first
      obtain ⟨shape, stateVersion, moved⟩ := publishPointer_ok published
      obtain ⟨members, pointed, current⟩ := ih others
      have records : next.records = middle.records := by rw [shape]
      have pointers : middle.pointers = store.pointers := by rw [save_frame saves]
      have own : (next.pointers.find entry.metadata.logicalRecordId).isSome = true := by
        rw [moved, if_pos rfl]
        rfl
      refine ⟨?_, ?_, ?_⟩
      · intro other
        rw [members, records, mem_save saves, List.mem_cons, or_assoc]
      · intro name found
        apply pointed
        rw [moved]
        split
        · rfl
        · rw [pointers]
          exact found
      · intro other member
        rcases List.mem_cons.1 member with rfl | later
        · exact pointed _ own
        · exact current other later

end Registry

/-! ## Finished commits -/

/-- What the second transaction of a commit has done. -/
structure Finished (store after : Registry) (stamps : CommitStamps) (request : CommitRequest)
    (previous : WorkExecutionState) (projections : List Projection) : Prop where
  row : ∃ row, store.works.find request.commit.workId = some row ∧ row.payload = previous
  opened : previous.status.terminal = false
  projected : projections = [] ∨ BatchDistinct request.proposals ∧ projections =
    (request.proposals.zip ((List.range request.proposals.length).map stamps.draw)).map
      fun drawn => projectionOf drawn.2 drawn.1
  kept : ∀ entry ∈ store.records.rows, entry ∈ after.records.rows
  follows : ∀ entry ∈ after.records.rows, Follows store entry
    ∨ ∃ state ∈ projections.flatMap Projection.entries, Revises state entry
  published : ∀ entry ∈ projections.flatMap Projection.entries, entry ∈ after.records.rows
  pointed : ∀ name, (store.pointers.find name).isSome = true →
    (after.pointers.find name).isSome = true
  current : ∀ entry ∈ projections.flatMap Projection.entries,
    (after.pointers.find entry.metadata.logicalRecordId).isSome = true
  rows : (∀ row ∈ store.works.rows, row.payload.workId = row.workId) → KeepsRows store after
  settled : ∃ later ∈ after.works.rows, later.workId = previous.workId
    ∧ later.payload.status = request.commit.targetStatus

namespace Registry

variable {store after : Registry}

theorem finish_ok {answers : CommitAnswers} {stamps : CommitStamps} {request : CommitRequest}
    {previous : WorkExecutionState} {projections : List Projection}
    (finished : store.finish answers stamps request = .ok (after, previous, projections)) :
    Finished store after stamps request previous projections := by
  obtain ⟨work, checked, rest⟩ := except_bind_ok finished
  obtain ⟨recorded, records, rest⟩ := except_bind_ok rest
  obtain ⟨published, publishes, rest⟩ := except_bind_ok rest
  obtain ⟨listed, projects, rest⟩ := except_bind_ok rest
  obtain ⟨projected, states, rest⟩ := except_bind_ok rest
  obtain ⟨next, validated, rest⟩ := except_bind_ok rest
  obtain ⟨ended, ends, rest⟩ := except_bind_ok rest
  obtain ⟨saved, saves, returned⟩ := except_bind_ok rest
  cases returned
  obtain ⟨current, opened⟩ := check_ok checked
  obtain ⟨row, found, payload⟩ := currentWork_ok.1 current
  obtain ⟨stored, named⟩ := Table.find_eq_some.1 found
  have fields := WorkFields.validate_ok validated
  have stateless : ∀ entry ∈ request.records, entry.stateKind = none := by
    intro entry member
    obtain ⟨proposal, _, rfl⟩ := List.mem_map.1 member
    rfl
  have before : Grows store published :=
    (Grows.save records (.inl rfl)).trans (Grows.saveAllCurrent publishes stateless)
  have behind : Grows projected saved := (Grows.endAttempt ends).trans (Grows.saveWork saves)
  obtain ⟨members, pointed, pointing⟩ := saveAllCurrent_ok states
  have unchanged : ended.works = store.works := by
    rw [endAttempt_works ends, saveAllCurrent_works states, saveAllCurrent_works publishes,
      save_works records]
  exact
    { row := ⟨row, found, payload⟩
      opened
      projected := hypothesisProjection_ok projects
      kept := fun entry member =>
        behind.kept entry ((members entry).2 (.inl (before.kept entry member)))
      published := fun entry member => behind.kept entry ((members entry).2 (.inr member))
      pointed := fun name pointer => behind.pointed name (pointed name (before.pointed name pointer))
      current := fun entry member => behind.pointed _ (pointing entry member)
      follows := by
        intro entry member
        rcases behind.follows entry member with other | ⟨earlier, present, revises⟩
        · exact .inl (.inl other)
        · rcases (members earlier).1 present with old | new
          · exact .inl ((before.follows earlier old).revised revises)
          · exact .inr ⟨earlier, new, revises⟩
      rows := by
        intro own
        subst payload
        have kept := KeepsRows.saveWork (unchanged ▸ stored) (own row stored)
          (by rw [fields]; rfl) (by rw [fields]; rfl) (by rw [fields]; rfl) (by rw [fields]; rfl)
          opened saves
        have cleared : KeepsRows saved (saved.clearLease next.workId) :=
          KeepsRows.clearLease next.workId
        exact (((KeepsRows.of_same unchanged).trans kept).trans cleared).trans
          (KeepsRows.of_same rfl)
      settled := by
        obtain ⟨later, member, identified, revised⟩ := saveWork_row saves
        have same : next.workId = previous.workId := by
          rw [fields]
          rfl
        refine ⟨unleased later, List.mem_map.2 ⟨later, member, ?_⟩, identified.trans same, ?_⟩
        · rw [if_pos (decide_eq_true identified)]
        · have status : next.status = request.commit.targetStatus := by
            rw [fields]
            rfl
          rw [← status, ← revised]
          rfl }

end Registry

end Sastsimi.Hypotheses
