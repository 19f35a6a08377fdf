import Sastsimi.Hypotheses.ProposalWorks

/-!
# What the transactions keep

Every transaction keeps the published records, and what it publishes are no new states of a
hypothesis unless a commit registers one.  The rows of the works keep what they are registered
with, and a work that has ended is not touched again.
-/

namespace Sastsimi.Hypotheses

open Lib Sastsimi.Runtime Sastsimi.Storage

/-! ## States of a hypothesis -/

/-- The states a hypothesis has one of each. -/
inductive StateKind where
  | process
  | finding
  | report
  deriving DecidableEq

/-- The state of a hypothesis a record is. -/
def Entry.stateKind : Entry → Option StateKind
  | .process _ => some .process
  | .findingIndex _ => some .finding
  | .reportState _ => some .report
  | _ => none

/-- Two records are revisions of one state of one hypothesis. -/
structure Revises (earlier entry : Entry) : Prop where
  kind : earlier.stateKind = entry.stateKind
  logical : earlier.metadata.logicalRecordId = entry.metadata.logicalRecordId
  owner : hypothesisOf earlier.metadata = hypothesisOf entry.metadata

theorem Revises.trans {first second third : Entry} (earlier : Revises first second)
    (later : Revises second third) : Revises first third :=
  ⟨earlier.kind.trans later.kind, earlier.logical.trans later.logical,
    earlier.owner.trans later.owner⟩

/-- A record is no state of a hypothesis, or a revision of one that is there. -/
def Follows (store : Registry) (entry : Entry) : Prop :=
  entry.stateKind = none ∨ ∃ earlier ∈ store.records.rows, Revises earlier entry

theorem Follows.revised {store : Registry} {earlier entry : Entry}
    (follows : Follows store earlier) (revises : Revises earlier entry) : Follows store entry := by
  rcases follows with other | ⟨first, stored, revised⟩
  · exact .inl (revises.kind ▸ other)
  · exact .inr ⟨first, stored, revised.trans revises⟩

/-- The later registry has the records and the pointers of the earlier one, and no new states. -/
structure Grows (before after : Registry) : Prop where
  kept : ∀ entry ∈ before.records.rows, entry ∈ after.records.rows
  follows : ∀ entry ∈ after.records.rows, Follows before entry
  pointed : ∀ logicalRecordId, (before.pointers.find logicalRecordId).isSome = true →
    (after.pointers.find logicalRecordId).isSome = true

namespace Grows

variable {before middle after : Registry} {entry : Entry}

theorem of_member (member : entry ∈ before.records.rows) : Follows before entry :=
  .inr ⟨entry, member, ⟨rfl, rfl, rfl⟩⟩

theorem refl (store : Registry) : Grows store store :=
  ⟨fun _ member => member, fun _ => of_member, fun _ => id⟩

theorem trans (first : Grows before middle) (second : Grows middle after) :
    Grows before after where
  kept := fun entry member => second.kept entry (first.kept entry member)
  pointed := fun name found => second.pointed name (first.pointed name found)
  follows := by
    intro entry member
    rcases second.follows entry member with other | ⟨earlier, present, revises⟩
    · exact .inl other
    · exact (first.follows earlier present).revised revises

/-- Changes of the other tables. -/
theorem of_same (records : after.records = before.records)
    (pointers : after.pointers = before.pointers) : Grows before after where
  kept := by simp [records]
  follows := by
    intro entry member
    exact of_member (records ▸ member)
  pointed := by simp [pointers]

theorem save (saved : before.save entry = .ok after) (follows : Follows before entry) :
    Grows before after where
  kept := fun _ member => (Registry.mem_save saved).2 (.inl member)
  follows := by
    intro other member
    rcases (Registry.mem_save saved).1 member with stored | rfl
    · exact of_member stored
    · exact follows
  pointed := by
    rw [Registry.save_frame saved]
    exact fun _ => id

theorem of_pointers (current : PointerRow) (records : after.records = before.records)
    (moved : ∀ name, after.pointers.find name =
      if name = current.logicalRecordId then some current else before.pointers.find name) :
    Grows before after where
  kept := by simp [records]
  follows := by
    intro entry member
    exact of_member (records ▸ member)
  pointed := by
    intro name found
    rw [moved]
    split
    · rfl
    · exact found

theorem publishPointer {current : RecordMeta}
    (published : before.publishPointer current = .ok after) : Grows before after := by
  obtain ⟨shape, stateVersion, moved⟩ := Registry.publishPointer_ok published
  exact of_pointers (Registry.pointer current stateVersion) (by rw [shape]) moved

theorem point {work : WorkExecutionState} (pointed : before.point work = .ok after) :
    Grows before after := by
  obtain ⟨shape, moved⟩ := Registry.point_ok pointed
  exact of_pointers (Registry.pointer work.metadata work.stateVersion) (by rw [shape]) moved

theorem saveCurrent (saved : before.saveCurrent entry = .ok after)
    (follows : Follows before entry) : Grows before after := by
  obtain ⟨middle, saves, published⟩ := except_bind_ok saved
  exact (save saves follows).trans (publishPointer published)

/-- Publishing records that are no states of a hypothesis. -/
theorem saveAllCurrent {entries : List Entry} (saved : before.saveAllCurrent entries = .ok after)
    (stateless : ∀ entry ∈ entries, entry.stateKind = none) : Grows before after := by
  apply foldlM_keeps (fun member turned grows => ?_) saved (refl before)
  exact Grows.trans grows (saveCurrent turned (.inl (stateless _ member)))

theorem insertWork {key : String} {work : WorkExecutionState}
    (inserted : before.insertWork key work = .ok after) : Grows before after := by
  obtain ⟨_, rest⟩ := raiseIf_bind_ok.1 inserted
  obtain ⟨works, _, returned⟩ := except_bind_ok rest
  cases returned
  exact of_same rfl rfl

theorem moveWork {previous work : WorkExecutionState}
    (moved : before.moveWork previous work = .ok after) : Grows before after := by
  obtain ⟨_, returned⟩ := raiseIf_bind_ok.1 moved
  cases returned
  exact of_same rfl rfl

theorem replaceCurrent {previous current : RecordMeta}
    (replaced : before.replaceCurrent previous current = .ok after) : Grows before after := by
  obtain ⟨_, returned⟩ := raiseIf_bind_ok.1 replaced
  cases returned
  refine ⟨fun _ member => member, fun _ => of_member, ?_⟩
  intro name found
  rw [Table.find_update, Option.isSome_map]
  exact found

/-- The process of a verification is the next revision of one that is there. -/
theorem advanceVerificationWork [EntryHash] {stamp : Stamp} {previous work : WorkExecutionState}
    (advanced : before.advanceVerificationWork stamp previous work = .ok after) :
    Grows before after := by
  unfold Registry.advanceVerificationWork at advanced
  split at advanced
  · cases advanced
    exact refl _
  · split at advanced
    · cases advanced
      exact refl _
    · rename_i process found
      unfold Registry.trackVerification at advanced
      split at advanced
      · cases advanced
        exact refl _
      · obtain ⟨_, rest⟩ := raiseIf_bind_ok.1 advanced
        obtain ⟨_, rest⟩ := raiseIf_bind_ok.1 rest
        obtain ⟨updated, validated, rest⟩ := except_bind_ok rest
        obtain ⟨saved, saves, replaced⟩ := except_bind_ok rest
        have listed : process ∈ before.currentScoped Entry.process? work.metadata := by
          simp [found]
        have stored : Entry.process process ∈ before.records.rows := by
          obtain ⟨entry, member, picked⟩ := List.mem_filterMap.1 listed
          have same : entry = .process process := by
            cases entry <;> simp_all [Entry.process?]
          exact same ▸ (List.mem_filter.1 (List.mem_filter.1 member).1).1
        have revised : updated.metadata = process.metadata.next stamp := by
          rw [ProcessFields.validate_ok validated]
          rfl
        apply Grows.trans (save saves _) (Grows.replaceCurrent replaced)
        refine .inr ⟨_, stored, rfl, ?_, ?_⟩
        · rw [Entry.metadata, Entry.metadata, revised]
          rfl
        · rw [Entry.metadata, Entry.metadata, revised]
          rfl
    · cases advanced

theorem saveWork [EntryHash] {stamp : Stamp} {previous work : WorkExecutionState}
    (saved : before.saveWork stamp previous work = .ok after) : Grows before after := by
  obtain ⟨first, saves, rest⟩ := except_bind_ok saved
  obtain ⟨second, moves, rest⟩ := except_bind_ok rest
  obtain ⟨third, points, advanced⟩ := except_bind_ok rest
  exact (((save saves (.inl rfl)).trans (moveWork moves)).trans (point points)).trans
    (advanceVerificationWork advanced)

theorem endAttempt {stamp : Stamp} {previous work : WorkExecutionState}
    (ended : before.endAttempt stamp previous work = .ok after) : Grows before after := by
  unfold Registry.endAttempt at ended
  split at ended
  · cases ended
    exact refl _
  · obtain ⟨row, _, rest⟩ := except_bind_ok ended
    obtain ⟨saved, saves, returned⟩ := except_bind_ok rest
    cases returned
    exact (save saves (.inl rfl)).trans (of_same rfl rfl)

end Grows

/-! ## Rows of works -/

/-- The row of a work keeps what it is registered with, and an ended work stays as it is. -/
structure RowKeeps (row later : WorkRow) : Prop where
  workId : later.workId = row.workId
  key : later.registrationKey = row.registrationKey
  named : later.payload.workId = row.payload.workId
  workType : later.payload.workType = row.payload.workType
  inputRefs : later.payload.inputRefs = row.payload.inputRefs
  subjectId : later.payload.subjectId = row.payload.subjectId
  ended : row.payload.status.terminal = true → later.payload = row.payload

theorem RowKeeps.refl (row : WorkRow) : RowKeeps row row := ⟨rfl, rfl, rfl, rfl, rfl, rfl, fun _ => rfl⟩

theorem RowKeeps.trans {row later last : WorkRow} (first : RowKeeps row later)
    (second : RowKeeps later last) : RowKeeps row last where
  workId := second.workId.trans first.workId
  key := second.key.trans first.key
  named := second.named.trans first.named
  workType := second.workType.trans first.workType
  inputRefs := second.inputRefs.trans first.inputRefs
  subjectId := second.subjectId.trans first.subjectId
  ended := by
    intro closed
    have same := first.ended closed
    exact (second.ended (same ▸ closed)).trans same

/-- The rows of two registries correspond to each other. -/
structure KeepsRows (before after : Registry) : Prop where
  origin : ∀ later ∈ after.works.rows, ∃ row ∈ before.works.rows, RowKeeps row later
  outcome : ∀ row ∈ before.works.rows, ∃ later ∈ after.works.rows, RowKeeps row later

namespace KeepsRows

variable {before middle after : Registry}

theorem of_same (works : after.works = before.works) : KeepsRows before after where
  origin := fun later member => ⟨later, works ▸ member, .refl later⟩
  outcome := fun row member => ⟨row, works ▸ member, .refl row⟩

theorem trans (first : KeepsRows before middle) (second : KeepsRows middle after) :
    KeepsRows before after where
  origin := by
    intro last member
    obtain ⟨later, between, keeps⟩ := second.origin last member
    obtain ⟨row, stored, kept⟩ := first.origin later between
    exact ⟨row, stored, kept.trans keeps⟩
  outcome := by
    intro row member
    obtain ⟨later, between, kept⟩ := first.outcome row member
    obtain ⟨last, stored, keeps⟩ := second.outcome later between
    exact ⟨last, stored, kept.trans keeps⟩

/-- Changes of rows that keep each row. -/
theorem of_update {selects : WorkRow → Bool} {change : WorkRow → WorkRow}
    (same : ∀ row, (change row).workId = row.workId)
    (updated : after.works = before.works.update selects change same)
    (keeps : ∀ row ∈ before.works.rows, selects row = true → RowKeeps row (change row)) :
    KeepsRows before after := by
  have changed : ∀ row ∈ before.works.rows,
      RowKeeps row (if selects row then change row else row) := by
    intro row member
    split
    · rename_i selected
      exact keeps row member selected
    · exact RowKeeps.refl row
  constructor
  · intro later member
    rw [updated] at member
    obtain ⟨row, stored, rfl⟩ := List.mem_map.1 member
    exact ⟨row, stored, changed row stored⟩
  · intro row member
    rw [updated]
    exact ⟨_, List.mem_map.2 ⟨row, member, rfl⟩, changed row member⟩

/-- A revision of an open work, in a transaction that changes no other row. -/
theorem moveWork {row : WorkRow} {work : WorkExecutionState}
    (member : row ∈ before.works.rows) (own : row.payload.workId = row.workId)
    (named : work.workId = row.payload.workId) (workType : work.workType = row.payload.workType)
    (inputRefs : work.inputRefs = row.payload.inputRefs)
    (subjectId : work.subjectId = row.payload.subjectId)
    (openWork : row.payload.status.terminal = false)
    (moved : before.moveWork row.payload work = .ok after) : KeepsRows before after := by
  obtain ⟨_, returned⟩ := raiseIf_bind_ok.1 moved
  cases returned
  apply of_update (fun row => row.revised_workId work) rfl
  intro other stored selected
  simp only [Bool.and_eq_true, decide_eq_true_eq] at selected
  have same : other = row :=
    Table.eq_of_key stored member (selected.1.trans (named.trans own))
  subst same
  exact ⟨rfl, rfl, named, workType, inputRefs, subjectId, fun closed => by simp [openWork] at closed⟩

theorem clearLease (workId : String) : KeepsRows before (before.clearLease workId) := by
  have same : ∀ row : WorkRow, (unleased row).workId = row.workId := fun _ => rfl
  exact of_update same rfl fun _ _ _ => ⟨rfl, rfl, rfl, rfl, rfl, rfl, fun _ => rfl⟩

end KeepsRows

/-! ## Other tables -/

namespace Registry

variable {before after : Registry}

theorem save_works {entry : Entry} (saved : before.save entry = .ok after) :
    after.works = before.works := by
  rw [save_frame saved]

theorem saveCurrent_works {entry : Entry} (saved : before.saveCurrent entry = .ok after) :
    after.works = before.works := by
  obtain ⟨middle, saves, published⟩ := except_bind_ok saved
  rw [(publishPointer_ok published).1, ← save_works saves]

theorem saveAllCurrent_works {entries : List Entry}
    (saved : before.saveAllCurrent entries = .ok after) : after.works = before.works := by
  unfold saveAllCurrent at saved
  induction entries generalizing before with
  | nil =>
      cases saved
      rfl
  | cons entry rest ih =>
      obtain ⟨next, first, others⟩ := foldlM_cons_ok saved
      rw [ih others, saveCurrent_works first]

theorem endAttempt_works {stamp : Stamp} {previous work : WorkExecutionState}
    (ended : before.endAttempt stamp previous work = .ok after) : after.works = before.works := by
  unfold endAttempt at ended
  split at ended
  · cases ended
    rfl
  · obtain ⟨row, _, rest⟩ := except_bind_ok ended
    obtain ⟨saved, saves, returned⟩ := except_bind_ok rest
    cases returned
    have same := save_works saves
    exact same

theorem advanceVerificationWork_works [EntryHash] {stamp : Stamp}
    {previous work : WorkExecutionState}
    (advanced : before.advanceVerificationWork stamp previous work = .ok after) :
    after.works = before.works := by
  unfold advanceVerificationWork at advanced
  split at advanced
  · cases advanced
    rfl
  · split at advanced
    · cases advanced
      rfl
    · unfold trackVerification at advanced
      split at advanced
      · cases advanced
        rfl
      · obtain ⟨_, rest⟩ := raiseIf_bind_ok.1 advanced
        obtain ⟨_, rest⟩ := raiseIf_bind_ok.1 rest
        obtain ⟨updated, _, rest⟩ := except_bind_ok rest
        obtain ⟨saved, saves, replaced⟩ := except_bind_ok rest
        obtain ⟨_, returned⟩ := raiseIf_bind_ok.1 replaced
        cases returned
        have same := save_works saves
        exact same
    · cases advanced

/-- The work found under an identifier is the payload of its row. -/
theorem currentWork_ok {workId : String} {work : WorkExecutionState} :
    before.currentWork workId = .ok work ↔
      ∃ row, before.works.find workId = some row ∧ row.payload = work := by
  constructor
  · intro found
    obtain ⟨row, stored, returned⟩ := except_bind_ok found
    cases returned
    exact ⟨row, required_ok.1 stored, rfl⟩
  · rintro ⟨row, stored, rfl⟩
    simp [currentWork, stored, required, bind, Except.bind]

end Registry

namespace KeepsRows

variable {before after : Registry}

/-- `WorkService.save` of a revision of an open work. -/
theorem saveWork [EntryHash] {stamp : Stamp} {row : WorkRow} {work : WorkExecutionState}
    (member : row ∈ before.works.rows) (own : row.payload.workId = row.workId)
    (named : work.workId = row.payload.workId) (workType : work.workType = row.payload.workType)
    (inputRefs : work.inputRefs = row.payload.inputRefs)
    (subjectId : work.subjectId = row.payload.subjectId)
    (openWork : row.payload.status.terminal = false)
    (saved : before.saveWork stamp row.payload work = .ok after) : KeepsRows before after := by
  obtain ⟨first, saves, rest⟩ := except_bind_ok saved
  obtain ⟨second, moves, rest⟩ := except_bind_ok rest
  obtain ⟨third, points, advanced⟩ := except_bind_ok rest
  have same := Registry.save_works saves
  have kept := moveWork (same ▸ member) own named workType inputRefs subjectId openWork moves
  have later : after.works = second.works := by
    rw [Registry.advanceVerificationWork_works advanced, (Registry.point_ok points).1]
  exact ((of_same same).trans kept).trans (of_same later)

end KeepsRows

end Sastsimi.Hypotheses
