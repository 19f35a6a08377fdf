import Sastsimi.Hypotheses.Contracts
import Sastsimi.Storage.Store

/-!
# The registry of hypotheses

Published records, the pointers to their current revisions, works with their attempts, and the
journal of commits.  A record is staged in the transaction that publishes it.  Records stay what
they are, and a pointer moves from a revision to its successor only.
-/

namespace Sastsimi.Hypotheses

open Lib Sastsimi.Runtime Sastsimi.Storage

/-- A row of `transition_commits`: the request it was prepared for and its current payload. -/
structure CommitRow where
  transitionCommitId : String
  workId : String
  state : CommitState
  payload : TransitionCommit
  deriving DecidableEq

/-- The row with another payload. -/
def CommitRow.settled (row : CommitRow) (payload : TransitionCommit) : CommitRow :=
  { row with state := payload.state, payload }

theorem CommitRow.settled_id (row : CommitRow) (payload : TransitionCommit) :
    (row.settled payload).transitionCommitId = row.transitionCommitId := rfl

/-- The tables the hypotheses are kept in. -/
structure Registry where
  records : Table Entry.recordId := .empty
  pointers : Table PointerRow.logicalRecordId := .empty
  works : Table WorkRow.workId := .empty
  attempts : Table AttemptRow.attemptId := .empty
  commits : Table CommitRow.transitionCommitId := .empty

namespace Registry

variable [EntryHash] (store : Registry)

/-! ## Records -/

/-- `resolve`. -/
def resolve (ref : RecordRef) : Except PyError Entry := do
  let entry ← required (store.records.find (ref.recordId.getD "None"))
    (.lookupError "Exact record is not published")
  raiseIf (reference entry ≠ ref) (.valueError "RECORD_REVISION_MISMATCH: exact reference")
  .ok entry

/-- The published predecessor of a revision that has one must precede it exactly. -/
def checkPredecessor (current : RecordMeta) : Except PyError Unit :=
  match current.previousRecordId with
  | none => .ok ()
  | some previousId => do
      let previous ← required (store.records.find previousId)
        (.valueError "Missing published predecessor")
      validateRevision previous.metadata current

/-- Stage a record and publish it. -/
def save (entry : Entry) : Except PyError Registry :=
  match store.records.find entry.recordId with
  | some old =>
      if old = entry then .ok store
      else .error (.valueError "RECORD_REVISION_MISMATCH: immutable record ID")
  | none => do
      store.checkPredecessor entry.metadata
      raiseIf (store.records.rows.any (fun other =>
          decide (other.metadata.logicalRecordId = entry.metadata.logicalRecordId
            ∧ other.metadata.revisionNumber = entry.metadata.revisionNumber)) = true)
        .sqliteError
      let records ← required (store.records.insert entry) .sqliteError
      .ok { store with records }

variable {store} {after : Registry} {entry other : Entry} {ref : RecordRef}

theorem resolve_ok : store.resolve ref = .ok entry ↔
    store.records.find entry.recordId = some entry ∧ reference entry = ref := by
  constructor
  · intro resolved
    obtain ⟨found, looked, rest⟩ := except_bind_ok resolved
    obtain ⟨same, returned⟩ := raiseIf_bind_ok.1 rest
    cases returned
    obtain ⟨member, _⟩ := Table.find_eq_some.1 (required_ok.1 looked)
    exact ⟨Table.find_eq_some.2 ⟨member, rfl⟩, not_not.1 same⟩
  · rintro ⟨stored, rfl⟩
    have looked : store.records.find ((reference entry).recordId.getD "None") = some entry := stored
    simp [resolve, looked, required, raiseIf, bind, Except.bind]

omit [EntryHash] in
/-- A saved record was there, or is inserted. -/
theorem save_ok (saved : store.save entry = .ok after) :
    after = store ∧ store.records.find entry.recordId = some entry
      ∨ store.records.insert entry = some after.records
        ∧ after = { store with records := after.records } := by
  unfold save at saved
  split at saved
  · rename_i old found
    split at saved
    · rename_i same
      cases saved
      exact .inl ⟨rfl, same ▸ found⟩
    · cases saved
  · obtain ⟨_, _, rest⟩ := except_bind_ok saved
    obtain ⟨_, rest⟩ := raiseIf_bind_ok.1 rest
    obtain ⟨records, inserted, returned⟩ := except_bind_ok rest
    cases returned
    exact .inr ⟨required_ok.1 inserted, rfl⟩

omit [EntryHash] in
theorem save_frame (saved : store.save entry = .ok after) :
    after = { store with records := after.records } := by
  rcases save_ok saved with ⟨rfl, _⟩ | ⟨_, shape⟩
  · rfl
  · exact shape

omit [EntryHash] in
theorem mem_save (saved : store.save entry = .ok after) :
    other ∈ after.records.rows ↔ other ∈ store.records.rows ∨ other = entry := by
  rcases save_ok saved with ⟨rfl, found⟩ | ⟨inserted, _⟩
  · have present := (Table.find_eq_some.1 found).1
    constructor
    · exact .inl
    · rintro (stored | rfl)
      · exact stored
      · exact present
  · rw [(Table.insert_eq_some.1 inserted).2, List.mem_append, List.mem_singleton]

omit [EntryHash] in
/-- A record that was there stays what it is. -/
theorem save_find (saved : store.save entry = .ok after) {recordId : String}
    (found : store.records.find recordId = some other) :
    after.records.find recordId = some other := by
  obtain ⟨member, keyed⟩ := Table.find_eq_some.1 found
  exact Table.find_eq_some.2 ⟨(mem_save saved).2 (.inl member), keyed⟩

omit [EntryHash] in
theorem save_found (saved : store.save entry = .ok after) :
    after.records.find entry.recordId = some entry :=
  Table.find_eq_some.2 ⟨(mem_save saved).2 (.inr rfl), rfl⟩

variable (store)

/-! ## Current revisions -/

/-- The pointer to a revision, under a state version. -/
def pointer (current : RecordMeta) (stateVersion : Nat) : PointerRow :=
  ⟨current.logicalRecordId, current.recordId, stateVersion⟩

/-- Move the pointer of a logical record. -/
def movePointer (current : RecordMeta) (stateVersion : Nat) : Registry :=
  { store with
    pointers := store.pointers.update
      (fun row => decide (row.logicalRecordId = current.logicalRecordId))
      (fun row => row.moved (pointer current stateVersion))
      (fun row => row.moved_logicalRecordId (pointer current stateVersion)) }

/-- `publish_pointer`: a pointer moves from a revision to its successor. -/
def publishPointer (current : RecordMeta) : Except PyError Registry :=
  match store.pointers.find current.logicalRecordId with
  | none => do
      raiseIf (current.revisionNumber ≠ 1)
        (.valueError "RECORD_REVISION_MISMATCH: missing current predecessor")
      let pointers ← required (store.pointers.insert (pointer current 1)) .sqliteError
      .ok { store with pointers }
  | some old => do
      raiseIf (current.previousRecordId ≠ some old.recordId)
        (.valueError "STALE_RESULT: current record predecessor")
      .ok (store.movePointer current (old.stateVersion + 1))

omit [EntryHash] in
theorem movePointer_find {store : Registry} {current : RecordMeta} {stateVersion : Nat}
    {old : PointerRow} (found : store.pointers.find current.logicalRecordId = some old)
    (logicalRecordId : String) :
    (store.movePointer current stateVersion).pointers.find logicalRecordId =
      if logicalRecordId = current.logicalRecordId then some (pointer current stateVersion)
      else store.pointers.find logicalRecordId := by
  rw [movePointer, Table.find_update_key found, PointerRow.moved,
    (Table.find_eq_some.1 found).2]
  rfl

omit [EntryHash] in
/-- The published revision is the current one of its logical record. -/
theorem publishPointer_ok {store after : Registry} {current : RecordMeta}
    (published : store.publishPointer current = .ok after) :
    after = { store with pointers := after.pointers } ∧ ∃ stateVersion, ∀ logicalRecordId,
      after.pointers.find logicalRecordId =
        if logicalRecordId = current.logicalRecordId then some (pointer current stateVersion)
        else store.pointers.find logicalRecordId := by
  unfold publishPointer at published
  split at published
  · obtain ⟨_, rest⟩ := raiseIf_bind_ok.1 published
    obtain ⟨pointers, inserted, returned⟩ := except_bind_ok rest
    cases returned
    exact ⟨rfl, 1, fun _ => Table.find_insert (required_ok.1 inserted)⟩
  · rename_i old found
    obtain ⟨_, returned⟩ := raiseIf_bind_ok.1 published
    cases returned
    exact ⟨rfl, old.stateVersion + 1, movePointer_find found⟩

/-- Publish a record and make it the current revision. -/
def saveCurrent (entry : Entry) : Except PyError Registry := do
  let saved ← store.save entry
  saved.publishPointer entry.metadata

/-- `current`. -/
def checkCurrent (ref : RecordRef) : Except PyError Unit := do
  let value ← store.resolve ref
  raiseIf ((store.pointers.find value.metadata.logicalRecordId).map PointerRow.recordId
      ≠ ref.recordId)
    (.valueError "STALE_RESULT: current stage input superseded")

/-- The records that a pointer names. -/
def currentRecords : List Entry :=
  store.records.rows.filter fun entry =>
    store.pointers.rows.any fun row => decide (row.recordId = entry.recordId)

/-- The current records of a kind in the scope of a metadata. -/
def currentScoped {α : Type} (pick : Entry → Option α) (scope : RecordMeta) : List α :=
  (store.currentRecords.filter fun entry =>
    decide (scopeNames entry.metadata = scopeNames scope)).filterMap pick

/-! ## Works -/

/-- `WorkService.get`. -/
def currentWork (workId : String) : Except PyError WorkExecutionState := do
  let row ← required (store.works.find workId)
    (.lookupError "No row was found when one was required")
  .ok row.payload

/-! ## Committed results -/

/-- `exact`. -/
def exact (ref : RecordRef) (target : Entry) (consumer : RecordMeta) : Except PyError Unit := do
  raiseIf (target.metadata.analysisId ≠ consumer.analysisId)
    (.valueError "Consuming analysis mismatch or missing")
  raiseIf (reference target ≠ ref)
    (.valueError "RECORD_REVISION_MISMATCH: record_id/content_hash mismatch")

/-- `same_scope`. -/
def sameScope (left right : RecordMeta) : Except PyError Unit :=
  raiseIf (scopeNames left ≠ scopeNames right) (.valueError "RECORD_SCOPE_MISMATCH")

/-- `exact_set`. -/
def exactSet (actual expected : List RecordRef) : Except PyError Unit := do
  raiseIf (¬ actual.Nodup) (.valueError "DUPLICATE_REFERENCE")
  raiseIf (¬ (actual ⊆ expected ∧ expected ⊆ actual))
    (.valueError "RECORD_REVISION_MISMATCH: exact set closure")

/-- `validate_committed_output` of a record with an attempt. -/
def validateCommittedOutput (record : Entry) (work : WorkExecutionState) (attempt : WorkAttempt)
    (commit : TransitionCommit) (workType : WorkType) : Except PyError Unit := do
  exact (reference record) record work.metadata
  raiseIf (work.workType ≠ workType ∨ work.status ≠ .succeeded ∨ commit.state ≠ .committed)
    (.valueError "RESULT_NOT_COMMITTED")
  raiseIf (work.metadata.isCode = false ∨ attempt.metadata.isCode = false
      ∨ commit.metadata.isCode = false)
    (.valueError "METADATA_SCOPE_MISMATCH")
  sameScope record.metadata work.metadata
  sameScope record.metadata attempt.metadata
  sameScope record.metadata commit.metadata
  raiseIf (attemptOf record.metadata ≠ some attempt.attemptId)
    (.valueError "RESULT_ATTEMPT_MISMATCH")
  raiseIf (attempt.workId ≠ work.workId ∨ commit.workId ≠ work.workId
      ∨ attempt.inputHash ≠ work.inputHash ∨ commit.attemptId ≠ some attempt.attemptId)
    (.valueError "RESULT_WORK_ATTEMPT_MISMATCH")
  raiseIf (attempt.status ≠ .succeeded ∨ commit.targetStatus ≠ work.status
      ∨ commit.targetStateVersion ≠ work.stateVersion)
    (.valueError "RESULT_COMMIT_STATE_MISMATCH")
  let commitRef ← required work.lastTransitionCommitRef
    (.valueError "RESULT_COMMIT_REFERENCE_REQUIRED")
  exact commitRef (.commit commit) record.metadata
  exactSet work.outputRefs commit.outputRefs
  exactSet attempt.outputRefs commit.outputRefs
  raiseIf (reference record ∉ work.outputRefs) (.valueError "RESULT_OUTPUT_CLOSURE_MISMATCH")

/-- The committed rows that published a record. -/
def publishingCommits (ref : RecordRef) : List TransitionCommit :=
  (store.commits.rows.filter fun row =>
    decide (row.state = .committed ∧ ref ∈ row.payload.outputRefs)).map CommitRow.payload

/-- `require_committed`. -/
def requireCommitted (record : Entry) (workType : WorkType) : Except PyError Unit :=
  match store.publishingCommits (reference record) with
  | [commit] => do
      let work ← store.currentWork commit.workId
      let attempt ← required (store.attempts.find (commit.attemptId.getD "None"))
        (.lookupError "No row was found when one was required")
      validateCommittedOutput record work attempt.payload commit workType
  | _ => .error (.valueError "RESULT_NOT_COMMITTED")

end Registry

end Sastsimi.Hypotheses
