import Sastsimi.Lib.Table
import Sastsimi.Storage.Contracts

/-!
# Immutable records and their published revisions

`SQLiteRecordStore` keeps every staged record under its identifier and, separately, which
records are published.  Nothing is ever removed or replaced, so what a reference resolves to
stays the same while the store grows.
-/

namespace Sastsimi.Storage

open Lib Sastsimi.Runtime

variable [ContentHash]

/-- A row of `record_revisions`. -/
structure RevisionRow where
  recordId : String
  logicalRecordId : String
  revisionNumber : Nat
  deriving DecidableEq

/-- The revision a record is published as. -/
def Record.revision (record : Record) : RevisionRow where
  recordId := record.recordId
  logicalRecordId := record.metadata.logicalRecordId
  revisionNumber := record.metadata.revisionNumber

/-- The tables `records` and `record_revisions`. -/
structure RecordStore where
  records : Table Record.recordId := .empty
  revisions : Table RevisionRow.recordId := .empty

namespace RecordStore

variable {store before after : RecordStore} {ref : RecordRef} {record : Record}

/-- Whether a record is published. -/
def published (store : RecordStore) (recordId : String) : Bool :=
  (store.revisions.find recordId).isSome

/-- `resolve`.  The stored reference is the reference of the stored record, so equal references
have equal hashes. -/
def resolve (store : RecordStore) (ref : RecordRef) (candidate : Bool := false) :
    Except PyError Record := do
  let record ← required
    ((store.records.find (ref.recordId.getD "None")).filter fun record =>
      candidate || store.published record.recordId)
    (.lookupError "Exact record is not published")
  raiseIf (reference record ≠ ref) (.valueError "RECORD_REVISION_MISMATCH: exact reference")
  .ok record

/-- `stage`. -/
def stage (store : RecordStore) (record : Record) : Except PyError RecordStore :=
  match store.records.find record.recordId with
  | some old =>
      if old = record then .ok store
      else .error (.valueError "RECORD_REVISION_MISMATCH: immutable record ID")
  | none => do
      let records ← required (store.records.insert record) .sqliteError
      .ok { store with records }

/-- The published predecessor of a revision that has one must precede it exactly. -/
def checkPredecessor (store : RecordStore) (current : RecordMeta) : Except PyError Unit :=
  match current.previousRecordId with
  | none => .ok ()
  | some previousId => do
      let previous ← required
        ((store.records.find previousId).filter fun record => store.published record.recordId)
        (.valueError "Missing published predecessor")
      validateRevision previous.metadata current

/-- `publish`.  A logical record has one revision of each number. -/
def publish (store : RecordStore) (ref : RecordRef) : Except PyError RecordStore := do
  let record ← store.resolve ref true
  if store.published record.recordId = true then .ok store
  else do
    store.checkPredecessor record.metadata
    raiseIf (store.revisions.rows.any (fun row =>
        decide (row.logicalRecordId = record.metadata.logicalRecordId
          ∧ row.revisionNumber = record.metadata.revisionNumber)) = true)
      .sqliteError
    let revisions ← required (store.revisions.insert record.revision) .sqliteError
    .ok { store with revisions }

/-- Stage a record and publish it. -/
def save (store : RecordStore) (record : Record) : Except PyError RecordStore := do
  let staged ← store.stage record
  staged.publish (reference record)

/-! ## Growth -/

/-- The later store has the records and revisions of the earlier one. -/
structure Extends (before after : RecordStore) : Prop where
  records : ∀ {recordId record}, before.records.find recordId = some record →
    after.records.find recordId = some record
  published : ∀ {recordId}, before.published recordId = true → after.published recordId = true

omit [ContentHash] in
theorem Extends.refl (store : RecordStore) : Extends store store := ⟨id, id⟩

omit [ContentHash] in
theorem Extends.trans {middle : RecordStore} (first : Extends before middle)
    (second : Extends middle after) : Extends before after :=
  ⟨fun found => second.records (first.records found),
    fun published => second.published (first.published published)⟩

/-- A resolved record is stored under the identifier of its reference. -/
theorem resolve_ok {candidate : Bool} :
    store.resolve ref candidate = .ok record ↔
      store.records.find record.recordId = some record ∧ ref = reference record
        ∧ (candidate = false → store.published record.recordId = true) := by
  constructor
  · intro resolved
    obtain ⟨found, looked, rest⟩ := except_bind_ok resolved
    obtain ⟨same, returned⟩ := raiseIf_bind_ok.1 rest
    cases returned
    rw [required_ok] at looked
    obtain ⟨stored, visible⟩ := Option.filter_eq_some_iff.1 looked
    have keyed := (Table.find_eq_some.1 stored).2
    refine ⟨keyed ▸ stored, (not_not.1 same).symm, ?_⟩
    intro exact
    simpa [exact] using visible
  · rintro ⟨stored, rfl, visible⟩
    have looked : ((store.records.find ((reference record).recordId.getD "None")).filter
        fun record => candidate || store.published record.recordId) = some record := by
      rw [Option.filter_eq_some_iff]
      refine ⟨stored, ?_⟩
      cases candidate with
      | true => rfl
      | false => exact visible rfl
    rw [resolve, looked]
    simp [required, raiseIf, bind, Except.bind]

/-- What a reference resolves to stays the same. -/
theorem Extends.resolve (grows : Extends before after) {candidate : Bool}
    (resolved : before.resolve ref candidate = .ok record) :
    after.resolve ref candidate = .ok record := by
  rw [resolve_ok] at resolved ⊢
  obtain ⟨stored, same, visible⟩ := resolved
  exact ⟨grows.records stored, same, fun exact => grows.published (visible exact)⟩

omit [ContentHash] in
/-- The records only become more. -/
theorem Extends.length_le (grows : Extends before after) :
    before.records.rows.length ≤ after.records.rows.length := by
  apply List.Subperm.length_le
  apply List.subperm_of_subset (List.Nodup.of_map _ before.records.unique)
  intro record member
  have found : before.records.find record.recordId = some record :=
    Table.find_eq_some.2 ⟨member, rfl⟩
  exact (Table.find_eq_some.1 (grows.records found)).1

/-- A reference of a published record resolves to it as a candidate, too. -/
theorem resolve_candidate {candidate : Bool} (resolved : store.resolve ref = .ok record) :
    store.resolve ref candidate = .ok record := by
  rw [resolve_ok] at resolved ⊢
  exact ⟨resolved.1, resolved.2.1, fun _ => resolved.2.2 rfl⟩

/-- A reference resolves to one record. -/
theorem resolve_unique {other : Record} {first second : Bool}
    (resolved : store.resolve ref first = .ok record)
    (again : store.resolve ref second = .ok other) : record = other := by
  rw [resolve_ok] at resolved again
  have same : (reference record).recordId = (reference other).recordId := by
    rw [← resolved.2.1, ← again.2.1]
  have keyed : record.recordId = other.recordId := Option.some.inj same
  have stored := resolved.1
  rw [keyed, again.1] at stored
  exact (Option.some.inj stored).symm

omit [ContentHash] in
theorem stage_ok (staged : store.stage record = .ok after) :
    Extends store after ∧ after.records.find record.recordId = some record := by
  unfold stage at staged
  split at staged
  · rename_i old found
    split at staged
    · rename_i same
      cases staged
      exact ⟨.refl _, same ▸ found⟩
    · cases staged
  · obtain ⟨records, inserted, returned⟩ := except_bind_ok staged
    cases returned
    rw [required_ok] at inserted
    have looked := fun recordId => @Table.find_insert _ _ _ _ _ _ _ recordId inserted
    constructor
    · refine ⟨?_, id⟩
      intro recordId found stored
      have fresh := (Table.insert_eq_some.1 inserted).1
      rw [looked, if_neg]
      · exact stored
      · rintro rfl
        rw [fresh] at stored
        cases stored
    · simp [looked]

theorem publish_ok (published : store.publish ref = .ok after) :
    Extends store after ∧ ∃ record, store.resolve ref true = .ok record
      ∧ after.resolve ref = .ok record := by
  obtain ⟨record, resolved, rest⟩ := except_bind_ok published
  have stored := resolve_ok.1 resolved
  split at rest
  · rename_i visible
    cases rest
    exact ⟨.refl _, record, resolved, resolve_ok.2 ⟨stored.1, stored.2.1, fun _ => visible⟩⟩
  · obtain ⟨_, _, rest⟩ := except_bind_ok rest
    obtain ⟨_, rest⟩ := raiseIf_bind_ok.1 rest
    obtain ⟨revisions, inserted, returned⟩ := except_bind_ok rest
    cases returned
    rw [required_ok] at inserted
    have looked := fun recordId => @Table.find_insert _ _ _ _ _ _ _ recordId inserted
    refine ⟨⟨id, ?_⟩, record, resolved, resolve_ok.2 ⟨stored.1, stored.2.1, fun _ => ?_⟩⟩
    · intro recordId visible
      simp only [RecordStore.published, looked] at visible ⊢
      split
      · rfl
      · exact visible
    · simp [RecordStore.published, looked, Record.revision]

/-- A saved record is what its reference resolves to. -/
theorem save_ok (saved : store.save record = .ok after) :
    Extends store after ∧ after.resolve (reference record) = .ok record := by
  obtain ⟨staged, first, second⟩ := except_bind_ok saved
  obtain ⟨grows, stored⟩ := stage_ok first
  obtain ⟨extended, found, candidate, resolved⟩ := publish_ok second
  have expected : staged.resolve (reference record) true = .ok record :=
    resolve_ok.2 ⟨stored, rfl, by simp⟩
  have same := resolve_unique expected candidate
  subst same
  exact ⟨grows.trans extended, resolved⟩

/-! ## New records -/

/-- What publishing makes visible is the published record. -/
theorem publish_new {record other : Record} {target : RecordRef}
    (published : store.publish target = .ok after) (staged : store.resolve target true = .ok record)
    (resolved : after.resolve ref = .ok other) : store.resolve ref = .ok other ∨ other = record := by
  obtain ⟨found, visible, rest⟩ := except_bind_ok published
  obtain rfl := resolve_unique staged visible
  split at rest
  · cases rest
    exact .inl resolved
  · obtain ⟨_, _, rest⟩ := except_bind_ok rest
    obtain ⟨_, rest⟩ := raiseIf_bind_ok.1 rest
    obtain ⟨revisions, inserted, returned⟩ := except_bind_ok rest
    cases returned
    rw [required_ok] at inserted
    obtain ⟨stored, named, seen⟩ := resolve_ok.1 resolved
    have shown := seen rfl
    rw [RecordStore.published, Table.find_insert inserted] at shown
    split at shown
    · rename_i same
      right
      have keyed := (resolve_ok.1 staged).1
      have own : other.recordId = record.recordId := same
      rw [← own] at keyed
      exact Option.some.inj (stored.symm.trans keyed)
    · exact .inl (resolve_ok.2 ⟨stored, named, fun _ => shown⟩)

/-- What saving makes visible is the saved record. -/
theorem save_new {record other : Record} (saved : store.save record = .ok after)
    (resolved : after.resolve ref = .ok other) : store.resolve ref = .ok other ∨ other = record := by
  obtain ⟨staged, first, second⟩ := except_bind_ok saved
  have candidate : staged.resolve (reference record) true = .ok record :=
    resolve_ok.2 ⟨(stage_ok first).2, rfl, by simp⟩
  rcases publish_new second candidate resolved with old | new
  · unfold stage at first
    split at first
    · split at first
      · cases first
        exact .inl old
      · cases first
    · obtain ⟨records, inserted, returned⟩ := except_bind_ok first
      cases returned
      rw [required_ok] at inserted
      obtain ⟨stored, named, seen⟩ := resolve_ok.1 old
      rw [Table.find_insert inserted] at stored
      split at stored
      · cases stored
        exact .inr rfl
      · exact .inl (resolve_ok.2 ⟨stored, named, seen⟩)
  · exact .inr new

end RecordStore

end Sastsimi.Storage
