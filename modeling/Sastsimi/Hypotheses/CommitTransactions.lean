import Sastsimi.Hypotheses.CommitCalls
import Sastsimi.Hypotheses.ProposalOnce

/-!
# What the transactions of a commit add

Every transaction keeps the records, publishes no other commits and proposals than its own, and
the versions of the works only grow.
-/

namespace Sastsimi.Hypotheses

open Lib Sastsimi.Runtime Sastsimi.Storage

/-! ## Additions -/

/-- A record that is neither a commit nor a proposal. -/
def Entry.isSilent : Entry → Bool
  | .commit _ | .proposal _ => false
  | _ => true

/-- The row of a work has the identifier of the work. -/
def Named (store : Registry) : Prop := ∀ row ∈ store.works.rows, row.payload.workId = row.workId

/-- What a transaction adds to the records and to the works, besides silent records. -/
structure Adds (before after : Registry) (added : List Entry) : Prop where
  kept : ∀ entry ∈ before.records.rows, entry ∈ after.records.rows
  present : ∀ entry ∈ added, entry ∈ after.records.rows
  origin : ∀ entry ∈ after.records.rows,
    entry ∈ before.records.rows ∨ entry ∈ added ∨ entry.isSilent = true
  named : Named before → Named after
  versions : ∀ row ∈ before.works.rows, ∃ later ∈ after.works.rows,
    later.workId = row.workId ∧ row.payload.stateVersion ≤ later.payload.stateVersion

/-- A transaction that leaves the rows of the commits as they are. -/
structure Publishes (before after : Registry) (added : List Entry) : Prop extends
    Adds before after added where
  commits : after.commits = before.commits

namespace Adds

variable {before middle after : Registry} {first second : List Entry}

theorem of_same (records : after.records = before.records) (works : after.works = before.works) :
    Adds before after [] where
  kept := by simp [records]
  present := by simp
  origin := by simp_all
  named := by simp [Named, works]
  versions := fun row member => ⟨row, works ▸ member, rfl, Nat.le_refl _⟩

theorem trans (earlier : Adds before middle first) (later : Adds middle after second) :
    Adds before after (first ++ second) where
  kept := fun entry member => later.kept entry (earlier.kept entry member)
  present := by
    intro entry member
    rcases List.mem_append.1 member with old | new
    · exact later.kept entry (earlier.present entry old)
    · exact later.present entry new
  origin := by
    intro entry member
    rw [List.mem_append]
    rcases later.origin entry member with stored | new | silent
    · rcases earlier.origin entry stored with older | old | silent
      · exact .inl older
      · exact .inr (.inl (.inl old))
      · exact .inr (.inr silent)
    · exact .inr (.inl (.inr new))
    · exact .inr (.inr silent)
  named := fun named => later.named (earlier.named named)
  versions := by
    intro row member
    obtain ⟨next, between, same, grown⟩ := earlier.versions row member
    obtain ⟨last, stored, again, grows⟩ := later.versions next between
    exact ⟨last, stored, again.trans same, grown.trans grows⟩

/-- Settling a row adds nothing. -/
theorem settled (adds : Adds before after first) (final : TransitionCommit) :
    Adds before (after.settle final) first := by
  have same : Adds after (after.settle final) [] := of_same rfl rfl
  simpa using adds.trans same

/-- Silent records are not counted as additions. -/
theorem silent (adds : Adds before after first) (quiet : ∀ entry ∈ first, entry.isSilent = true) :
    Adds before after [] where
  kept := adds.kept
  present := by simp
  origin := by
    intro entry member
    rcases adds.origin entry member with stored | new | silent
    · exact .inl stored
    · exact .inr (.inr (quiet entry new))
    · exact .inr (.inr silent)
  named := adds.named
  versions := adds.versions

end Adds

namespace Publishes

variable {before middle after : Registry} {first second : List Entry}

theorem of_same (records : after.records = before.records) (works : after.works = before.works)
    (commits : after.commits = before.commits) : Publishes before after [] :=
  ⟨.of_same records works, commits⟩

theorem refl (store : Registry) : Publishes store store [] := .of_same rfl rfl rfl

theorem trans (earlier : Publishes before middle first) (later : Publishes middle after second) :
    Publishes before after (first ++ second) :=
  ⟨earlier.toAdds.trans later.toAdds, later.commits.trans earlier.commits⟩

theorem silent (publishes : Publishes before after first)
    (quiet : ∀ entry ∈ first, entry.isSilent = true) : Publishes before after [] :=
  ⟨publishes.toAdds.silent quiet, publishes.commits⟩

theorem save {entry : Entry} (saved : before.save entry = .ok after) :
    Publishes before after [entry] := by
  have shape := Registry.save_frame saved
  constructor
  · exact
      { kept := fun other member => (Registry.mem_save saved).2 (.inl member)
        present := by simp [Registry.mem_save saved]
        origin := by
          intro other member
          rcases (Registry.mem_save saved).1 member with stored | rfl
          · exact .inl stored
          · exact .inr (.inl (List.mem_singleton_self _))
        named := by
          rw [shape]
          exact id
        versions := by
          rw [shape]
          exact fun row member => ⟨row, member, rfl, Nat.le_refl _⟩ }
  · rw [shape]

/-- A silent record is saved. -/
theorem saveSilent {entry : Entry} (quiet : entry.isSilent = true)
    (saved : before.save entry = .ok after) : Publishes before after [] :=
  (save saved).silent (by simpa using quiet)

theorem saveCurrent {entry : Entry} (saved : before.saveCurrent entry = .ok after) :
    Publishes before after [entry] := by
  obtain ⟨middle, saves, published⟩ := except_bind_ok saved
  have shape := (Registry.publishPointer_ok published).1
  have pointed : Publishes middle after [] := by
    rw [shape]
    exact of_same rfl rfl rfl
  exact (save saves).trans pointed

theorem saveAllCurrent {entries : List Entry} (saved : before.saveAllCurrent entries = .ok after) :
    Publishes before after entries := by
  unfold Registry.saveAllCurrent at saved
  induction entries generalizing before with
  | nil =>
      cases saved
      exact refl _
  | cons entry rest ih =>
      obtain ⟨next, turned, others⟩ := foldlM_cons_ok saved
      exact (saveCurrent turned).trans (ih others)

theorem point {work : WorkExecutionState} (pointed : before.point work = .ok after) :
    Publishes before after [] := by
  rw [(Registry.point_ok pointed).1]
  exact of_same rfl rfl rfl

/-- A pending work gets a row of its own. -/
theorem registerPending {key : String} {work : WorkExecutionState}
    (registered : before.registerPending key work = .ok after) : Publishes before after [] := by
  obtain ⟨saved, saves, rest⟩ := except_bind_ok registered
  obtain ⟨inserted, inserts, pointed⟩ := except_bind_ok rest
  obtain ⟨row, own, payload, rows⟩ := Registry.insertWork_rows inserts
  obtain ⟨_, unfolded⟩ := raiseIf_bind_ok.1 inserts
  obtain ⟨works, _, returned⟩ := except_bind_ok unfolded
  cases returned
  have member : ∀ other, other ∈ works.rows ↔ other ∈ saved.works.rows ∨ other = row := by
    intro other
    rw [rows, List.mem_append, List.mem_singleton]
  have adds : Publishes saved { saved with works } [] := by
    constructor
    · exact
        { kept := fun _ => id
          present := by simp
          origin := fun entry stored => .inl stored
          named := by
            intro named other stored
            rcases (member other).1 stored with old | rfl
            · exact named other old
            · rw [payload, own]
          versions := fun other stored =>
            ⟨other, (member other).2 (.inl stored), rfl, Nat.le_refl _⟩ }
    · rfl
  exact ((saveSilent rfl saves).trans adds).trans (point pointed)

/-- The version of a work is at least that of the rows of its identifier. -/
def Newest (store : Registry) (work : WorkExecutionState) : Prop :=
  ∀ row ∈ store.works.rows, row.workId = work.workId →
    row.payload.stateVersion ≤ work.stateVersion

theorem moveWork {previous work : WorkExecutionState} (newest : Newest before work)
    (moved : before.moveWork previous work = .ok after) : Publishes before after [] := by
  obtain ⟨_, returned⟩ := raiseIf_bind_ok.1 moved
  cases returned
  constructor
  · exact
      { kept := fun _ => id
        present := by simp
        origin := fun entry stored => .inl stored
        named := by
          intro named later member
          obtain ⟨row, stored, rfl⟩ := List.mem_map.1 member
          split
          · rename_i selected
            simp only [Bool.and_eq_true, decide_eq_true_eq] at selected
            exact selected.1.symm
          · exact named row stored
        versions := by
          intro row stored
          apply Exists.intro _
          apply And.intro (List.mem_map_of_mem stored)
          split
          · rename_i selected
            simp only [Bool.and_eq_true, decide_eq_true_eq] at selected
            exact ⟨rfl, newest row stored selected.1⟩
          · exact ⟨rfl, Nat.le_refl _⟩ }
  · rfl

theorem advanceVerificationWork [EntryHash] {stamp : Stamp} {previous work : WorkExecutionState}
    (advanced : before.advanceVerificationWork stamp previous work = .ok after) :
    Publishes before after [] := by
  unfold Registry.advanceVerificationWork at advanced
  split at advanced
  · cases advanced
    exact refl _
  · split at advanced
    · cases advanced
      exact refl _
    · unfold Registry.trackVerification at advanced
      split at advanced
      · cases advanced
        exact refl _
      · obtain ⟨_, rest⟩ := raiseIf_bind_ok.1 advanced
        obtain ⟨_, rest⟩ := raiseIf_bind_ok.1 rest
        obtain ⟨updated, _, rest⟩ := except_bind_ok rest
        obtain ⟨saved, saves, replaced⟩ := except_bind_ok rest
        obtain ⟨_, returned⟩ := raiseIf_bind_ok.1 replaced
        cases returned
        apply trans (saveSilent rfl saves)
        exact of_same rfl rfl rfl
    · cases advanced

theorem saveWork [EntryHash] {stamp : Stamp} {previous work : WorkExecutionState}
    (newest : Newest before work) (saved : before.saveWork stamp previous work = .ok after) :
    Publishes before after [] := by
  obtain ⟨first, saves, rest⟩ := except_bind_ok saved
  obtain ⟨second, moves, rest⟩ := except_bind_ok rest
  obtain ⟨third, points, advanced⟩ := except_bind_ok rest
  have same : Newest first work := by
    rw [Newest, Registry.save_works saves]
    exact newest
  exact (((saveSilent rfl saves).trans (moveWork same moves)).trans (point points)).trans
    (advanceVerificationWork advanced)

theorem endAttempt {stamp : Stamp} {previous work : WorkExecutionState}
    (ended : before.endAttempt stamp previous work = .ok after) : Publishes before after [] := by
  unfold Registry.endAttempt at ended
  split at ended
  · cases ended
    exact refl _
  · obtain ⟨row, _, rest⟩ := except_bind_ok ended
    obtain ⟨saved, saves, returned⟩ := except_bind_ok rest
    cases returned
    apply trans (saveSilent rfl saves)
    exact of_same rfl rfl rfl

theorem cancelAttempt {ids : CancelIds} {work : WorkExecutionState}
    (ended : before.cancelAttempt ids work = .ok after) : Publishes before after [] := by
  unfold Registry.cancelAttempt at ended
  split at ended
  · cases ended
    exact refl _
  · obtain ⟨row, _, rest⟩ := except_bind_ok ended
    obtain ⟨saved, saves, returned⟩ := except_bind_ok rest
    cases returned
    apply trans (saveSilent rfl saves)
    exact of_same rfl rfl rfl

theorem clearLease (workId : String) : Publishes before (before.clearLease workId) [] := by
  constructor
  · exact
      { kept := fun _ => id
        present := by simp
        origin := fun entry stored => .inl stored
        named := by
          intro named later member
          obtain ⟨row, stored, rfl⟩ := List.mem_map.1 member
          split <;> exact named row stored
        versions := by
          intro row stored
          apply Exists.intro _
          apply And.intro (List.mem_map_of_mem stored)
          split <;> exact ⟨rfl, Nat.le_refl _⟩ }
  · rfl

end Publishes

/-! ## Transactions -/

variable [EntryHash]

section Works

variable {store after : Registry} {previous work : WorkExecutionState} {workId : String}

omit [EntryHash] in
/-- A later version of the work in a row is the newest. -/
theorem Publishes.Newest.of_row {row : WorkRow} (member : row ∈ store.works.rows)
    (own : work.workId = row.workId) (grows : row.payload.stateVersion ≤ work.stateVersion) :
    Publishes.Newest store work := by
  intro other stored same
  rw [Table.eq_of_key stored member (same.trans own)]
  exact grows

omit [EntryHash] in
/-- A work is read from the row of its identifier. -/
theorem row_of_current (named : Named store) (current : store.currentWork workId = .ok previous) :
    ∃ row ∈ store.works.rows, previous.workId = row.workId ∧ row.payload = previous := by
  obtain ⟨row, found, rfl⟩ := Registry.currentWork_ok.1 current
  have member := (Table.find_eq_some.1 found).1
  exact ⟨row, member, named row member, rfl⟩

/-- The row of a saved work, after its lease was cleared. -/
theorem saveWork_cleared {stamp : Stamp} (saved : store.saveWork stamp previous work = .ok after) :
    ∃ row ∈ (after.clearLease work.workId).works.rows, row.workId = work.workId
      ∧ row.payload = work := by
  obtain ⟨row, member, own, payload⟩ := Registry.saveWork_row saved
  refine ⟨unleased row, List.mem_map.2 ⟨row, member, ?_⟩, own, payload⟩
  exact if_pos (decide_eq_true own)

/-- A child's work is registered and made ready. -/
theorem Publishes.enqueues {answer : Except PyError Unit} {ids : ChildIds} {ref : RecordRef}
    {proposalId : String}
    (enqueued : store.enqueueReady answer ids ref proposalId = .ok (after, work)) :
    Publishes store after [] := by
  obtain ⟨_, rest⟩ := raiseIf_bind_ok.1 enqueued
  obtain ⟨source, _, rest⟩ := except_bind_ok rest
  obtain ⟨_, _, rest⟩ := except_bind_ok rest
  split at rest
  · cases rest
    exact refl _
  · obtain ⟨pending, _, rest⟩ := except_bind_ok rest
    obtain ⟨registered, registers, made⟩ := except_bind_ok rest
    obtain ⟨transitioned, transitions, rest⟩ := except_bind_ok made
    obtain ⟨ready, validated, rest⟩ := except_bind_ok rest
    obtain ⟨saved, saves, returned⟩ := except_bind_ok rest
    cases returned
    obtain ⟨_, row, own, payload, rows⟩ := Registry.registerPending_ok registers
    have fields := WorkMove.validated_ok validated
    have member : row ∈ transitioned.works.rows := by
      rw [Registry.save_works transitions, rows]
      simp
    have newest : Newest transitioned work := by
      apply Newest.of_row member
      · rw [fields, own]
        rfl
      · rw [fields, payload]
        exact Nat.le_succ _
    exact ((registerPending registers).trans (saveSilent rfl transitions)).trans
      (saveWork newest saves)

theorem Publishes.moves (named : Named store) {answer : Except PyError Unit}
    {stamp process : Stamp} {change : WorkMove}
    (moved : store.moveTo answer stamp process change workId = .ok (after, work)) :
    Publishes store after [] := by
  obtain ⟨previous, current, rest⟩ := except_bind_ok moved
  obtain ⟨_, _, rest⟩ := except_bind_ok rest
  obtain ⟨_, rest⟩ := raiseIf_bind_ok.1 rest
  obtain ⟨next, validated, rest⟩ := except_bind_ok rest
  obtain ⟨saved, saves, returned⟩ := except_bind_ok rest
  cases returned
  obtain ⟨row, member, own, rfl⟩ := row_of_current named current
  have fields := WorkMove.validated_ok validated
  apply saveWork (Newest.of_row member _ _) saves
  · rw [fields]
    exact own
  · rw [fields]
    exact Nat.le_succ _

/-- A transaction of another service publishes no commit and no proposal. -/
theorem WorkStep.publishes {system : System} (named : Named system.store) (taken : WorkStep) :
    Publishes system.store (system.step taken.step).store [] := by
  unfold System.step
  split
  · rename_i next performed
    cases taken with
    | enqueue answer ids sourceRef proposalId =>
        obtain ⟨⟨store, work⟩, enqueued, returned⟩ := except_bind_ok performed
        cases returned
        exact .enqueues enqueued
    | register answer work =>
        obtain ⟨⟨store, kept⟩, registered, returned⟩ := except_bind_ok performed
        cases returned
        unfold Registry.registerWork at registered
        split at registered
        · cases registered
          exact .refl _
        · obtain ⟨_, rest⟩ := raiseIf_bind_ok.1 registered
          obtain ⟨_, _, rest⟩ := except_bind_ok rest
          obtain ⟨pending, registers, returned⟩ := except_bind_ok rest
          cases returned
          exact .registerPending registers
    | move answer stamp process change workId =>
        obtain ⟨⟨store, work⟩, moved, returned⟩ := except_bind_ok performed
        cases returned
        exact .moves named moved
  · exact .refl _

end Works

section Commits

variable {store after : Registry} {request : CommitRequest}

omit [EntryHash] in
/-- The rows after a prepared row was settled. -/
theorem mem_settle {committed : TransitionCommit} {row : CommitRow} :
    row ∈ (store.settle committed).commits.rows ↔ ∃ old ∈ store.commits.rows,
      row = if old.transitionCommitId = committed.transitionCommitId ∧ old.state = .prepared
        then old.settled committed else old := by
  simp only [Registry.settle, Table.update, List.mem_map, decide_eq_true_eq, @eq_comm _ row]

omit [EntryHash] in
theorem settle_commits {committed : TransitionCommit} (same : after.commits = store.commits) :
    (after.settle committed).commits = (store.settle committed).commits := by
  rw [Registry.settle, Registry.settle, same]

/-- The row of a request that was journaled. -/
def preparedRow (request : CommitRequest) : CommitRow :=
  ⟨request.commit.transitionCommitId, request.commit.workId, .prepared, request.commit⟩

omit [EntryHash] in
theorem insertCommit_ok (inserted : store.insertCommit request = .ok after) :
    store.commits.insert (preparedRow request) = some after.commits
      ∧ after = { store with commits := after.commits } := by
  obtain ⟨commits, inserts, returned⟩ := except_bind_ok inserted
  cases returned
  exact ⟨required_ok.1 inserts, rfl⟩

/-- What the transaction that journals a request does. -/
structure Journals (store after : Registry) (request : CommitRequest) : Prop where
  adds : Adds store after [.commit request.commit]
  commits : store.commits.insert (preparedRow request) = some after.commits

/-- What the transaction that commits a request does: it publishes its records and leaves the
version of the work that the request expects. -/
structure TakesEffect (store after : Registry) (request : CommitRequest)
    (committed : TransitionCommit) : Prop where
  adds : Adds store after (.commit committed :: request.records)
  commits : after.commits = (store.settle committed).commits
  saved : ∃ recorded, store.save (.commit committed) = .ok recorded
  current : ∀ row ∈ store.works.rows, row.workId = request.commit.workId →
    row.payload.stateVersion = request.commit.expectedStateVersion
  left : ∃ row ∈ after.works.rows, row.workId = request.commit.workId
    ∧ request.commit.expectedStateVersion < row.payload.stateVersion

theorem prepare_journals {answers : CommitAnswers}
    (prepared : store.prepare answers request = .ok after) : Journals store after request := by
  obtain ⟨_, _, rest⟩ := except_bind_ok prepared
  obtain ⟨transitioned, transitions, rest⟩ := except_bind_ok rest
  obtain ⟨recorded, records, inserts⟩ := except_bind_ok rest
  obtain ⟨inserted, shape⟩ := insertCommit_ok inserts
  have published := (Publishes.saveSilent rfl transitions).trans (.save records)
  rw [published.commits] at inserted
  have same : Adds recorded after [] := by
    rw [shape]
    exact .of_same rfl rfl
  exact ⟨published.toAdds.trans same, inserted⟩

/-- The aborted commit of a prepared row. -/
def abortedOf (stamp : Stamp) (reason : String) (row : CommitRow) : TransitionCommit :=
  { row.payload with
    metadata := row.payload.metadata.next stamp
    state := .aborted
    abortReason := some reason }

omit [EntryHash] in
/-- A prepared row is settled with the aborted commit, unless it was settled before. -/
theorem abort_ok {stamp : Stamp} {transitionCommitId reason : String}
    (aborted : store.abort stamp transitionCommitId reason = .ok after) :
    ∃ row, store.commits.find transitionCommitId = some row
      ∧ (row.state ≠ .prepared ∧ after = store
        ∨ row.state = .prepared ∧ Adds store after [.commit (abortedOf stamp reason row)]
          ∧ after.commits = (store.settle (abortedOf stamp reason row)).commits) := by
  obtain ⟨row, found, rest⟩ := except_bind_ok aborted
  refine ⟨row, required_ok.1 found, ?_⟩
  split at rest
  · rename_i settled
    cases rest
    exact .inl ⟨settled, rfl⟩
  · rename_i pending
    obtain ⟨saved, saves, returned⟩ := except_bind_ok rest
    cases returned
    have published : Publishes store saved [.commit (abortedOf stamp reason row)] := .save saves
    refine .inr ⟨not_not.1 pending, published.toAdds.settled _, ?_⟩
    exact settle_commits published.commits

/-- The work that a request may commit has the version the request expects. -/
theorem check_version {answers : CommitAnswers} {work : WorkExecutionState}
    (checked : store.check answers request = .ok work) :
    work.workId = request.commit.workId
      ∧ work.stateVersion = request.commit.expectedStateVersion := by
  obtain ⟨_, rest⟩ := raiseIf_bind_ok.1 checked
  obtain ⟨found, current, rest⟩ := except_bind_ok rest
  obtain ⟨_, context, rest⟩ := except_bind_ok rest
  obtain ⟨_, _, rest⟩ := except_bind_ok rest
  obtain ⟨_, _, rest⟩ := except_bind_ok rest
  obtain ⟨_, _, rest⟩ := except_bind_ok rest
  obtain ⟨_, _, returned⟩ := except_bind_ok rest
  cases returned
  obtain ⟨_, _, rest⟩ := except_bind_ok context
  obtain ⟨matching, _⟩ := raiseIf_bind_ok.1 rest
  simp only [not_or, ne_eq, not_not] at matching
  rw [request.workId, request.expectedStateVersion]
  exact ⟨matching.1.symm, matching.2.1.symm⟩

theorem finish_takesEffect {answers : CommitAnswers} {stamps : CommitStamps}
    {previous : WorkExecutionState} {projections : List Projection} (named : Named store)
    (finished : store.finish answers stamps request = .ok (after, previous, projections)) :
    TakesEffect store after request (Registry.committedOf stamps.commit request) := by
  obtain ⟨work, checked, rest⟩ := except_bind_ok finished
  obtain ⟨recorded, records, rest⟩ := except_bind_ok rest
  obtain ⟨published, publishes, rest⟩ := except_bind_ok rest
  obtain ⟨listed, projects, rest⟩ := except_bind_ok rest
  obtain ⟨projected, states, rest⟩ := except_bind_ok rest
  obtain ⟨next, validated, rest⟩ := except_bind_ok rest
  obtain ⟨ended, ends, rest⟩ := except_bind_ok rest
  obtain ⟨saved, saves, returned⟩ := except_bind_ok rest
  cases returned
  obtain ⟨own, version⟩ := check_version checked
  obtain ⟨row, member, keyed, payload⟩ := row_of_current named (Registry.check_ok checked).1
  have fields := WorkFields.validate_ok validated
  have nextVersion : next.stateVersion = request.commit.expectedStateVersion + 1 := by
    rw [fields, request.expectedStateVersion, ← request.versions, ← request.targetStateVersion]
    rfl
  have nextOwn : next.workId = request.commit.workId := by
    rw [fields, ← own]
    rfl
  have unchanged : ended.works = store.works := by
    rw [Registry.endAttempt_works ends, Registry.saveAllCurrent_works states,
      Registry.saveAllCurrent_works publishes, Registry.save_works records]
  have kept : row ∈ ended.works.rows := unchanged ▸ member
  have newest : Publishes.Newest ended next := by
    apply Publishes.Newest.of_row kept
    · rw [nextOwn, ← keyed, own]
    · rw [payload, version, nextVersion]
      exact Nat.le_succ _
  have silent : ∀ entry ∈ projections.flatMap Projection.entries, entry.isSilent = true := by
    intro entry member
    obtain ⟨projection, -, listed⟩ := List.mem_flatMap.1 member
    simp only [Projection.entries, List.mem_cons, List.not_mem_nil, or_false] at listed
    rcases listed with rfl | rfl | rfl | rfl | rfl <;> rfl
  have first := (Publishes.save records).trans (.saveAllCurrent publishes)
  have last := ((Publishes.saveAllCurrent states).silent silent).trans (.endAttempt ends)
  have whole := ((first.trans last).trans (.saveWork newest saves)).trans
    (.clearLease next.workId)
  simp only [List.append_nil] at whole
  constructor
  case adds => exact whole.toAdds.settled _
  case commits => exact settle_commits whole.commits
  case saved => exact ⟨_, records⟩
  case current =>
    intro other stored same
    rw [Table.eq_of_key stored member (same.trans (own.symm.trans keyed)), payload]
    exact version
  case left =>
    obtain ⟨later, stored, named, revised⟩ := saveWork_cleared saves
    refine ⟨later, stored, named.trans nextOwn, ?_⟩
    rw [revised, nextVersion]
    exact Nat.lt_succ_self _

omit [EntryHash] in
theorem cancelAttempt_works {ids : CancelIds} {work : WorkExecutionState}
    (ended : store.cancelAttempt ids work = .ok after) : after.works = store.works := by
  unfold Registry.cancelAttempt at ended
  split at ended
  · cases ended
    rfl
  · obtain ⟨row, _, rest⟩ := except_bind_ok ended
    obtain ⟨saved, saves, returned⟩ := except_bind_ok rest
    cases returned
    exact (Registry.save_works saves : saved.works = store.works)

/-- A cancellation is journaled and committed at once. -/
theorem cancel_takesEffect {answer : Except PyError Unit} {ids : CancelIds} {workId : String}
    {work : WorkExecutionState} (opened : work.status.terminal = false) (named : Named store)
    (current : store.currentWork workId = .ok work)
    (cancelled : store.cancel answer ids work (cancelRequest ids work opened) = .ok after) :
    ∃ middle, Journals store middle (cancelRequest ids work opened)
      ∧ TakesEffect middle after (cancelRequest ids work opened)
        (Registry.committedOf ids.commit (cancelRequest ids work opened)) := by
  obtain ⟨_, _, rest⟩ := except_bind_ok cancelled
  obtain ⟨_, _, rest⟩ := except_bind_ok rest
  obtain ⟨transitioned, transitions, rest⟩ := except_bind_ok rest
  obtain ⟨prepared, prepares, rest⟩ := except_bind_ok rest
  obtain ⟨inserted, inserts, rest⟩ := except_bind_ok rest
  obtain ⟨recorded, records, rest⟩ := except_bind_ok rest
  obtain ⟨next, validated, rest⟩ := except_bind_ok rest
  obtain ⟨ended, ends, rest⟩ := except_bind_ok rest
  obtain ⟨saved, saves, returned⟩ := except_bind_ok rest
  cases returned
  obtain ⟨row, member, keyed, payload⟩ := row_of_current named current
  have fields := WorkFields.validate_ok validated
  have nextVersion : next.stateVersion = work.stateVersion + 1 := by
    rw [fields]
    rfl
  have nextOwn : next.workId = work.workId := by
    rw [fields]
    rfl
  obtain ⟨insertion, shape⟩ := insertCommit_ok inserts
  have before : inserted.works = store.works := by
    rw [shape]
    exact (Registry.save_works prepares).trans (Registry.save_works transitions)
  have unchanged : ended.works = inserted.works := by
    rw [cancelAttempt_works ends]
    exact (Registry.save_works records : recorded.works = inserted.works)
  have kept : row ∈ inserted.works.rows := before ▸ member
  have still : row ∈ ended.works.rows := unchanged ▸ kept
  have newest : Publishes.Newest ended next := by
    apply Publishes.Newest.of_row still
    · exact nextOwn.trans keyed
    · rw [payload, nextVersion]
      exact Nat.le_succ _
  have first := (Publishes.saveSilent rfl transitions).trans (.save prepares)
  have between : Adds prepared inserted [] := by
    rw [shape]
    exact .of_same rfl rfl
  have second := Publishes.save records
  have third := ((Publishes.cancelAttempt ends).trans (.saveWork newest saves)).trans
    (.clearLease work.workId)
  rw [first.commits] at insertion
  refine ⟨inserted, ⟨first.toAdds.trans between, insertion⟩, ?_⟩
  constructor
  case adds => exact (second.toAdds.settled _).trans third.toAdds
  case commits => exact third.commits.trans (settle_commits second.commits)
  case saved => exact ⟨_, records⟩
  case current =>
    intro other stored same
    rw [Table.eq_of_key stored kept (same.trans keyed), payload]
    rfl
  case left =>
    obtain ⟨later, stored, named, revised⟩ := saveWork_cleared saves
    rw [nextOwn] at stored
    refine ⟨later, stored, named.trans nextOwn, ?_⟩
    rw [revised, nextVersion]
    exact Nat.lt_succ_self _

end Commits

end Sastsimi.Hypotheses
