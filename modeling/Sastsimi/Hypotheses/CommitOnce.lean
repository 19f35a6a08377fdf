import Sastsimi.Hypotheses.CommitTransactions

/-!
# Commits take effect once

However the calls of commit, the recoveries, the cancellations and the other services are
interleaved, and wherever a process dies, a journaled request takes effect at most once, a version
of a work is left by at most one commit, and a row that was settled stays as it is.
-/

namespace Sastsimi.Hypotheses

open Lib Sastsimi.Runtime Sastsimi.Storage

/-! ## The property -/

/-- The result of a call.  A call that returns has committed its own request, and one that was
rejected leaves no prepared row. -/
def AnswerHolds (machine : Machine) (call : Call) : Prop :=
  match call.state with
  | .returned commit => (∃ effect ∈ machine.effects, effect.request = call.request)
      ∧ ∃ row ∈ machine.system.store.commits.rows, row.state = .committed
        ∧ row.transitionCommitId = call.request.transitionCommitId ∧ row.payload = commit
  | .rejected _ => ∃ row ∈ machine.system.store.commits.rows, row.state ≠ .prepared
      ∧ row.transitionCommitId = call.request.transitionCommitId
  | _ => True

/-- A request takes effect at most once, and exactly when its row is committed; a version of a
work is left by at most one commit; and only what took effect has published proposals and
registered hypotheses. -/
structure ExactlyOnce (start : System) (machine : Machine) : Prop where
  requests : (machine.effects.map fun effect => effect.request.transitionCommitId).Nodup
  versions : (machine.effects.map fun effect =>
    (effect.request.commit.workId, effect.request.commit.expectedStateVersion)).Nodup
  committed : ∀ transitionCommitId,
    (∃ row ∈ machine.system.store.commits.rows, row.state = .committed
      ∧ row.transitionCommitId = transitionCommitId) ↔
    ∃ effect ∈ machine.effects, effect.request.transitionCommitId = transitionCommitId
  published : ∀ proposal, .proposal proposal ∈ machine.system.store.records.rows ↔
    .proposal proposal ∈ start.store.records.rows
      ∨ ∃ effect ∈ machine.effects, proposal ∈ effect.request.proposals
  registered : machine.system.registered = start.registered ++
    machine.effects.flatMap fun effect => effect.projections.map (Registered.mk effect.work)
  answered : ∀ call ∈ machine.calls, AnswerHolds machine call

/-- A row that is settled stays as it is. -/
def StaysSettled (machine later : Machine) : Prop :=
  ∀ row ∈ machine.system.store.commits.rows, row.state ≠ .prepared →
    row ∈ later.system.store.commits.rows

/-- A registry that the processes start on: nothing was committed in it. -/
structure Start where
  system : System
  named : Named system.store
  commits : system.store.commits.rows = []
  unrecorded : ∀ commit, Entry.commit commit ∉ system.store.records.rows

/-- The processes before their first turn. -/
def Start.machine (start : Start) : Machine := { system := start.system }

/-! ## The invariant -/

/-- What the row of a journaled request says. -/
def RowMeets (machine : Machine) (request : CommitRequest) (row : CommitRow) : Prop :=
  match row.state with
  | .prepared => row.payload = request.commit
  | .aborted => Entry.commit row.payload ∈ machine.system.store.records.rows
      ∧ row.payload.metadata.logicalRecordId = request.commit.metadata.logicalRecordId
      ∧ row.payload.metadata.revisionNumber = request.commit.metadata.revisionNumber + 1
  | .committed => ∃ effect ∈ machine.effects, effect.request = request

/-- A request that has a row. -/
def Journaled (machine : Machine) (request : CommitRequest) : Prop :=
  request ∈ machine.journal.rows ∧ ∃ row ∈ machine.system.store.commits.rows,
    row.transitionCommitId = request.transitionCommitId

/-- What an effect leaves behind. -/
structure EffectMeets (machine : Machine) (effect : Effect) : Prop where
  journaled : effect.request ∈ machine.journal.rows
  row : ∃ row ∈ machine.system.store.commits.rows, row.state = .committed
    ∧ row.transitionCommitId = effect.request.transitionCommitId
  left : ∃ row ∈ machine.system.store.works.rows, row.workId = effect.request.commit.workId
    ∧ effect.request.commit.expectedStateVersion < row.payload.stateVersion

/-- The journal, the rows of the commits, the records and the effects agree. -/
structure Sound (start : System) (machine : Machine) : Prop where
  named : Named machine.system.store
  rows : ∀ row ∈ machine.system.store.commits.rows, ∃ request ∈ machine.journal.rows,
    request.transitionCommitId = row.transitionCommitId ∧ RowMeets machine request row
  recorded : ∀ commit, Entry.commit commit ∈ machine.system.store.records.rows →
    commit.state = .committed → ∃ row ∈ machine.system.store.commits.rows,
      row.state = .committed ∧ row.transitionCommitId = commit.transitionCommitId
  effects : ∀ effect ∈ machine.effects, EffectMeets machine effect
  versions : (machine.effects.map fun effect =>
    (effect.request.commit.workId, effect.request.commit.expectedStateVersion)).Nodup
  published : ∀ proposal, Entry.proposal proposal ∈ machine.system.store.records.rows ↔
    Entry.proposal proposal ∈ start.store.records.rows
      ∨ ∃ effect ∈ machine.effects, proposal ∈ effect.request.proposals
  registered : machine.system.registered = start.registered ++
    machine.effects.flatMap fun effect => effect.projections.map (Registered.mk effect.work)

/-- What a call knows between two of its transactions, and its result. -/
def CallMeets (machine : Machine) (call : Call) : Prop :=
  match call.state with
  | .checking _ | .finishing _ | .aborting _ => Journaled machine call.request
  | _ => AnswerHolds machine call

/-! ## Later machines -/

/-- What a transaction keeps of the machine. -/
structure Later (before after : Machine) : Prop where
  records : ∀ entry ∈ before.system.store.records.rows, entry ∈ after.system.store.records.rows
  versions : ∀ row ∈ before.system.store.works.rows, ∃ later ∈ after.system.store.works.rows,
    later.workId = row.workId ∧ row.payload.stateVersion ≤ later.payload.stateVersion
  rows : ∀ row ∈ before.system.store.commits.rows,
    ∃ later ∈ after.system.store.commits.rows,
      later.transitionCommitId = row.transitionCommitId ∧ (row.state ≠ .prepared → later = row)
  journal : ∀ request ∈ before.journal.rows, request ∈ after.journal.rows
  effects : ∀ effect ∈ before.effects, effect ∈ after.effects

section Later

variable {before middle after : Machine} {request : CommitRequest}

theorem Later.refl (machine : Machine) : Later machine machine where
  records := fun _ => id
  versions := fun row member => ⟨row, member, rfl, Nat.le_refl _⟩
  rows := fun row member => ⟨row, member, rfl, fun _ => rfl⟩
  journal := fun _ => id
  effects := fun _ => id

theorem Later.trans (first : Later before middle) (second : Later middle after) :
    Later before after where
  records := fun entry member => second.records entry (first.records entry member)
  journal := fun request member => second.journal request (first.journal request member)
  effects := fun effect member => second.effects effect (first.effects effect member)
  versions := by
    intro row member
    obtain ⟨next, between, same, grown⟩ := first.versions row member
    obtain ⟨last, stored, again, grows⟩ := second.versions next between
    exact ⟨last, stored, again.trans same, grown.trans grows⟩
  rows := by
    intro row member
    obtain ⟨next, between, same, kept⟩ := first.rows row member
    obtain ⟨last, stored, again, keeps⟩ := second.rows next between
    refine ⟨last, stored, again.trans same, fun settled => ?_⟩
    have equal := kept settled
    subst equal
    exact keeps settled

theorem Later.staysSettled (later : Later before after) : StaysSettled before after := by
  intro row member settled
  obtain ⟨next, stored, _, kept⟩ := later.rows row member
  exact kept settled ▸ stored

theorem Later.calls {calls : List Call} (machine : Machine) :
    Later machine { machine with calls } :=
  ⟨fun _ => id, fun row member => ⟨row, member, rfl, Nat.le_refl _⟩,
    fun row member => ⟨row, member, rfl, fun _ => rfl⟩, fun _ => id, fun _ => id⟩

/-- A settled row that is there is there later. -/
theorem Later.settled (later : Later before after) {holds : CommitRow → Prop}
    (settles : ∀ row, holds row → row.state ≠ .prepared)
    (found : ∃ row ∈ before.system.store.commits.rows, holds row) :
    ∃ row ∈ after.system.store.commits.rows, holds row := by
  obtain ⟨row, member, held⟩ := found
  exact ⟨row, later.staysSettled row member (settles row held), held⟩

theorem Later.journaled (later : Later before after) (journaled : Journaled before request) :
    Journaled after request := by
  obtain ⟨listed, row, member, same⟩ := journaled
  obtain ⟨next, stored, kept, _⟩ := later.rows row member
  exact ⟨later.journal request listed, next, stored, kept.trans same⟩

theorem Later.rowMeets (later : Later before after) {row : CommitRow}
    (meets : RowMeets before request row) : RowMeets after request row := by
  unfold RowMeets at meets ⊢
  split at meets
  · exact meets
  · exact ⟨later.records _ meets.1, meets.2⟩
  · obtain ⟨effect, member, same⟩ := meets
    exact ⟨effect, later.effects effect member, same⟩

theorem Later.effectMeets (later : Later before after) {effect : Effect}
    (meets : EffectMeets before effect) : EffectMeets after effect where
  journaled := later.journal _ meets.journaled
  row := later.settled (fun row held => by simp [held.1]) meets.row
  left := by
    obtain ⟨row, member, same, less⟩ := meets.left
    obtain ⟨next, stored, kept, grown⟩ := later.versions row member
    exact ⟨next, stored, kept.trans same, less.trans_le grown⟩

theorem Later.answerHolds (later : Later before after) {call : Call}
    (holds : AnswerHolds before call) : AnswerHolds after call := by
  unfold AnswerHolds at holds ⊢
  split at holds
  · obtain ⟨⟨effect, member, same⟩, found⟩ := holds
    exact ⟨⟨effect, later.effects effect member, same⟩,
      later.settled (fun row held => by simp [held.1]) found⟩
  · exact later.settled (fun row held => held.1) holds
  · trivial

theorem Later.callMeets (later : Later before after) {call : Call}
    (meets : CallMeets before call) : CallMeets after call := by
  unfold CallMeets at meets ⊢
  split at meets
  · exact later.journaled meets
  · exact later.journaled meets
  · exact later.journaled meets
  · exact later.answerHolds meets

end Later

/-! ## Transactions -/

section Transactions

variable {start : System} {machine : Machine} {request : CommitRequest} {store after : Registry}
variable {added : List Entry}

/-- The commits of a registry are the old ones and the ones that were added. -/
theorem Adds.commit_iff (adds : Adds store after added) (commit : TransitionCommit) :
    Entry.commit commit ∈ after.records.rows ↔
      Entry.commit commit ∈ store.records.rows ∨ Entry.commit commit ∈ added := by
  constructor
  · intro member
    rcases adds.origin _ member with stored | new | silent
    · exact .inl stored
    · exact .inr new
    · cases silent
  · rintro (stored | new)
    · exact adds.kept _ stored
    · exact adds.present _ new

theorem Adds.proposal_iff (adds : Adds store after added) (proposal : HypothesisProposal) :
    Entry.proposal proposal ∈ after.records.rows ↔
      Entry.proposal proposal ∈ store.records.rows ∨ Entry.proposal proposal ∈ added := by
  constructor
  · intro member
    rcases adds.origin _ member with stored | new | silent
    · exact .inl stored
    · exact .inr new
    · cases silent
  · rintro (stored | new)
    · exact adds.kept _ stored
    · exact adds.present _ new

/-- The journaled request of an identifier is the one it was journaled with. -/
theorem Sound.row_of_journaled (sound : Sound start machine) (journaled : Journaled machine request) :
    ∃ row ∈ machine.system.store.commits.rows,
      row.transitionCommitId = request.transitionCommitId ∧ RowMeets machine request row := by
  obtain ⟨listed, row, member, same⟩ := journaled
  obtain ⟨other, stored, keyed, meets⟩ := sound.rows row member
  have equal : other = request := Table.eq_of_key stored listed (keyed.trans same)
  exact ⟨row, member, same, equal ▸ meets⟩

/-- Only the row of the request is settled, and its state changes from prepared. -/
theorem settled_rows {final : TransitionCommit} (same : after.commits = (store.settle final).commits)
    {row : CommitRow} (member : row ∈ after.commits.rows) :
    row ∈ store.commits.rows ∨ ∃ old ∈ store.commits.rows, old.state = .prepared
      ∧ old.transitionCommitId = final.transitionCommitId ∧ row = old.settled final := by
  rw [same] at member
  obtain ⟨old, stored, rfl⟩ := mem_settle.1 member
  split
  · rename_i selected
    exact .inr ⟨old, stored, selected.2, selected.1, rfl⟩
  · exact .inl stored

/-- Every row is there after a row was settled, changed only if it was prepared. -/
theorem settled_later {final : TransitionCommit}
    (same : after.commits = (store.settle final).commits) {row : CommitRow}
    (member : row ∈ store.commits.rows) :
    ∃ later ∈ after.commits.rows, later.transitionCommitId = row.transitionCommitId
      ∧ (row.state ≠ .prepared → later = row) := by
  rw [same]
  refine ⟨_, mem_settle.2 ⟨row, member, rfl⟩, ?_, ?_⟩
  · split <;> rfl
  · intro settled
    rw [if_neg fun selected => settled selected.2]

/-- The row of a request, once it is settled. -/
theorem settled_row {final : TransitionCommit}
    (same : after.commits = (store.settle final).commits) {row : CommitRow}
    (member : row ∈ store.commits.rows) (pending : row.state = .prepared)
    (own : row.transitionCommitId = final.transitionCommitId) :
    row.settled final ∈ after.commits.rows := by
  rw [same]
  exact mem_settle.2 ⟨row, member, by rw [if_pos ⟨own, pending⟩]⟩

/-! ### Journaling -/

theorem Later.journals {journal : Table CommitRequest.transitionCommitId}
    (journals : Journals machine.system.store after request)
    (inserted : machine.journal.insert request = some journal) :
    Later machine { machine.withStore after with journal } where
  records := journals.adds.kept
  versions := journals.adds.versions
  rows := by
    intro row member
    refine ⟨row, ?_, rfl, fun _ => rfl⟩
    exact (Table.insert_eq_some.1 journals.commits).2 ▸ List.mem_append_left _ member
  journal := by
    intro other member
    exact (Table.insert_eq_some.1 inserted).2 ▸ List.mem_append_left _ member
  effects := fun _ => id

theorem Sound.journals (sound : Sound start machine)
    {journal : Table CommitRequest.transitionCommitId}
    (journals : Journals machine.system.store after request)
    (inserted : machine.journal.insert request = some journal) :
    Sound start { machine.withStore after with journal } := by
  have later := Later.journals journals inserted
  constructor
  case named => exact journals.adds.named sound.named
  case rows =>
    intro row member
    have listed : row ∈ machine.system.store.commits.rows ∨ row = preparedRow request := by
      have split := (Table.insert_eq_some.1 journals.commits).2 ▸ member
      rw [List.mem_append, List.mem_singleton] at split
      exact split
    rcases listed with old | rfl
    · obtain ⟨other, stored, same, meets⟩ := sound.rows row old
      exact ⟨other, later.journal other stored, same, later.rowMeets meets⟩
    · refine ⟨request, ?_, rfl, rfl⟩
      exact (Table.insert_eq_some.1 inserted).2 ▸ List.mem_append_right _ (List.mem_singleton_self _)
  case recorded =>
    intro commit member decided
    rcases (journals.adds.commit_iff commit).1 member with old | new
    · exact later.settled (fun row held => by simp [held.1]) (sound.recorded commit old decided)
    · cases List.mem_singleton.1 new
      rw [request.prepared] at decided
      cases decided
  case effects => exact fun effect member => later.effectMeets (sound.effects effect member)
  case versions => exact sound.versions
  case published =>
    intro proposal
    have same : Entry.proposal proposal ∈ after.records.rows ↔
        Entry.proposal proposal ∈ machine.system.store.records.rows := by
      simp [journals.adds.proposal_iff]
    exact same.trans (sound.published proposal)
  case registered => exact sound.registered

/-- A request that was journaled has a row. -/
theorem journaled_of_inserted {journal : Table CommitRequest.transitionCommitId}
    (journals : Journals machine.system.store after request)
    (inserted : machine.journal.insert request = some journal) :
    Journaled { machine.withStore after with journal } request := by
  constructor
  · exact (Table.insert_eq_some.1 inserted).2 ▸ List.mem_append_right _ (List.mem_singleton_self _)
  · refine ⟨preparedRow request, ?_, rfl⟩
    exact (Table.insert_eq_some.1 journals.commits).2 ▸
      List.mem_append_right _ (List.mem_singleton_self _)

/-! ### Taking effect -/

/-- A record that is saved is there, or is the first of its revision. -/
theorem save_first {entry : Entry} (saved : store.save entry = .ok after) :
    entry ∈ store.records.rows ∨ ∀ other ∈ store.records.rows,
      other.metadata.logicalRecordId = entry.metadata.logicalRecordId →
      other.metadata.revisionNumber ≠ entry.metadata.revisionNumber := by
  unfold Registry.save at saved
  split at saved
  · rename_i old found
    split at saved
    · rename_i same
      exact .inl (same ▸ (Table.find_eq_some.1 found).1)
    · cases saved
  · obtain ⟨_, _, rest⟩ := except_bind_ok saved
    obtain ⟨first, _⟩ := raiseIf_bind_ok.1 rest
    refine .inr fun other member logical revision => first ?_
    exact List.any_eq_true.2 ⟨other, member, decide_eq_true ⟨logical, revision⟩⟩

/-- A request that takes effect was prepared. -/
theorem Sound.pending (sound : Sound start machine) (journaled : Journaled machine request)
    {stamp : Stamp} (takes : TakesEffect machine.system.store after request
      (Registry.committedOf stamp request)) :
    ∃ row ∈ machine.system.store.commits.rows, row.state = .prepared
      ∧ row.transitionCommitId = request.transitionCommitId := by
  obtain ⟨row, member, own, meets⟩ := sound.row_of_journaled journaled
  refine ⟨row, member, ?_, own⟩
  unfold RowMeets at meets
  cases state : row.state with
  | prepared => rfl
  | aborted =>
      rw [state] at meets
      obtain ⟨present, logical, revision⟩ := meets
      obtain ⟨recorded, saved⟩ := takes.saved
      rcases save_first saved with stored | first
      · obtain ⟨other, listed, decided, same⟩ := sound.recorded _ stored rfl
        rw [Table.eq_of_key listed member (same.trans own.symm), state] at decided
        cases decided
      · exact absurd revision (first _ present logical)
  | committed =>
      rw [state] at meets
      obtain ⟨effect, listed, rfl⟩ := meets
      obtain ⟨work, stored, same, less⟩ := (sound.effects effect listed).left
      rw [takes.current work stored same] at less
      exact absurd less (Nat.lt_irrefl _)

/-- The machine after a request took effect. -/
def Machine.took (machine : Machine) (store : Registry) (effect : Effect) : Machine :=
  { machine with
    system :=
      { store
        registered := machine.system.registered
          ++ effect.projections.map (Registered.mk effect.work) }
    effects := machine.effects ++ [effect] }

theorem Later.takesEffect {effect : Effect} {final : TransitionCommit}
    (takes : TakesEffect machine.system.store after effect.request final) :
    Later machine (machine.took after effect) where
  records := takes.adds.kept
  versions := takes.adds.versions
  rows := fun _ member => settled_later takes.commits member
  journal := fun _ => id
  effects := fun _ member => List.mem_append_left _ member

theorem Sound.takesEffect (sound : Sound start machine) {effect : Effect} {stamp : Stamp}
    (journaled : Journaled machine effect.request)
    (takes : TakesEffect machine.system.store after effect.request
      (Registry.committedOf stamp effect.request)) :
    Sound start (machine.took after effect) := by
  have later := Later.takesEffect takes
  obtain ⟨pendingRow, pendingMember, pending, pendingOwn⟩ := sound.pending journaled takes
  have settled := settled_row takes.commits pendingMember pending pendingOwn
  constructor
  case named => exact takes.adds.named sound.named
  case rows =>
    intro row member
    rcases settled_rows takes.commits member with old | ⟨old, stored, _, own, rfl⟩
    · obtain ⟨other, listed, same, meets⟩ := sound.rows row old
      exact ⟨other, listed, same, later.rowMeets meets⟩
    · refine ⟨effect.request, journaled.1, own.symm, ?_⟩
      exact ⟨effect, List.mem_append_right _ (List.mem_singleton_self _), rfl⟩
  case recorded =>
    intro commit member decided
    rcases (takes.adds.commit_iff commit).1 member with old | new
    · exact later.settled (fun row held => by simp [held.1]) (sound.recorded commit old decided)
    · rcases List.mem_cons.1 new with same | listed
      · cases same
        exact ⟨_, settled, rfl, pendingOwn⟩
      · obtain ⟨proposal, _, other⟩ := List.mem_map.1 listed
        cases other
  case effects =>
    intro other member
    rcases List.mem_append.1 member with old | new
    · exact later.effectMeets (sound.effects other old)
    · cases List.mem_singleton.1 new
      exact ⟨journaled.1, ⟨_, settled, rfl, pendingOwn⟩, takes.left⟩
  case versions =>
    rw [Machine.took, List.map_append, List.nodup_append]
    refine ⟨sound.versions, by simp, ?_⟩
    intro version listed other last same
    cases List.mem_singleton.1 last
    obtain ⟨earlier, member, rfl⟩ := List.mem_map.1 listed
    obtain ⟨work, stored, own, less⟩ := (sound.effects earlier member).left
    simp only [Prod.mk.injEq] at same
    rw [takes.current work stored (own.trans same.1), same.2] at less
    exact absurd less (Nat.lt_irrefl _)
  case published =>
    intro proposal
    have records : Entry.proposal proposal ∈ after.records.rows ↔
        Entry.proposal proposal ∈ machine.system.store.records.rows
          ∨ proposal ∈ effect.request.proposals := by
      simp [takes.adds.proposal_iff, CommitRequest.records]
    refine records.trans ?_
    simp [sound.published proposal, Machine.took, or_assoc]
  case registered => simp [Machine.took, sound.registered]

/-! ### Aborting -/

theorem Sound.aborts (sound : Sound start machine) (journaled : Journaled machine request)
    {stamp : Stamp} {reason : String}
    (aborted : machine.system.store.abort stamp request.transitionCommitId reason = .ok after) :
    Sound start (machine.withStore after) ∧ Later machine (machine.withStore after)
      ∧ ∃ row ∈ after.commits.rows, row.state ≠ .prepared
        ∧ row.transitionCommitId = request.transitionCommitId := by
  obtain ⟨row, found, ends⟩ := abort_ok aborted
  obtain ⟨member, own⟩ := Table.find_eq_some.1 found
  rcases ends with ⟨decided, rfl⟩ | ⟨pending, adds, commits⟩
  · exact ⟨sound, .refl _, row, member, decided, own⟩
  have payload : row.payload = request.commit := by
    obtain ⟨other, listed, same, meets⟩ := sound.row_of_journaled journaled
    rw [Table.eq_of_key listed member (same.trans own.symm), RowMeets, pending] at meets
    exact meets
  have named : (abortedOf stamp reason row).transitionCommitId = request.transitionCommitId := by
    rw [abortedOf, payload]
    rfl
  have settled := settled_row commits member pending (own.trans named.symm)
  have later : Later machine (machine.withStore after) :=
    { records := adds.kept
      versions := adds.versions
      rows := fun _ member => settled_later commits member
      journal := fun _ => id
      effects := fun _ => id }
  refine ⟨?sound, later, _, settled, nofun, own⟩
  constructor
  case named => exact adds.named sound.named
  case rows =>
    intro other listed
    rcases settled_rows commits listed with old | ⟨old, _, _, same, rfl⟩
    · obtain ⟨earlier, stored, same, meets⟩ := sound.rows other old
      exact ⟨earlier, stored, same, later.rowMeets meets⟩
    · refine ⟨request, journaled.1, (same.trans named).symm, ?_⟩
      have present := adds.present _ (List.mem_singleton_self _)
      refine ⟨present, ?_, ?_⟩ <;> rw [← payload] <;> rfl
  case recorded =>
    intro commit listed decided
    rcases (adds.commit_iff commit).1 listed with old | new
    · exact later.settled (fun row held => by simp [held.1]) (sound.recorded commit old decided)
    · cases List.mem_singleton.1 new
      cases decided
  case effects => exact fun effect listed => later.effectMeets (sound.effects effect listed)
  case versions => exact sound.versions
  case published =>
    intro proposal
    have same : Entry.proposal proposal ∈ after.records.rows ↔
        Entry.proposal proposal ∈ machine.system.store.records.rows := by
      simp [adds.proposal_iff]
    exact same.trans (sound.published proposal)
  case registered => exact sound.registered

end Transactions

/-! ## Turns -/

section Turns

variable [EntryHash] {start : System} {machine after : Machine} {request : CommitRequest}

/-- A service's transaction registers nothing. -/
theorem WorkStep.registered {system : System} (taken : WorkStep) :
    (system.step taken.step).registered = system.registered := by
  unfold System.step
  split
  · rename_i next performed
    cases taken <;>
    · obtain ⟨_, _, returned⟩ := except_bind_ok performed
      cases returned
      rfl
  · rfl

theorem Sound.serves (sound : Sound start machine) (taken : WorkStep) :
    Sound start { machine with system := machine.system.step taken.step }
      ∧ Later machine { machine with system := machine.system.step taken.step } := by
  have publishes := taken.publishes sound.named
  have later : Later machine { machine with system := machine.system.step taken.step } :=
    { records := publishes.kept
      versions := publishes.versions
      rows := fun row member => ⟨row, publishes.commits ▸ member, rfl, fun _ => rfl⟩
      journal := fun _ => id
      effects := fun _ => id }
  refine ⟨?_, later⟩
  constructor
  case named => exact publishes.named sound.named
  case rows =>
    intro row member
    rw [publishes.commits] at member
    obtain ⟨request, stored, same, meets⟩ := sound.rows row member
    exact ⟨request, stored, same, later.rowMeets meets⟩
  case recorded =>
    intro commit listed decided
    have old : Entry.commit commit ∈ machine.system.store.records.rows := by
      simpa using (publishes.commit_iff commit).1 listed
    exact later.settled (fun row held => by simp [held.1]) (sound.recorded commit old decided)
  case effects => exact fun effect listed => later.effectMeets (sound.effects effect listed)
  case versions => exact sound.versions
  case published =>
    intro proposal
    have same : Entry.proposal proposal ∈ (machine.system.step taken.step).store.records.rows ↔
        Entry.proposal proposal ∈ machine.system.store.records.rows := by
      simp [publishes.proposal_iff]
    exact same.trans (sound.published proposal)
  case registered => exact taken.registered.trans sound.registered

theorem Sound.prepares (sound : Sound start machine) {answers : CommitAnswers}
    (prepared : machine.prepare answers request = .ok after) :
    Sound start after ∧ Later machine after ∧ Journaled after request
      ∧ after.calls = machine.calls := by
  obtain ⟨store, prepares, rest⟩ := except_bind_ok prepared
  obtain ⟨journal, inserts, returned⟩ := except_bind_ok rest
  cases returned
  have journals := prepare_journals prepares
  have inserted := required_ok.1 inserts
  refine ⟨sound.journals journals inserted, .journals journals inserted, ?_, rfl⟩
  exact journaled_of_inserted journals inserted

theorem Sound.finishes (sound : Sound start machine) (journaled : Journaled machine request)
    {answers : CommitAnswers} {stamps : CommitStamps}
    (finished : machine.finish answers stamps request = .ok after) :
    Sound start after ∧ Later machine after ∧ after.calls = machine.calls
      ∧ AnswerHolds after
        ⟨request, .returned (Registry.committedOf stamps.commit request)⟩ := by
  obtain ⟨⟨store, work, projections⟩, finishes, returned⟩ := except_bind_ok finished
  cases returned
  have takes := finish_takesEffect sound.named finishes
  obtain ⟨row, member, pending, own⟩ := sound.pending journaled takes
  have sound : Sound start (machine.took store ⟨request, work, projections⟩) :=
    sound.takesEffect journaled takes
  have later : Later machine (machine.took store ⟨request, work, projections⟩) :=
    .takesEffect takes
  refine ⟨sound, later, rfl, ?_, ?_⟩
  · exact ⟨_, List.mem_append_right _ (List.mem_singleton_self _), rfl⟩
  · exact ⟨_, settled_row takes.commits member pending own, rfl, own, rfl⟩

theorem Sound.cancels (sound : Sound start machine) {answer : Except PyError Unit}
    {ids : CancelIds} {workId : String}
    (cancelled : machine.cancel answer ids workId = .ok after) :
    Sound start after ∧ Later machine after ∧ after.calls = machine.calls := by
  obtain ⟨work, current, rest⟩ := except_bind_ok cancelled
  split at rest
  · rename_i opened
    obtain ⟨store, cancels, rest⟩ := except_bind_ok rest
    obtain ⟨journal, inserts, returned⟩ := except_bind_ok rest
    cases returned
    obtain ⟨middle, journals, takes⟩ := cancel_takesEffect opened sound.named current cancels
    have inserted := required_ok.1 inserts
    have journaled := journaled_of_inserted journals inserted
    have between := sound.journals journals inserted
    have first := Later.journals journals inserted
    have ends : Machine.took { machine.withStore middle with journal } store
          ⟨cancelRequest ids work opened, work, []⟩ =
        { machine.withStore store with
          journal, effects := machine.effects ++ [⟨cancelRequest ids work opened, work, []⟩] } := by
      simp [Machine.took, Machine.withStore, System.withStore]
    rw [← ends]
    exact ⟨between.takesEffect journaled takes, first.trans (.takesEffect takes), rfl⟩
  · cases rest
    exact ⟨sound, .refl _, rfl⟩

/-- What a turn does to the machine and to the call that takes it. -/
structure Advances (start : System) (machine after : Machine) (call : Call) : Prop where
  sound : Sound start after
  later : Later machine after
  calls : after.calls = machine.calls
  meets : CallMeets after call

omit [EntryHash] in
theorem Advances.stays (sound : Sound start machine) {call : Call}
    (meets : CallMeets machine call) : Advances start machine machine call :=
  ⟨sound, .refl _, rfl, meets⟩

omit [EntryHash] in
theorem raised_meets {error : PyError} : CallMeets machine ⟨request, .raised error⟩ := trivial

omit [EntryHash] in
/-- A rejected transaction of a journaled request is aborted, if its call is guarded. -/
theorem failed_meets (journaled : Journaled machine request) (guarded : Bool) (error : PyError) :
    CallMeets machine ⟨request, Machine.failed guarded error⟩ := by
  unfold Machine.failed
  split
  · exact journaled
  · exact raised_meets

theorem Sound.advances (sound : Sound start machine) {state : CallState}
    (meets : CallMeets machine ⟨request, state⟩) (answers : CommitAnswers)
    (stamps : CommitStamps) :
    Advances start machine (machine.advance answers stamps request state).1
      ⟨request, (machine.advance answers stamps request state).2⟩ := by
  cases state with
  | preparing =>
      cases prepared : machine.prepare answers request with
      | ok after =>
          simp only [Machine.advance, prepared]
          obtain ⟨sound, later, journaled, calls⟩ := sound.prepares prepared
          exact ⟨sound, later, calls, journaled⟩
      | error error =>
          simp only [Machine.advance, prepared]
          exact .stays sound raised_meets
  | checking guarded =>
      cases checked : machine.system.store.check answers request with
      | ok work =>
          simp only [Machine.advance, checked]
          exact .stays sound meets
      | error error =>
          simp only [Machine.advance, checked]
          exact .stays sound (failed_meets meets guarded error)
  | finishing guarded =>
      cases finished : machine.finish answers stamps request with
      | ok after =>
          simp only [Machine.advance, finished]
          obtain ⟨sound, later, calls, answered⟩ := sound.finishes meets finished
          exact ⟨sound, later, calls, answered⟩
      | error error =>
          simp only [Machine.advance, finished]
          exact .stays sound (failed_meets meets guarded error)
  | aborting error =>
      cases aborted : machine.system.store.abort stamps.commit request.transitionCommitId
          (errorText error) with
      | ok store =>
          simp only [Machine.advance, aborted]
          obtain ⟨sound, later, rejected⟩ := sound.aborts meets aborted
          exact ⟨sound, later, rfl, rejected⟩
      | error other =>
          simp only [Machine.advance, aborted]
          exact .stays sound raised_meets
  | returned commit => exact .stays sound meets
  | rejected error => exact .stays sound meets
  | raised error => exact .stays sound meets

omit [EntryHash] in
/-- A journaled request is resumed as its row says. -/
theorem Sound.resumes (sound : Sound start machine) {journaled : CommitRequest} {row : CommitRow}
    (listed : machine.journal.find request.transitionCommitId = some journaled)
    (found : machine.system.store.commits.find request.transitionCommitId = some row) :
    CallMeets machine ⟨request, Machine.resume request journaled row⟩ := by
  obtain ⟨member, own⟩ := Table.find_eq_some.1 found
  unfold Machine.resume
  split
  · exact raised_meets
  · rename_i same
    cases not_not.1 same
    have known : Journaled machine request := ⟨(Table.find_eq_some.1 listed).1, row, member, own⟩
    cases state : row.state with
    | prepared => exact known
    | aborted => exact raised_meets
    | committed =>
        obtain ⟨other, stored, keyed, meets⟩ := sound.row_of_journaled known
        rw [Table.eq_of_key stored member (keyed.trans own.symm), RowMeets, state] at meets
        exact ⟨meets, row, member, state, own, rfl⟩

/-- A call that begins knows what the journal has on its request. -/
theorem Sound.begins (sound : Sound start machine) (staging : Except PyError Unit)
    (request : CommitRequest) : CallMeets machine ⟨request, machine.begin staging request⟩ := by
  simp only [Machine.begin]
  split
  · exact raised_meets
  · split
    · rename_i journaled row listed found
      exact sound.resumes listed found
    · split
      · trivial
      · exact raised_meets

/-- The machine is sound, and so is what each of its calls knows. -/
structure Meets (start : System) (machine : Machine) : Prop where
  sound : Sound start machine
  calls : ∀ call ∈ machine.calls, CallMeets machine call

omit [EntryHash] in
/-- The calls are no part of what is sound. -/
theorem Sound.withCalls (sound : Sound start machine) (calls : List Call) :
    Sound start { machine with calls } :=
  ⟨sound.named, sound.rows, sound.recorded,
    fun effect member =>
      ⟨(sound.effects effect member).journaled, (sound.effects effect member).row,
        (sound.effects effect member).left⟩,
    sound.versions, sound.published, sound.registered⟩

omit [EntryHash] in
theorem Meets.keeps (meets : Meets start machine) (sound : Sound start after)
    (later : Later machine after) (same : after.calls = machine.calls) : Meets start after where
  sound := sound
  calls := by
    rw [same]
    exact fun call member => later.callMeets (meets.calls call member)

omit [EntryHash] in
theorem Meets.call (meets : Meets start machine) {state : CallState}
    (known : CallMeets machine ⟨request, state⟩) : Meets start (machine.call request state) where
  sound := meets.sound.withCalls _
  calls := by
    intro call member
    rcases List.mem_append.1 member with old | new
    · exact meets.calls call old
    · cases List.mem_singleton.1 new
      exact known

/-- A turn keeps the machine sound. -/
theorem Meets.turn (meets : Meets start machine) (taken : Turn) :
    Meets start (machine.turn taken) ∧ Later machine (machine.turn taken) := by
  cases taken with
  | service taken =>
      obtain ⟨sound, later⟩ := meets.sound.serves taken
      exact ⟨meets.keeps sound later rfl, later⟩
  | cancel answer ids workId =>
      cases cancelled : machine.cancel answer ids workId with
      | ok after =>
          simp only [Machine.turn, cancelled]
          obtain ⟨sound, later, same⟩ := meets.sound.cancels cancelled
          exact ⟨meets.keeps sound later same, later⟩
      | error error =>
          simp only [Machine.turn, cancelled]
          exact ⟨meets, .refl _⟩
  | commit staging request => exact ⟨meets.call (meets.sound.begins staging request), .calls _⟩
  | recover transitionCommitId =>
      simp only [Machine.turn, Machine.recover]
      split
      · rename_i request row listed found
        split
        · obtain ⟨member, own⟩ := Table.find_eq_some.1 found
          obtain ⟨stored, same⟩ := Table.find_eq_some.1 listed
          have known : Journaled machine request := ⟨stored, row, member, own.trans same.symm⟩
          exact ⟨meets.call known, .calls _⟩
        · exact ⟨meets, .refl _⟩
      · exact ⟨meets, .refl _⟩
  | next index answers stamps =>
      simp only [Machine.turn]
      split
      · exact ⟨meets, .refl _⟩
      · rename_i current found
        have known := meets.calls current (List.mem_of_getElem? found)
        have advances := meets.sound.advances known answers stamps
        refine ⟨⟨advances.sound.withCalls _, ?_⟩, advances.later.trans (.calls _)⟩
        intro call member
        apply (Later.calls _).callMeets
        rcases List.mem_or_eq_of_mem_set member with old | rfl
        · exact advances.later.callMeets (meets.calls call old)
        · exact advances.meets

theorem Meets.run (meets : Meets start machine) (turns : List Turn) :
    Meets start (machine.run turns) ∧ Later machine (machine.run turns) := by
  induction turns generalizing machine with
  | nil => exact ⟨meets, .refl _⟩
  | cons taken rest ih =>
      obtain ⟨next, later⟩ := meets.turn taken
      obtain ⟨ends, rests⟩ := ih next
      exact ⟨ends, later.trans rests⟩

omit [EntryHash] in
theorem Start.meets (start : Start) : Meets start.system start.machine where
  sound :=
    { named := start.named
      rows := by simp [Start.machine, start.commits]
      recorded := fun commit member => absurd member (start.unrecorded commit)
      effects := by simp [Start.machine]
      versions := List.nodup_nil
      published := by simp [Start.machine]
      registered := by simp [Start.machine] }
  calls := by simp [Start.machine]

omit [EntryHash] in
theorem Meets.exactlyOnce (meets : Meets start machine) : ExactlyOnce start machine where
  requests := by
    have requests : (machine.effects.map Effect.request).Nodup := by
      have versions := meets.sound.versions
      rw [← Function.comp_def (fun request : CommitRequest =>
        (request.commit.workId, request.commit.expectedStateVersion)), ← List.map_map] at versions
      exact List.Nodup.of_map _ versions
    rw [← Function.comp_def CommitRequest.transitionCommitId, ← List.map_map]
    apply List.Nodup.map_on _ requests
    intro left first right second same
    obtain ⟨one, listed, rfl⟩ := List.mem_map.1 first
    obtain ⟨other, stored, rfl⟩ := List.mem_map.1 second
    exact Table.eq_of_key (meets.sound.effects one listed).journaled
      (meets.sound.effects other stored).journaled same
  versions := meets.sound.versions
  committed := by
    intro transitionCommitId
    constructor
    · rintro ⟨row, member, state, own⟩
      obtain ⟨request, _, same, decided⟩ := meets.sound.rows row member
      rw [RowMeets, state] at decided
      obtain ⟨effect, listed, rfl⟩ := decided
      exact ⟨effect, listed, same.trans own⟩
    · rintro ⟨effect, listed, rfl⟩
      exact (meets.sound.effects effect listed).row
  published := meets.sound.published
  registered := meets.sound.registered
  answered := by
    intro call member
    have known := meets.calls call member
    unfold CallMeets at known
    split at known <;> simp_all [AnswerHolds]

/-- Whatever the order of turns, a journaled request takes effect at most once and exactly when it
is committed, a version of a work is left by at most one commit, only commits that took effect
publish proposals and register hypotheses, and no settled row changes again. -/
theorem commits_exactlyOnce (start : Start) (turns later : List Turn) :
    ExactlyOnce start.system (start.machine.run turns)
      ∧ StaysSettled (start.machine.run turns) (start.machine.run (turns ++ later)) := by
  have meets := (start.meets.run turns).1
  refine ⟨meets.exactlyOnce, ?_⟩
  have split : start.machine.run (turns ++ later) = (start.machine.run turns).run later :=
    List.foldl_append
  rw [split]
  exact (meets.run later).2.staysSettled

end Turns

end Sastsimi.Hypotheses
