import Sastsimi.Hypotheses.ProposalCommits

/-!
# One hypothesis for each child

The registration of a child is told apart from another one by the record of its proposal, which
every commit stamps anew, and a work commits whatever children of its source it is given, as often
as it is blocked and resumed.  A child becomes one hypothesis when each work on its source has a
subject of its own, and commits the child it has as its subject in the commit that ends it.
-/

namespace Sastsimi.Hypotheses

open Lib Sastsimi.Runtime Sastsimi.Storage

variable [EntryHash]

/-! ## The property -/

/-- A work for proposals that is registered on a result. -/
def OnSource (sourceRef : RecordRef) (work : WorkExecutionState) : Prop :=
  work.workType = .hypothesisProposal ∧ sourceRef ∈ work.inputRefs

instance (sourceRef : RecordRef) (work : WorkExecutionState) : Decidable (OnSource sourceRef work) :=
  inferInstanceAs (Decidable (_ ∧ _))

/-- The identifier of the proposal that was registered. -/
def Registered.proposalId (registered : Registered) : String :=
  registered.projection.proposal.proposalId

/-- The identifier of the hypothesis that was registered. -/
def Registered.hypothesisId (registered : Registered) : Option String :=
  hypothesisOf registered.projection.hypothesis.metadata

/-- The children of a result. -/
def Registry.childrenOf (store : Registry) (sourceRef : RecordRef) : List HypothesisProposal :=
  match store.resolve sourceRef with
  | .ok (.verificationResult result) => result.children
  | .ok (.chainingResult result) => result.children
  | _ => []

/-- What the works on a result have registered. -/
def System.registeredFrom (system : System) (sourceRef : RecordRef) : List Registered :=
  system.registered.filter fun registered => decide (OnSource sourceRef registered.work)

/-- A hypothesis has one state of a kind, which is current. -/
structure OneState (store : Registry) (kind : StateKind) (hypothesisId : Option String)
    (logicalRecordId : String) : Prop where
  stored : ∃ entry ∈ store.records.rows, entry.stateKind = some kind
    ∧ hypothesisOf entry.metadata = hypothesisId
    ∧ entry.metadata.logicalRecordId = logicalRecordId
  only : ∀ entry ∈ store.records.rows, entry.stateKind = some kind →
    hypothesisOf entry.metadata = hypothesisId →
    entry.metadata.logicalRecordId = logicalRecordId
  current : (store.pointers.find logicalRecordId).isSome = true

/-- Each child of a result becomes at most one hypothesis, a work with a child as its subject
registers this child only, and every hypothesis has one state of each kind. -/
structure ChildrenOnce (sourceRef : RecordRef) (system : System) : Prop where
  once : ∀ child ∈ system.store.childrenOf sourceRef,
    (system.registeredFrom sourceRef).countP
      (fun registered => decide (registered.proposalId = child.proposalId)) ≤ 1
  own : ∀ registered ∈ system.registeredFrom sourceRef,
    ∀ child ∈ system.store.childrenOf sourceRef,
      registered.work.subjectId = child.proposalId → registered.proposalId = child.proposalId
  states : ∀ registered ∈ system.registered, registered.hypothesisId.isSome = true
    ∧ ∀ kind, ∃ logicalRecordId,
      OneState system.store kind registered.hypothesisId logicalRecordId

/-! ## The condition -/

/-- The works on a result that have a subject are registered under one key. -/
def Single (sourceRef : RecordRef) (store : Registry) (key subjectId : String) : Prop :=
  ∀ row ∈ store.works.rows, OnSource sourceRef row.payload → row.payload.subjectId = subjectId →
    row.registrationKey = key

/-- A work on a result is registered under the one key of its subject, and a commit of proposals
on the result ends its work and has the work's subject only. -/
def Regular (sourceRef : RecordRef) (system : System) : Step → Prop
  | .enqueue _ _ ref proposalId =>
      ref = sourceRef → Single sourceRef system.store (childKey ref proposalId) proposalId
  | .register _ work =>
      OnSource sourceRef work →
        Single sourceRef system.store (registrationKey work) work.subjectId
  | .finish _ _ request =>
      ∀ row ∈ system.store.works.rows, row.workId = request.commit.workId →
        OnSource sourceRef row.payload → request.proposals ≠ [] →
        request.commit.targetStatus.terminal = true
          ∧ ∀ proposal ∈ request.proposals, proposal.proposalId = row.payload.subjectId
  | _ => True

/-- The identifiers of hypotheses that a commit draws are new. -/
def DrawsNew (system : System) : Step → Prop
  | .finish _ stamps request =>
      ((List.range request.proposals.length).map fun index =>
          (stamps.draw index).hypothesisId).Nodup
        ∧ ∀ index < request.proposals.length, ∀ entry ∈ system.store.records.rows,
          hypothesisOf entry.metadata ≠ some (stamps.draw index).hypothesisId
  | _ => True

/-- A condition holds of every step of a run in the state it is taken in. -/
def System.Along (condition : System → Step → Prop) : System → List Step → Prop
  | _, [] => True
  | system, taken :: rest => condition system taken ∧ Along condition (system.step taken) rest

/-! ## The invariant -/

/-- The logical record of a state of a hypothesis that was registered. -/
def Projection.stateOf (projection : Projection) : StateKind → Entry
  | .process => .process projection.process
  | .finding => .findingIndex projection.index
  | .report => .reportState projection.report

/-- The works on the result have different subjects, and whatever they registered is their
subject and was registered by a work that has ended. -/
structure Tracked (sourceRef : RecordRef) (system : System) : Prop where
  named : ∀ row ∈ system.store.works.rows, row.payload.workId = row.workId
  single : ∀ left ∈ system.store.works.rows, ∀ right ∈ system.store.works.rows,
    OnSource sourceRef left.payload → OnSource sourceRef right.payload →
    left.payload.subjectId = right.payload.subjectId → left = right
  closed : ∀ registered ∈ system.registeredFrom sourceRef,
    registered.work.subjectId = registered.proposalId
      ∧ ∃ row ∈ system.store.works.rows, OnSource sourceRef row.payload
        ∧ row.payload.subjectId = registered.proposalId ∧ row.payload.status.terminal = true
  distinct : ((system.registeredFrom sourceRef).map Registered.proposalId).Nodup
  states : ∀ registered ∈ system.registered, registered.hypothesisId.isSome = true
    ∧ ∀ kind, OneState system.store kind registered.hypothesisId
      (registered.projection.stateOf kind).metadata.logicalRecordId

variable {sourceRef : RecordRef} {system : System} {after : Registry}

theorem Tracked.childrenOnce (tracked : Tracked sourceRef system) :
    ChildrenOnce sourceRef system where
  once := by
    intro child _
    have counted := List.nodup_iff_count_le_one.1 tracked.distinct child.proposalId
    rw [List.count, List.countP_map] at counted
    exact counted
  own := by
    intro registered member child _ subject
    exact (tracked.closed registered member).1.symm.trans subject
  states := by
    intro registered member
    obtain ⟨identified, one⟩ := tracked.states registered member
    exact ⟨identified, fun kind => ⟨_, one kind⟩⟩

omit [EntryHash] in
/-- A state of a hypothesis stays the one of its kind. -/
theorem OneState.grows {kind : StateKind} {hypothesisId : Option String} {logicalRecordId : String}
    {store : Registry} (one : OneState store kind hypothesisId logicalRecordId)
    (grows : Grows store after) : OneState after kind hypothesisId logicalRecordId where
  stored := by
    obtain ⟨entry, member, state⟩ := one.stored
    exact ⟨entry, grows.kept entry member, state⟩
  only := by
    intro entry member state owner
    rcases grows.follows entry member with other | ⟨earlier, present, revises⟩
    · simp [other] at state
    · rw [← revises.logical]
      exact one.only earlier present (revises.kind.trans state) (revises.owner.trans owner)
  current := grows.pointed _ one.current

omit [EntryHash] in
theorem RowKeeps.onSource {row later : WorkRow} (keeps : RowKeeps row later) :
    OnSource sourceRef later.payload ↔ OnSource sourceRef row.payload := by
  rw [OnSource, OnSource, keeps.workType, keeps.inputRefs]

omit [EntryHash] in
/-- A transaction that keeps the rows of works and the states of every hypothesis. -/
theorem Tracked.carries (tracked : Tracked sourceRef system)
    (rows : KeepsRows system.store after)
    (states : ∀ kind hypothesisId logicalRecordId,
      OneState system.store kind hypothesisId logicalRecordId →
        OneState after kind hypothesisId logicalRecordId) :
    Tracked sourceRef (system.withStore after) where
  named := by
    intro later member
    obtain ⟨row, stored, kept⟩ := rows.origin later member
    rw [kept.named, kept.workId]
    exact tracked.named row stored
  single := by
    intro left first right second leftOn rightOn same
    obtain ⟨leftRow, leftStored, leftKept⟩ := rows.origin left first
    obtain ⟨rightRow, rightStored, rightKept⟩ := rows.origin right second
    rw [leftKept.subjectId, rightKept.subjectId] at same
    have equal := tracked.single leftRow leftStored rightRow rightStored
      (leftKept.onSource.1 leftOn) (rightKept.onSource.1 rightOn) same
    exact Table.eq_of_key first second
      (leftKept.workId.trans ((congrArg WorkRow.workId equal).trans rightKept.workId.symm))
  closed := by
    intro registered member
    obtain ⟨subject, row, stored, on, own, ended⟩ := tracked.closed registered member
    obtain ⟨later, present, kept⟩ := rows.outcome row stored
    refine ⟨subject, later, present, kept.onSource.2 on, kept.subjectId.trans own, ?_⟩
    rw [kept.ended ended]
    exact ended
  distinct := tracked.distinct
  states := by
    intro registered member
    obtain ⟨identified, one⟩ := tracked.states registered member
    exact ⟨identified, fun kind => states _ _ _ (one kind)⟩

omit [EntryHash] in
/-- A transaction that registers neither works nor hypotheses. -/
theorem Tracked.keeps (tracked : Tracked sourceRef system) (grows : Grows system.store after)
    (rows : KeepsRows system.store after) : Tracked sourceRef (system.withStore after) :=
  tracked.carries rows fun _ _ _ one => one.grows grows

/-! ## Registration of works -/

omit [EntryHash] in
theorem Registry.insertWork_rows {store : Registry} {key : String} {work : WorkExecutionState}
    (inserted : store.insertWork key work = .ok after) :
    ∃ row : WorkRow, row.workId = work.workId ∧ row.payload = work
      ∧ after.works.rows = store.works.rows ++ [row] := by
  obtain ⟨_, rest⟩ := raiseIf_bind_ok.1 inserted
  obtain ⟨works, added, returned⟩ := except_bind_ok rest
  cases returned
  exact ⟨_, rfl, rfl, (Table.insert_eq_some.1 (required_ok.1 added)).2⟩

omit [EntryHash] in
theorem Registry.registerPending_ok {store : Registry} {key : String} {work : WorkExecutionState}
    (registered : store.registerPending key work = .ok after) :
    Grows store after ∧ ∃ row : WorkRow, row.workId = work.workId ∧ row.payload = work
      ∧ after.works.rows = store.works.rows ++ [row] := by
  obtain ⟨saved, saves, rest⟩ := except_bind_ok registered
  obtain ⟨inserted, inserts, pointed⟩ := except_bind_ok rest
  refine ⟨((Grows.save saves (.inl rfl)).trans (Grows.insertWork inserts)).trans
    (Grows.point pointed), ?_⟩
  obtain ⟨row, named, payload, rows⟩ := insertWork_rows inserts
  refine ⟨row, named, payload, ?_⟩
  rw [(point_ok pointed).1, ← save_works saves]
  exact rows

omit [EntryHash] in
/-- A work is registered under a key that no work has. -/
theorem Registry.registeredUnder_none {store : Registry} {key : String}
    (missing : store.registeredUnder key = none) {row : WorkRow}
    (member : row ∈ store.works.rows) : row.registrationKey ≠ key := by
  have other := List.find?_eq_none.1 missing row member
  simpa using other

omit [EntryHash] in
/-- A work on the result is registered when none has its subject. -/
theorem Tracked.registers (tracked : Tracked sourceRef system) {key : String}
    {work : WorkExecutionState} (missing : system.store.registeredUnder key = none)
    (single : OnSource sourceRef work → Single sourceRef system.store key work.subjectId)
    (registered : system.store.registerPending key work = .ok after) :
    Tracked sourceRef (system.withStore after) := by
  obtain ⟨grows, row, own, rfl, rows⟩ := Registry.registerPending_ok registered
  have member : ∀ other, other ∈ after.works.rows ↔
      other ∈ system.store.works.rows ∨ other = row := by
    intro other
    rw [rows, List.mem_append, List.mem_singleton]
  have fresh : OnSource sourceRef row.payload → ∀ other ∈ system.store.works.rows,
      OnSource sourceRef other.payload → other.payload.subjectId ≠ row.payload.subjectId := by
    intro on other stored otherOn same
    exact Registry.registeredUnder_none missing stored (single on other stored otherOn same)
  constructor
  case named =>
    intro other present
    rcases (member other).1 present with stored | rfl
    · exact tracked.named other stored
    · exact own.symm
  case single =>
    intro left first right second leftOn rightOn same
    rcases (member left).1 first with stored | rfl
    · rcases (member right).1 second with kept | rfl
      · exact tracked.single left stored right kept leftOn rightOn same
      · exact absurd same (fresh rightOn left stored leftOn)
    · rcases (member right).1 second with kept | rfl
      · exact absurd same.symm (fresh leftOn right kept rightOn)
      · rfl
  case closed =>
    intro entry listed
    obtain ⟨subject, closed, stored, state⟩ := tracked.closed entry listed
    exact ⟨subject, closed, (member closed).2 (.inl stored), state⟩
  case distinct => exact tracked.distinct
  case states =>
    intro entry listed
    obtain ⟨identified, one⟩ := tracked.states entry listed
    exact ⟨identified, fun kind => (one kind).grows grows⟩

omit [EntryHash] in
/-- A work whose next revision a move validates. -/
theorem WorkMove.validated_ok {move : WorkMove} {stamp : Stamp} {previous work : WorkExecutionState}
    (validated : move.validated stamp previous = .ok work) :
    work.toWorkFields = move.next stamp previous :=
  WorkFields.validate_ok validated

theorem KeepsRows.move {store : Registry} {row : WorkRow} (member : row ∈ store.works.rows)
    (own : row.payload.workId = row.workId) (opened : row.payload.status.terminal = false)
    {move : WorkMove} {stamp process : Stamp} {work : WorkExecutionState}
    (validated : move.validated stamp row.payload = .ok work)
    (saved : store.saveWork process row.payload work = .ok after) : KeepsRows store after := by
  have fields := WorkMove.validated_ok validated
  exact KeepsRows.saveWork member own (by rw [fields]; rfl) (by rw [fields]; rfl)
    (by rw [fields]; rfl) (by rw [fields]; rfl) opened saved

theorem Tracked.enqueues (tracked : Tracked sourceRef system) {answer : Except PyError Unit}
    {ids : ChildIds} {ref : RecordRef} {proposalId : String} {work : WorkExecutionState}
    (single : ref = sourceRef → Single sourceRef system.store (childKey ref proposalId) proposalId)
    (enqueued : system.store.enqueueReady answer ids ref proposalId = .ok (after, work)) :
    Tracked sourceRef (system.withStore after) := by
  obtain ⟨_, rest⟩ := raiseIf_bind_ok.1 enqueued
  obtain ⟨source, _, rest⟩ := except_bind_ok rest
  obtain ⟨_, _, rest⟩ := except_bind_ok rest
  split at rest
  · cases rest
    exact tracked
  · rename_i missing
    obtain ⟨pending, validated, rest⟩ := except_bind_ok rest
    obtain ⟨registered, registers, readied⟩ := except_bind_ok rest
    have fields := WorkFields.validate_ok validated
    have subject : pending.subjectId = proposalId := by
      rw [fields]
      rfl
    have inputs : pending.inputRefs = [ref] := by
      rw [fields]
      rfl
    have opened : pending.status.terminal = false := by
      rw [fields]
      rfl
    have own : OnSource sourceRef pending → ref = sourceRef := by
      intro on
      have listed := on.2
      rw [inputs, List.mem_singleton] at listed
      exact listed.symm
    have first : Tracked sourceRef (system.withStore registered) :=
      tracked.registers missing (fun on => by rw [subject]; exact single (own on)) registers
    obtain ⟨_, row, named, payload, rows⟩ := Registry.registerPending_ok registers
    obtain ⟨transitioned, saves, rest⟩ := except_bind_ok readied
    obtain ⟨ready, moved, rest⟩ := except_bind_ok rest
    obtain ⟨saved, readies, returned⟩ := except_bind_ok rest
    cases returned
    subst payload
    have member : row ∈ transitioned.works.rows := by
      rw [Registry.save_works saves, rows]
      simp
    have grows : Grows registered after :=
      (Grows.save saves (.inl rfl)).trans (Grows.saveWork readies)
    have kept : KeepsRows registered after :=
      (KeepsRows.of_same (Registry.save_works saves)).trans
        (KeepsRows.move member named.symm opened moved readies)
    exact first.keeps grows kept

theorem Tracked.moves (tracked : Tracked sourceRef system) {answer : Except PyError Unit}
    {stamp process : Stamp} {change : WorkMove} {workId : String} {work : WorkExecutionState}
    (moved : system.store.moveTo answer stamp process change workId = .ok (after, work)) :
    Tracked sourceRef (system.withStore after) := by
  obtain ⟨previous, current, rest⟩ := except_bind_ok moved
  obtain ⟨_, _, rest⟩ := except_bind_ok rest
  obtain ⟨allowed, rest⟩ := raiseIf_bind_ok.1 rest
  obtain ⟨next, validated, rest⟩ := except_bind_ok rest
  obtain ⟨saved, saves, returned⟩ := except_bind_ok rest
  cases returned
  obtain ⟨row, found, rfl⟩ := Registry.currentWork_ok.1 current
  obtain ⟨member, _⟩ := Table.find_eq_some.1 found
  have opened : row.payload.status.terminal = false := by
    cases status : row.payload.status <;>
      simp_all [allowedTransition, WorkStatus.terminal]
  exact tracked.keeps (Grows.saveWork saves)
    (KeepsRows.move member (tracked.named row member) opened validated saves)

/-! ## Registration of hypotheses -/

/-- The projections of a commit that are new in a registry. -/
structure Projected (store : Registry) (projections : List Projection) : Prop where
  identified : ∀ projection ∈ projections,
    (hypothesisOf projection.hypothesis.metadata).isSome = true
  owners : ∀ projection ∈ projections, ∀ kind, hypothesisOf (projection.stateOf kind).metadata =
    hypothesisOf projection.hypothesis.metadata
  separate : (projections.map fun projection => hypothesisOf projection.hypothesis.metadata).Nodup
  new : ∀ projection ∈ projections, ∀ entry ∈ store.records.rows,
    hypothesisOf entry.metadata ≠ hypothesisOf projection.hypothesis.metadata

theorem hypothesisOf_projectionOf (ids : ProjectionIds) (proposal : HypothesisProposal) :
    hypothesisOf (projectionOf ids proposal).hypothesis.metadata = some ids.hypothesisId := by
  have owner := hypothesisOf_withHypothesis proposal.code (some ids.hypothesisId)
  exact owner

theorem hypothesisOf_stateOf (ids : ProjectionIds) (proposal : HypothesisProposal)
    (kind : StateKind) :
    hypothesisOf ((projectionOf ids proposal).stateOf kind).metadata = some ids.hypothesisId := by
  have owner := hypothesisOf_withHypothesis proposal.code (some ids.hypothesisId)
  cases kind with
  | process => exact owner
  | finding => exact owner
  | report => exact owner

/-- The projections of a batch. -/
def projectionsOf (draw : Nat → ProjectionIds) (proposals : List HypothesisProposal) :
    List Projection :=
  (proposals.zip ((List.range proposals.length).map draw)).map
    fun drawn => projectionOf drawn.2 drawn.1

theorem projectionsOf_proposalIds (draw : Nat → ProjectionIds)
    (proposals : List HypothesisProposal) :
    (projectionsOf draw proposals).map (fun projection => projection.proposal.proposalId) =
      proposals.map fun proposal => proposal.proposalId := by
  rw [projectionsOf, List.map_map]
  calc
    _ = ((proposals.zip ((List.range proposals.length).map draw)).map Prod.fst).map
          fun proposal => proposal.proposalId := by
      rw [List.map_map]
      rfl
    _ = proposals.map fun proposal => proposal.proposalId := by
      rw [List.map_fst_zip (by simp)]

theorem projectionsOf_hypothesisIds (draw : Nat → ProjectionIds)
    (proposals : List HypothesisProposal) :
    (projectionsOf draw proposals).map
        (fun projection => hypothesisOf projection.hypothesis.metadata) =
      ((List.range proposals.length).map fun index => (draw index).hypothesisId).map some := by
  rw [projectionsOf, List.map_map]
  calc
    _ = ((proposals.zip ((List.range proposals.length).map draw)).map Prod.snd).map
          fun ids => some ids.hypothesisId := by
      rw [List.map_map]
      apply List.map_congr_left
      intro drawn _
      exact hypothesisOf_projectionOf drawn.2 drawn.1
    _ = _ := by
      rw [List.map_snd_zip (by simp), List.map_map, List.map_map]
      rfl

/-- What a batch projects with new identifiers. -/
theorem projected_of_new {store : Registry} {draw : Nat → ProjectionIds}
    {proposals : List HypothesisProposal}
    (separate : ((List.range proposals.length).map fun index =>
      (draw index).hypothesisId).Nodup)
    (new : ∀ index < proposals.length, ∀ entry ∈ store.records.rows,
      hypothesisOf entry.metadata ≠ some (draw index).hypothesisId) :
    Projected store (projectionsOf draw proposals) := by
  have drawn : ∀ projection ∈ projectionsOf draw proposals, ∃ index < proposals.length,
      ∃ proposal, projection = projectionOf (draw index) proposal := by
    intro projection member
    obtain ⟨pair, zipped, rfl⟩ := List.mem_map.1 member
    obtain ⟨index, listed, same⟩ := List.mem_map.1 (List.of_mem_zip zipped).2
    exact ⟨index, List.mem_range.1 listed, pair.1, by rw [same]⟩
  constructor
  case identified =>
    intro projection member
    obtain ⟨index, _, proposal, rfl⟩ := drawn projection member
    rw [hypothesisOf_projectionOf]
    rfl
  case owners =>
    intro projection member kind
    obtain ⟨index, _, proposal, rfl⟩ := drawn projection member
    rw [hypothesisOf_projectionOf, hypothesisOf_stateOf]
  case separate =>
    rw [projectionsOf_hypothesisIds]
    exact separate.map (Option.some_injective _)
  case new =>
    intro projection member
    obtain ⟨index, bound, proposal, rfl⟩ := drawn projection member
    rw [hypothesisOf_projectionOf]
    exact new index bound

omit [EntryHash] in
/-- A published state is that of its kind. -/
theorem Projection.stateOf_eq {projection : Projection} {entry : Entry} {kind : StateKind}
    (member : entry ∈ projection.entries) (state : entry.stateKind = some kind) :
    entry = projection.stateOf kind := by
  simp only [Projection.entries, List.mem_cons, List.not_mem_nil, or_false] at member
  rcases member with rfl | rfl | rfl | rfl | rfl
  case inl => simp [Entry.stateKind] at state
  case inr.inl => simp [Entry.stateKind] at state
  all_goals
    cases state
    rfl

omit [EntryHash] in
theorem Projection.stateOf_mem (projection : Projection) (kind : StateKind) :
    projection.stateOf kind ∈ projection.entries := by
  cases kind <;> simp [Projection.stateOf, Projection.entries]

omit [EntryHash] in
theorem Projection.stateOf_kind (projection : Projection) (kind : StateKind) :
    (projection.stateOf kind).stateKind = some kind := by
  cases kind <;> rfl

section Finished

variable {store : Registry} {stamps : CommitStamps} {request : CommitRequest}
  {previous : WorkExecutionState} {projections : List Projection}

/-- A new hypothesis has one state of each kind. -/
theorem Finished.oneState (finished : Finished store after stamps request previous projections)
    (projected : Projected store projections) {projection : Projection}
    (member : projection ∈ projections) (kind : StateKind) :
    OneState after kind (hypothesisOf projection.hypothesis.metadata)
      (projection.stateOf kind).metadata.logicalRecordId := by
  have listed : projection.stateOf kind ∈ projections.flatMap Projection.entries :=
    List.mem_flatMap.2 ⟨projection, member, projection.stateOf_mem kind⟩
  constructor
  case stored =>
    exact ⟨_, finished.published _ listed, projection.stateOf_kind kind,
      projected.owners projection member kind, rfl⟩
  case current => exact finished.current _ listed
  case only =>
    intro entry stored state owner
    rcases finished.follows entry stored with (other | ⟨earlier, present, revises⟩)
      | ⟨first, publishes, revises⟩
    · rw [other] at state
      cases state
    · exact absurd (revises.owner.trans owner) (projected.new projection member earlier present)
    · obtain ⟨source, listing, entered⟩ := List.mem_flatMap.1 publishes
      have same : first = source.stateOf kind :=
        Projection.stateOf_eq entered (revises.kind.trans state)
      have owned : hypothesisOf source.hypothesis.metadata =
          hypothesisOf projection.hypothesis.metadata := by
        rw [← projected.owners source listing kind, ← same, revises.owner, owner]
      have equal : source = projection :=
        List.inj_on_of_nodup_map projected.separate listing member owned
      rw [← revises.logical, same, equal]

/-- An earlier hypothesis keeps its states. -/
theorem Finished.keepsState (finished : Finished store after stamps request previous projections)
    (projected : Projected store projections) {kind : StateKind} {hypothesisId : Option String}
    {logicalRecordId : String} (one : OneState store kind hypothesisId logicalRecordId) :
    OneState after kind hypothesisId logicalRecordId := by
  obtain ⟨first, stored, state, owner, logical⟩ := one.stored
  constructor
  case stored => exact ⟨first, finished.kept first stored, state, owner, logical⟩
  case current => exact finished.pointed _ one.current
  case only =>
    intro entry present revised owned
    rcases finished.follows entry present with (other | ⟨earlier, kept, revises⟩)
      | ⟨new, publishes, revises⟩
    · rw [other] at revised
      cases revised
    · rw [← revises.logical]
      exact one.only earlier kept (revises.kind.trans revised) (revises.owner.trans owned)
    · obtain ⟨source, listing, entered⟩ := List.mem_flatMap.1 publishes
      have same : new = source.stateOf kind :=
        Projection.stateOf_eq entered (revises.kind.trans revised)
      have clash : hypothesisOf first.metadata = hypothesisOf source.hypothesis.metadata := by
        rw [← projected.owners source listing kind, ← same, revises.owner, owned, owner]
      exact absurd clash (projected.new source listing first stored)

/-- The row of a committed work ends as the commit says. -/
theorem Finished.closes (finished : Finished store after stamps request previous projections)
    (named : ∀ row ∈ store.works.rows, row.payload.workId = row.workId)
    (on : OnSource sourceRef previous) :
    ∃ later ∈ after.works.rows, OnSource sourceRef later.payload
      ∧ later.payload.subjectId = previous.subjectId
      ∧ later.payload.status = request.commit.targetStatus := by
  obtain ⟨row, found, rfl⟩ := finished.row
  obtain ⟨member, _⟩ := Table.find_eq_some.1 found
  obtain ⟨later, present, same, status⟩ := finished.settled
  obtain ⟨origin, stored, kept⟩ := (finished.rows named).origin later present
  have equal : origin = row := by
    apply Table.eq_of_key stored member
    rw [← kept.workId, same, named row member]
  subst equal
  exact ⟨later, present, kept.onSource.2 on, kept.subjectId, status⟩

end Finished

/-- What a work registers on the result, when the step that commits it is a regular one. -/
theorem Finished.registers {stamps : CommitStamps} {request : CommitRequest}
    {previous : WorkExecutionState} {projections : List Projection} {answers : CommitAnswers}
    (finished : Finished system.store after stamps request previous projections)
    (regular : Regular sourceRef system (.finish answers stamps request))
    (on : OnSource sourceRef previous) {projection : Projection}
    (member : projection ∈ projections) :
    request.commit.targetStatus.terminal = true
      ∧ projection.proposal.proposalId = previous.subjectId := by
  obtain ⟨row, found, rfl⟩ := finished.row
  obtain ⟨stored, named⟩ := Table.find_eq_some.1 found
  rcases finished.projected with rfl | ⟨_, rfl⟩
  · cases member
  · obtain ⟨drawn, zipped, rfl⟩ := List.mem_map.1 member
    have listed : drawn.1 ∈ request.proposals := (List.of_mem_zip zipped).1
    obtain ⟨ends, own⟩ := regular row stored named on (List.ne_nil_of_mem listed)
    exact ⟨ends, own drawn.1 listed⟩

/-- A commit registers different proposals. -/
theorem Finished.distinctIds {store : Registry} {stamps : CommitStamps} {request : CommitRequest}
    {previous : WorkExecutionState} {projections : List Projection}
    (finished : Finished store after stamps request previous projections) :
    ((projections.map (Registered.mk previous)).map Registered.proposalId).Nodup := by
  rcases finished.projected with rfl | ⟨distinct, listed⟩
  · simp
  · have ids := projectionsOf_proposalIds stamps.draw request.proposals
    rw [listed, List.map_map]
    exact ids ▸ distinct.1

theorem Tracked.finishes (tracked : Tracked sourceRef system) {answers : CommitAnswers}
    {stamps : CommitStamps} {request : CommitRequest} {previous : WorkExecutionState}
    {projections : List Projection} (new : DrawsNew system (.finish answers stamps request))
    (regular : Regular sourceRef system (.finish answers stamps request))
    (committed : system.store.finish answers stamps request =
      .ok (after, previous, projections)) :
    Tracked sourceRef
      { store := after
        registered := system.registered ++ projections.map (Registered.mk previous) } := by
  have finished := Registry.finish_ok committed
  have rows := finished.rows tracked.named
  have projected : Projected system.store projections := by
    rcases finished.projected with rfl | ⟨_, listed⟩
    · constructor <;> simp
    · rw [listed]
      exact projected_of_new new.1 new.2
  have kept : Tracked sourceRef (system.withStore after) :=
    tracked.carries rows fun _ _ _ one => finished.keepsState projected one
  have member : ∀ registered, registered ∈ system.registered ++
      projections.map (Registered.mk previous) → registered ∈ system.registered
        ∨ ∃ projection ∈ projections, registered = ⟨previous, projection⟩ := by
    intro registered listed
    rcases List.mem_append.1 listed with old | new
    · exact .inl old
    · obtain ⟨projection, drawn, same⟩ := List.mem_map.1 new
      exact .inr ⟨projection, drawn, same.symm⟩
  refine ⟨kept.named, kept.single, ?closed, ?distinct, ?states⟩
  case states =>
    intro registered listed
    rcases member registered listed with old | ⟨projection, drawn, rfl⟩
    · exact kept.states registered old
    · exact ⟨projected.identified projection drawn,
        fun kind => finished.oneState projected drawn kind⟩
  case closed =>
    intro registered listed
    obtain ⟨listed, on⟩ := List.mem_filter.1 listed
    rcases member registered listed with old | ⟨projection, drawn, rfl⟩
    · exact kept.closed registered (List.mem_filter.2 ⟨old, on⟩)
    · have source := of_decide_eq_true on
      obtain ⟨ends, own⟩ := finished.registers regular source drawn
      obtain ⟨later, present, laterOn, subject, status⟩ :=
        finished.closes tracked.named source
      exact ⟨own.symm, later, present, laterOn, subject.trans own.symm, by rw [status]; exact ends⟩
  case distinct =>
    rw [System.registeredFrom, List.filter_append, List.map_append, List.nodup_append']
    refine ⟨kept.distinct, ?new, ?apart⟩
    case new =>
      apply List.Nodup.sublist (List.filter_sublist.map Registered.proposalId)
      exact finished.distinctIds
    case apart =>
      intro proposalId old new
      obtain ⟨earlier, listed, rfl⟩ := List.mem_map.1 old
      obtain ⟨later, filtered, same⟩ := List.mem_map.1 new
      obtain ⟨drawn, on⟩ := List.mem_filter.1 filtered
      obtain ⟨projection, present, rfl⟩ := List.mem_map.1 drawn
      have source := of_decide_eq_true on
      have own := (finished.registers regular source present).2
      -- The work that registered the child has ended, and the work of this commit is its only one.
      obtain ⟨_, closed, stored, closedOn, subject, ended⟩ := tracked.closed earlier listed
      obtain ⟨row, found, rfl⟩ := finished.row
      have single := tracked.single closed stored row (Table.find_eq_some.1 found).1 closedOn
        source (subject.trans (same.symm.trans own))
      rw [single, finished.opened] at ended
      cases ended

/-! ## Runs -/

/-- The journal of a request is no state of a hypothesis and no work. -/
theorem Tracked.prepares (tracked : Tracked sourceRef system) {answers : CommitAnswers}
    {request : CommitRequest} (prepared : system.store.prepare answers request = .ok after) :
    Tracked sourceRef (system.withStore after) := by
  obtain ⟨_, _, rest⟩ := except_bind_ok prepared
  obtain ⟨transitioned, transitions, rest⟩ := except_bind_ok rest
  obtain ⟨recorded, records, rest⟩ := except_bind_ok rest
  obtain ⟨commits, _, returned⟩ := except_bind_ok rest
  cases returned
  have works : recorded.works = system.store.works := by
    rw [Registry.save_works records, Registry.save_works transitions]
  have grows : Grows system.store recorded :=
    (Grows.save transitions (.inl rfl)).trans (Grows.save records (.inl rfl))
  exact tracked.keeps (grows.trans (.of_same rfl rfl)) (.of_same works)

theorem Tracked.aborts (tracked : Tracked sourceRef system) {stamp : Stamp}
    {transitionCommitId reason : String}
    (aborted : system.store.abort stamp transitionCommitId reason = .ok after) :
    Tracked sourceRef (system.withStore after) := by
  obtain ⟨row, _, rest⟩ := except_bind_ok aborted
  split at rest
  · cases rest
    exact tracked
  · obtain ⟨saved, saves, returned⟩ := except_bind_ok rest
    cases returned
    have works := Registry.save_works saves
    have grows : Grows system.store saved := Grows.save saves (.inl rfl)
    exact tracked.keeps (grows.trans (.of_same rfl rfl)) (.of_same works)

/-- A regular transaction keeps the invariant. -/
theorem Tracked.performed (tracked : Tracked sourceRef system) {taken : Step} {next : System}
    (new : DrawsNew system taken) (regular : Regular sourceRef system taken)
    (performed : system.perform taken = .ok next) : Tracked sourceRef next := by
  cases taken with
  | enqueue answer ids ref proposalId =>
      obtain ⟨⟨store, work⟩, enqueued, returned⟩ := except_bind_ok performed
      cases returned
      exact tracked.enqueues regular enqueued
  | register answer work =>
      obtain ⟨⟨store, kept⟩, registered, returned⟩ := except_bind_ok performed
      cases returned
      unfold Registry.registerWork at registered
      split at registered
      · cases registered
        exact tracked
      · rename_i missing
        obtain ⟨_, rest⟩ := raiseIf_bind_ok.1 registered
        obtain ⟨_, _, rest⟩ := except_bind_ok rest
        obtain ⟨pending, registers, returned⟩ := except_bind_ok rest
        cases returned
        exact tracked.registers missing regular registers
  | move answer stamp process change workId =>
      obtain ⟨⟨store, work⟩, moved, returned⟩ := except_bind_ok performed
      cases returned
      exact tracked.moves moved
  | prepare answers request =>
      obtain ⟨store, prepared, returned⟩ := except_bind_ok performed
      cases returned
      exact tracked.prepares prepared
  | finish answers stamps request =>
      obtain ⟨⟨store, work, projections⟩, committed, returned⟩ := except_bind_ok performed
      cases returned
      exact tracked.finishes new regular committed
  | abort stamp transitionCommitId reason =>
      obtain ⟨store, aborted, returned⟩ := except_bind_ok performed
      cases returned
      exact tracked.aborts aborted

theorem Tracked.step (tracked : Tracked sourceRef system) {taken : Step}
    (new : DrawsNew system taken) (regular : Regular sourceRef system taken) :
    Tracked sourceRef (system.step taken) := by
  unfold System.step
  split
  · rename_i next performed
    exact tracked.performed new regular performed
  · exact tracked

theorem Tracked.run (tracked : Tracked sourceRef system) {steps : List Step}
    (new : system.Along DrawsNew steps) (regular : system.Along (Regular sourceRef) steps) :
    Tracked sourceRef (system.run steps) := by
  induction steps generalizing system with
  | nil => exact tracked
  | cons taken rest ih =>
      exact ih (tracked.step new.1 regular.1) new.2 regular.2

/-- Nothing is registered on a result yet. -/
structure Untouched (sourceRef : RecordRef) (system : System) : Prop where
  named : ∀ row ∈ system.store.works.rows, row.payload.workId = row.workId
  works : ∀ row ∈ system.store.works.rows, ¬ OnSource sourceRef row.payload
  registered : system.registered = []

omit [EntryHash] in
theorem Untouched.tracked (untouched : Untouched sourceRef system) :
    Tracked sourceRef system where
  named := untouched.named
  single := fun left member _ _ on => absurd on (untouched.works left member)
  closed := by simp [System.registeredFrom, untouched.registered]
  distinct := by simp [System.registeredFrom, untouched.registered]
  states := by simp [untouched.registered]

/-- In a run of regular steps each child of a result becomes at most one hypothesis. -/
theorem childrenOnce_run {start : System} {steps : List Step}
    (untouched : Untouched sourceRef start) (new : start.Along DrawsNew steps)
    (regular : start.Along (Regular sourceRef) steps) :
    ChildrenOnce sourceRef (start.run steps) :=
  (untouched.tracked.run new regular).childrenOnce

end Sastsimi.Hypotheses
