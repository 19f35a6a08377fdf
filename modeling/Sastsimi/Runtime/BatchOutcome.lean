import Sastsimi.Runtime.Frontier
import Sastsimi.Runtime.RegistrationSpec

/-!
# Outcomes are committed once

`commit_candidate_batch_outcome` answers `True` at most once for a candidate, whatever calls
come before and after.  It then left every registration of the outcome in the tables, and
answers `False` to the same call from then on.  A call that raises leaves the tables as they
were.
-/

namespace Sastsimi.Runtime

open SimpleStage Lib

variable [Platform] {scope : CheckpointIdentity}

namespace CandidateStore

/-! ## Registrations of an outcome -/

/-- A registration as the commit of its outcome leaves it: the hypothesis row, the link of the
candidate and the first checkpoint with the inputs of the seed. -/
structure Registered (scope : CheckpointIdentity) (key : CandidateKey)
    (registration : Registration) (store : CandidateStore) : Prop where
  row : (store.hypotheses scope.scopeKey).rows registration.hypothesisId =
    some (registeredRow registration.hypothesisRef 0 [])
  link : registration.hypothesisId ∈ store.links key
  first : FirstOn store.world.db scope registration.hypothesisId
    registration.checkpoint.inputRefs

variable {store after : CandidateStore} {scopeFingerprint candidateId : String}
  {registration other : Registration} {marker : String}

/-- One registration of an outcome. -/
abbrev registers (scope : CheckpointIdentity) (scopeFingerprint candidateId : String)
    (store : CandidateStore) (registration : Registration) : Except PyError CandidateStore :=
  store.registerCandidateConnection scope scopeFingerprint candidateId registration.hypothesisId
    registration.hypothesisRef (some registration.checkpoint) 0 []

theorem registered_row {key : CandidateKey} :
    ((store.registered scope key registration.hypothesisId registration.hypothesisRef
        registration.checkpoint 0 []).hypotheses scope.scopeKey) =
      (store.hypotheses scope.scopeKey).put registration.hypothesisId
        (registeredRow registration.hypothesisRef 0 []) := by
  simp [registered, withRegistered]

/-- A registration is in the tables right after it was written. -/
theorem Registered.of_registers
    (committed : registers scope scopeFingerprint candidateId store registration = .ok after) :
    Registered scope ⟨scope.scopeKey, scopeFingerprint, candidateId⟩ registration after := by
  obtain ⟨-, -, accepted, rfl⟩ := registerCandidateConnection_eq.1 committed
  constructor
  · rw [registered_row, HypothesisTable.put_rows_self]
  · simp [registered]
  · exact Database.firstOn_withFirst accepted.validSeed accepted.first

/-- The later registrations of the outcome leave it there. -/
theorem Registered.registers
    (registered : Registered scope ⟨scope.scopeKey, scopeFingerprint, candidateId⟩ registration
      store)
    (committed : registers scope scopeFingerprint candidateId store other = .ok after) :
    Registered scope ⟨scope.scopeKey, scopeFingerprint, candidateId⟩ registration after := by
  obtain ⟨-, -, accepted, rfl⟩ := registerCandidateConnection_eq.1 committed
  constructor
  · rw [registered_row]
    by_cases same : registration.hypothesisId = other.hypothesisId
    · have agrees := accepted.agrees _ (same ▸ registered.row)
      have ref := agrees.ref.resolve_left (by simp [registeredRow])
      rw [same, HypothesisTable.put_rows_self]
      exact congrArg (fun ref => some (⟨ref, 0, []⟩ : HypothesisRow)) ref.symm
    · rw [HypothesisTable.put_rows_of_ne same]
      exact registered.row
  · simp [CandidateStore.registered, registered.link]
  · obtain ⟨stored, found, inputs⟩ := registered.first
    exact ⟨stored, Database.withFirst_keeps accepted.validSeed found, inputs⟩

/-- Registrations write neither candidates nor outcomes. -/
theorem registers_columns
    (committed : registers scope scopeFingerprint candidateId store registration = .ok after) :
    after.candidates = store.candidates ∧ after.outcomes = store.outcomes := by
  obtain ⟨-, -, -, rfl⟩ := registerCandidateConnection_eq.1 committed
  exact ⟨rfl, rfl⟩

theorem registerAll_columns {registrations : List Registration} :
    (store.registerAll scope scopeFingerprint candidateId registrations).1.candidates =
        store.candidates
      ∧ (store.registerAll scope scopeFingerprint candidateId registrations).1.outcomes =
        store.outcomes := by
  let kept : CandidateStore → Prop := fun worked =>
    worked.candidates = store.candidates ∧ worked.outcomes = store.outcomes
  refine @runAll_keeps _ _ _ _ kept registrations ?_ store ⟨rfl, rfl⟩
  intro worked registration next _ committed earlier
  obtain ⟨candidates, outcomes⟩ := registers_columns committed
  exact ⟨candidates.trans earlier.1, outcomes.trans earlier.2⟩

theorem registerAll_ok {registrations : List Registration}
    (returned : store.registerAll scope scopeFingerprint candidateId registrations =
      (after, .ok ())) :
    ∀ registration ∈ registrations,
      Registered scope ⟨scope.scopeKey, scopeFingerprint, candidateId⟩ registration after :=
  @runAll_ok _ _ _ _
    (fun registration worked =>
      Registered scope ⟨scope.scopeKey, scopeFingerprint, candidateId⟩ registration worked)
    (fun committed => .of_registers committed)
    (fun committed registered => registered.registers committed) _ _ _ returned

/-! ## What calls keep -/

/-- What is stored stays stored: outcomes, selected candidates, links, rows with a reference,
and first checkpoints. -/
structure Persists (before after : CandidateStore) : Prop where
  outcomes : ∀ key outcome, before.outcomes key = some outcome →
    after.outcomes key = some outcome
  selected : ∀ key, before.Selected key → after.Selected key
  links : ∀ key, before.links key ⊆ after.links key
  rows : ∀ scopeKey hypothesisId row,
    (before.hypotheses scopeKey).rows hypothesisId = some row → row.hypothesisRef ≠ none →
    (after.hypotheses scopeKey).rows hypothesisId = some row
  first : ∀ (scope : CheckpointIdentity) hypothesisId stored,
    before.world.db.get (scope.child hypothesisId) proConDone = some stored →
    after.world.db.get (scope.child hypothesisId) proConDone = some stored
  others : ∀ identity stage, stage ≠ proConDone →
    after.world.db.get identity stage = before.world.db.get identity stage

theorem Persists.refl : Persists store store :=
  ⟨fun _ _ => id, fun _ => id, fun _ => Finset.Subset.refl _, fun _ _ _ found _ => found,
    fun _ _ _ => id, fun _ _ _ => rfl⟩

theorem Persists.trans {between : CandidateStore} (first : Persists store between)
    (second : Persists between after) : Persists store after where
  outcomes := fun key outcome stored =>
    second.outcomes key outcome (first.outcomes key outcome stored)
  selected := fun key selected => second.selected key (first.selected key selected)
  links := fun key => Finset.Subset.trans (first.links key) (second.links key)
  rows := fun scopeKey hypothesisId row stored known =>
    second.rows scopeKey hypothesisId row (first.rows scopeKey hypothesisId row stored known) known
  first := fun scope hypothesisId stored found =>
    second.first scope hypothesisId stored (first.first scope hypothesisId stored found)
  others := fun identity stage later =>
    (second.others identity stage later).trans (first.others identity stage later)

/-- Only candidates changed, and no selected one lost its decision. -/
theorem Persists.of_candidates {candidates : CandidateKey → Option CandidateRow}
    (selected : ∀ key, store.Selected key → Selected { store with candidates } key) :
    Persists store { store with candidates } :=
  { Persists.refl with selected }

theorem Selected.update {key other : CandidateKey} {row : CandidateRow}
    (kept : store.Selected key → row.decision = "INCLUDE" ∨ row.decision = "UNDECIDED")
    (selected : store.Selected other) :
    Selected { store with candidates := Function.update store.candidates key (some row) }
      other := by
  by_cases same : other = key
  · subst same
    exact ⟨row, by simp, kept selected⟩
  · obtain ⟨stored, found, decided⟩ := selected
    exact ⟨stored, by simp [same, found], decided⟩

theorem upsertCandidate_persists
    (committed : store.upsertCandidate scope scopeFingerprint candidateId = .ok after) :
    Persists store after := by
  obtain ⟨key, -, rest⟩ := except_bind_ok committed
  split at rest
  · rename_i missing
    cases rest
    apply Persists.of_candidates
    refine fun other => Selected.update ?_
    rintro ⟨row, found, -⟩
    rw [missing] at found
    cases found
  · cases rest
    exact .refl

theorem saveCandidateDecision_persists {decision reason : String}
    {evidenceRefs : List StoredDataRef} {attemptRef : Option StoredDataRef}
    (committed : store.saveCandidateDecision scope scopeFingerprint candidateId decision reason
      evidenceRefs attemptRef = .ok after) : Persists store after := by
  obtain ⟨key, -, rest⟩ := except_bind_ok committed
  obtain ⟨-, rest⟩ := raiseIf_bind_ok.1 rest
  obtain ⟨-, rest⟩ := raiseIf_bind_ok.1 rest
  obtain ⟨_, -, rest⟩ := except_bind_ok rest
  obtain ⟨_, -, rest⟩ := except_bind_ok rest
  split at rest
  · cases rest
  · rename_i row stored
    split at rest
    · split at rest
      · cases rest
        exact .refl
      · cases rest
    · rename_i open_
      cases rest
      apply Persists.of_candidates
      refine fun other => Selected.update ?_
      rintro ⟨found, foundRow, decided⟩
      rw [stored] at foundRow
      cases foundRow
      rcases decided with included | undecided <;> simp_all

theorem saveCandidateDeepStatus_persists {deepStatus : String}
    (committed : store.saveCandidateDeepStatus scope scopeFingerprint candidateId deepStatus =
      .ok after) : Persists store after := by
  obtain ⟨key, -, rest⟩ := except_bind_ok committed
  obtain ⟨-, rest⟩ := raiseIf_bind_ok.1 rest
  split at rest
  · cases rest
  · rename_i row stored
    obtain ⟨-, saved⟩ := raiseIf_bind_ok.1 rest
    cases saved
    apply Persists.of_candidates
    refine fun other => Selected.update ?_
    rintro ⟨found, foundRow, decided⟩
    rw [stored] at foundRow
    cases foundRow
    exact decided

theorem Persists.of_links {key : CandidateKey} {hypothesisId : String} :
    Persists store { store with
      links := Function.update store.links key (insert hypothesisId (store.links key)) } := by
  refine { Persists.refl with links := fun other => ?_ }
  by_cases same : other = key
  · subst same
    simp
  · simp [same]

theorem linkCandidateHypothesis_persists {hypothesisId : String}
    (committed : store.linkCandidateHypothesis scope scopeFingerprint candidateId hypothesisId =
      .ok after) : Persists store after := by
  obtain ⟨key, -, rest⟩ := except_bind_ok committed
  obtain ⟨-, linked⟩ := raiseIf_bind_ok.1 rest
  cases linked
  exact .of_links

/-- A registered row takes the place of a stored one only when that has no reference. -/
theorem Persists.of_registered {hypothesisId : String} {hypothesisRef : StoredDataRef}
    {chainDepth : Int} {parents : List String} {db : Database}
    (agrees : ∀ stored, (store.hypotheses scope.scopeKey).rows hypothesisId = some stored →
      stored.Agrees (registeredRow hypothesisRef chainDepth parents))
    (first : ∀ (other : CheckpointIdentity) otherId stored,
      store.world.db.get (other.child otherId) proConDone = some stored →
      db.get (other.child otherId) proConDone = some stored)
    (others : ∀ identity stage, stage ≠ proConDone →
      db.get identity stage = store.world.db.get identity stage) :
    Persists store (store.withRegistered scope
      (db, (store.hypotheses scope.scopeKey).put hypothesisId
        (registeredRow hypothesisRef chainDepth parents))) := by
  refine { Persists.refl with rows := ?_, first, others }
  intro scopeKey otherId row stored known
  by_cases same : scopeKey = scope.scopeKey
  · subst same
    simp only [withRegistered, Function.update_self]
    by_cases sameId : otherId = hypothesisId
    · subst sameId
      obtain ⟨ref, depth, sameParents⟩ := agrees row stored
      have sameRow : row = registeredRow hypothesisRef chainDepth parents := by
        cases row
        simp only [registeredRow, HypothesisRow.mk.injEq] at *
        exact ⟨ref.resolve_left known, depth, sameParents⟩
      rw [sameRow, HypothesisTable.put_rows_self]
    · rwa [HypothesisTable.put_rows_of_ne sameId]
  · simpa [withRegistered, same] using stored

theorem registerFreeConnection_persists {hypothesisId : String} {hypothesisRef : StoredDataRef}
    {checkpoint : StageCheckpoint} {chainDepth : Int} {parents : List String}
    (committed : store.registerFreeConnection scope hypothesisId hypothesisRef checkpoint
      chainDepth parents = .ok after) : Persists store after := by
  obtain ⟨tables, registers, stored⟩ := except_bind_ok committed
  obtain ⟨-, accepted, rfl⟩ := registerFreeHypothesis_eq.1 registers
  cases stored
  exact .of_registered accepted.agrees
    (fun _ _ _ => Database.withFirst_keeps accepted.validSeed)
    fun _ _ => Database.withFirst_others accepted.validSeed

theorem registerCandidateConnection_persists {hypothesisId : String}
    {hypothesisRef : StoredDataRef} {checkpoint : Option StageCheckpoint} {chainDepth : Int}
    {parents : List String}
    (committed : store.registerCandidateConnection scope scopeFingerprint candidateId
      hypothesisId hypothesisRef checkpoint chainDepth parents = .ok after) :
    Persists store after := by
  cases checkpoint with
  | none =>
      obtain ⟨tables, registers, stored⟩ := except_bind_ok committed
      obtain ⟨agrees, rfl⟩ := registerCandidateHypothesis_none registers
      cases stored
      exact (Persists.of_registered agrees (fun _ _ _ => id) fun _ _ _ => rfl).trans .of_links
  | some seed =>
      obtain ⟨-, -, accepted, rfl⟩ := registerCandidateConnection_eq.1 committed
      exact (Persists.of_registered accepted.agrees
        (fun _ _ _ => Database.withFirst_keeps accepted.validSeed)
        fun _ _ => Database.withFirst_others accepted.validSeed).trans .of_links

theorem Persists.dirty {analysisId : String} :
    Persists store (store.markDashboardDirty analysisId marker) :=
  { Persists.refl with }

theorem dirtyWhenChanged_persists {before : CandidateStore} {key : Option CandidateKey}
    {hypothesisId : String} :
    Persists store (dirtyWhenChanged before store scope key hypothesisId marker) := by
  unfold dirtyWhenChanged
  split
  · exact .dirty
  · exact .refl

/-- A transaction keeps what its body keeps when it returns. -/
theorem Persists.atomically {α : Type}
    {body : CandidateStore → CandidateStore × Except PyError α}
    (keeps : ∀ {after value}, body store = (after, .ok value) → Persists store after) :
    Persists store (Lib.atomically body store).1 := by
  unfold Lib.atomically
  split
  · exact keeps ‹_›
  · exact .refl

theorem registerFreeHypothesis_persists {hypothesisId : String}
    {hypothesisRef : StoredDataRef} {checkpoint : StageCheckpoint} {chainDepth : Int}
    {parents : List String} :
    Persists store (store.registerFreeHypothesis scope hypothesisId hypothesisRef checkpoint
      chainDepth parents marker).1 := by
  apply Persists.atomically
  intro after value returned
  split at returned
  · cases returned
  · cases returned
    exact (registerFreeConnection_persists ‹_›).trans dirtyWhenChanged_persists

theorem registerCandidateHypothesis_persists {hypothesisId : String}
    {hypothesisRef : StoredDataRef} {checkpoint : Option StageCheckpoint} {chainDepth : Int}
    {parents : List String} :
    Persists store (store.registerCandidateHypothesis scope scopeFingerprint candidateId
      hypothesisId hypothesisRef checkpoint chainDepth parents marker).1 := by
  apply Persists.atomically
  intro after value returned
  split at returned
  · cases returned
  · cases returned
    exact (registerCandidateConnection_persists ‹_›).trans dirtyWhenChanged_persists

theorem registerAll_persists {registrations : List Registration} :
    Persists store (store.registerAll scope scopeFingerprint candidateId registrations).1 :=
  @runAll_keeps _ _ _ _ (Persists store)
    registrations
    (fun _ committed kept => kept.trans (registerCandidateConnection_persists committed))
    store .refl

theorem registerBatch_persists {registrations : List Registration} :
    Persists store (store.registerCandidateHypothesesBatch scope scopeFingerprint candidateId
      registrations marker).1 := by
  unfold registerCandidateHypothesesBatch
  split
  · exact .refl
  · apply Persists.atomically
    intro after value returned
    have kept : Persists store (store.registerAll scope scopeFingerprint candidateId
      registrations).1 := registerAll_persists
    split at returned
    · cases returned
    · rename_i worked ran
      rw [ran] at kept
      cases returned
      split
      · exact kept.trans .dirty
      · exact kept

/-! ## One commit -/

variable {outcome : BatchOutcome} {registrations : List Registration}

/-- What a commit answers `True` on and leaves behind. -/
structure Committed (before after : CandidateStore) (scope : CheckpointIdentity)
    (key : CandidateKey) (outcome : BatchOutcome) (registrations : List Registration) :
    Prop where
  vacant : before.outcomes key = none
  selected : before.Selected key
  stored : after.outcomes = Function.update before.outcomes key (some outcome)
  registered : ∀ registration ∈ registrations, Registered scope key registration after
  deepStatus : ∃ row, after.candidates key = some row
    ∧ deepStatusOf outcome.status = some row.deepStatus

/-- The checks a commit makes before its transaction. -/
structure CommitChecks (scope : CheckpointIdentity) (scopeFingerprint candidateId : String)
    (outcome : BatchOutcome) (registrations : List Registration) (deepStatus : String) :
    Prop where
  key : candidateKey scope scopeFingerprint candidateId =
    .ok ⟨scope.scopeKey, scopeFingerprint, candidateId⟩
  linkable : LinkableRef scope outcome.resultRef
  valid : outcomeInvalid candidateId outcome registrations = false
  status : deepStatusOf outcome.status = some deepStatus

omit [Platform] in
theorem candidateKey_ok {key : CandidateKey}
    (found : candidateKey scope scopeFingerprint candidateId = .ok key) :
    key = ⟨scope.scopeKey, scopeFingerprint, candidateId⟩ := by
  obtain ⟨-, rest⟩ := raiseIf_bind_ok.1 found
  cases rest
  rfl

/-- A commit is its transaction, once the arguments passed the checks. -/
theorem commitCandidateBatchOutcome_eq {deepStatus : String}
    (checks : CommitChecks scope scopeFingerprint candidateId outcome registrations
      deepStatus) :
    store.commitCandidateBatchOutcome scope scopeFingerprint candidateId outcome registrations
        marker =
      atomically (commitOutcomeTransaction scope ⟨scope.scopeKey, scopeFingerprint, candidateId⟩
        outcome deepStatus registrations marker) store := by
  have linked : candidateRef scope (some outcome.resultRef) = .ok (some outcome.resultRef) :=
    checks.linkable
  simp [commitCandidateBatchOutcome, checks.key, linked, checks.valid, checks.status]

/-- A commit that returns passed the checks. -/
theorem commitCandidateBatchOutcome_checks {value : Bool}
    (returned : store.commitCandidateBatchOutcome scope scopeFingerprint candidateId outcome
      registrations marker = (after, .ok value)) :
    ∃ deepStatus, CommitChecks scope scopeFingerprint candidateId outcome registrations
      deepStatus := by
  unfold commitCandidateBatchOutcome at returned
  split at returned
  · cases returned
  · rename_i key found
    cases candidateKey_ok found
    split at returned
    · cases returned
    · rename_i linked
      split at returned
      · cases returned
      · rename_i valid
        split at returned
        · cases returned
        · rename_i deepStatus status
          exact ⟨deepStatus, found, (candidateRef_ok.1 linked).1, by simpa using valid, status⟩

/-- A candidate that awaits an outcome is selected. -/
theorem selected_of_awaits {key : CandidateKey}
    (awaits : ¬ (!awaitsOutcome (store.candidates key)) = true) : store.Selected key := by
  cases found : store.candidates key with
  | none => simp [found, awaitsOutcome] at awaits
  | some row =>
      have decided : row.decision ∈ ["INCLUDE", "UNDECIDED"] := by
        simp only [found, awaitsOutcome, Bool.not_eq_true', Bool.not_eq_false,
          Bool.and_eq_true, decide_eq_true_eq] at awaits
        exact awaits.1
      exact ⟨row, found, by simpa using decided⟩

/-- The store after the registrations, with the outcome and the deep status. -/
def settled (store : CandidateStore) (key : CandidateKey) (outcome : BatchOutcome)
    (deepStatus : String) : CandidateStore :=
  { store with
    candidates := Function.update store.candidates key
      ((store.candidates key).map fun row => { row with deepStatus })
    outcomes := Function.update store.outcomes key (some outcome) }

/-- What a commit did that answers `True`. -/
theorem commitCandidateBatchOutcome_ran
    (returned : store.commitCandidateBatchOutcome scope scopeFingerprint candidateId outcome
      registrations marker = (after, .ok true)) :
    ∃ deepStatus worked, deepStatusOf outcome.status = some deepStatus
      ∧ store.outcomes ⟨scope.scopeKey, scopeFingerprint, candidateId⟩ = none
      ∧ store.Selected ⟨scope.scopeKey, scopeFingerprint, candidateId⟩
      ∧ store.registerAll scope scopeFingerprint candidateId registrations = (worked, .ok ())
      ∧ after = (worked.settled ⟨scope.scopeKey, scopeFingerprint, candidateId⟩ outcome
        deepStatus).markDashboardDirty scope.analysisId marker := by
  obtain ⟨deepStatus, checks⟩ := commitCandidateBatchOutcome_checks returned
  rw [commitCandidateBatchOutcome_eq checks, atomically_ok] at returned
  unfold commitOutcomeTransaction at returned
  split at returned
  · split at returned <;> cases returned
  · rename_i vacant
    split at returned
    · cases returned
    · rename_i awaits
      split at returned
      · cases returned
      · rename_i worked ran
        cases returned
        exact ⟨deepStatus, worked, checks.status, vacant, selected_of_awaits awaits, ran, rfl⟩

/-- A commit that answers `True`. -/
theorem commitCandidateBatchOutcome_true
    (returned : store.commitCandidateBatchOutcome scope scopeFingerprint candidateId outcome
      registrations marker = (after, .ok true)) :
    Committed store after scope ⟨scope.scopeKey, scopeFingerprint, candidateId⟩ outcome
      registrations := by
  obtain ⟨deepStatus, worked, status, vacant, selected, ran, rfl⟩ :=
    commitCandidateBatchOutcome_ran returned
  have columns := @registerAll_columns _ scope store scopeFingerprint candidateId registrations
  rw [ran] at columns
  have sameCandidates : worked.candidates = store.candidates := columns.1
  have sameOutcomes : worked.outcomes = store.outcomes := columns.2
  refine ⟨vacant, selected, ?_, ?_, ?_⟩
  · simp [markDashboardDirty, settled, sameOutcomes]
  · intro registration member
    obtain ⟨row, link, first⟩ := registerAll_ok ran registration member
    exact ⟨row, link, first⟩
  · obtain ⟨row, candidate, -⟩ := selected
    refine ⟨{ row with deepStatus }, ?_, status⟩
    simp [markDashboardDirty, settled, sameCandidates, candidate]

/-- A commit that answers `False` found its outcome and changes nothing. -/
theorem commitCandidateBatchOutcome_false
    (returned : store.commitCandidateBatchOutcome scope scopeFingerprint candidateId outcome
      registrations marker = (after, .ok false)) :
    after = store
      ∧ store.outcomes ⟨scope.scopeKey, scopeFingerprint, candidateId⟩ = some outcome := by
  obtain ⟨deepStatus, checks⟩ := commitCandidateBatchOutcome_checks returned
  rw [commitCandidateBatchOutcome_eq checks, atomically_ok] at returned
  unfold commitOutcomeTransaction at returned
  split at returned
  · rename_i prior stored
    split at returned
    · cases returned
    · rename_i same
      cases returned
      exact ⟨rfl, by rw [stored, not_not.1 same]⟩
  · split at returned
    · cases returned
    · split at returned <;> cases returned

/-- A commit that raises changes nothing, wherever in the registrations it raised. -/
theorem commitCandidateBatchOutcome_error {reason : PyError}
    (raised : (store.commitCandidateBatchOutcome scope scopeFingerprint candidateId outcome
      registrations marker).2 = .error reason) :
    (store.commitCandidateBatchOutcome scope scopeFingerprint candidateId outcome registrations
      marker).1 = store := by
  unfold commitCandidateBatchOutcome at raised ⊢
  split at raised
  · rfl
  · split at raised
    · rfl
    · split at raised
      · simp [*]
      · split at raised
        · simp [*]
        · simp only [*, Bool.false_eq_true, if_false]
          exact atomically_error raised

/-- Storing an outcome of a candidate without one keeps what is stored. -/
theorem Persists.settled {key : CandidateKey} {deepStatus : String}
    (vacant : store.outcomes key = none) :
    Persists store (store.settled key outcome deepStatus) := by
  refine { Persists.refl with outcomes := ?_, selected := ?_ }
  · intro other stored found
    have different : other ≠ key := by
      rintro rfl
      rw [vacant] at found
      cases found
    simpa [CandidateStore.settled, different] using found
  · rintro other ⟨row, found, decided⟩
    by_cases same : other = key
    · subst same
      exact ⟨{ row with deepStatus }, by simp [CandidateStore.settled, found], decided⟩
    · exact ⟨row, by simp [CandidateStore.settled, same, found], decided⟩

/-- A stored outcome is answered `False` to the same call. -/
theorem commitCandidateBatchOutcome_repeated {deepStatus : String}
    (checks : CommitChecks scope scopeFingerprint candidateId outcome registrations deepStatus)
    (stored : store.outcomes ⟨scope.scopeKey, scopeFingerprint, candidateId⟩ = some outcome) :
    store.commitCandidateBatchOutcome scope scopeFingerprint candidateId outcome registrations
      marker = (store, .ok false) := by
  rw [commitCandidateBatchOutcome_eq checks, atomically_ok]
  simp [commitOutcomeTransaction, stored]

/-- A commit keeps what is stored. -/
theorem commitCandidateBatchOutcome_persists :
    Persists store (store.commitCandidateBatchOutcome scope scopeFingerprint candidateId outcome
      registrations marker).1 := by
  cases result : store.commitCandidateBatchOutcome scope scopeFingerprint candidateId outcome
    registrations marker with
  | mk after answer =>
      cases answer with
      | error reason =>
          have same := @commitCandidateBatchOutcome_error _ scope store scopeFingerprint
            candidateId marker outcome registrations reason (by rw [result])
          rw [result] at same
          exact same ▸ .refl
      | ok value =>
          cases value with
          | false => exact (commitCandidateBatchOutcome_false result).1 ▸ .refl
          | true =>
              obtain ⟨deepStatus, worked, -, vacant, -, ran, rfl⟩ :=
                commitCandidateBatchOutcome_ran result
              have kept : Persists store (store.registerAll scope scopeFingerprint candidateId
                registrations).1 := registerAll_persists
              have columns := @registerAll_columns _ scope store scopeFingerprint candidateId
                registrations
              rw [ran] at kept columns
              exact kept.trans (.trans (.settled ((congrFun columns.2 _).trans vacant)) .dirty)

/-! ## Runs of calls -/

theorem committed_persists {result : Except PyError CandidateStore}
    (keeps : ∀ {after}, result = .ok after → Persists store after) :
    Persists store (store.committed result).1 := by
  unfold committed
  split
  · exact keeps rfl
  · exact .refl

/-- A call that neither rewrites a hypothesis nor resumes one keeps what is stored. -/
theorem perform_persists {call : String × CandidateCall}
    (upserts : ∀ scope hypothesisId row, call.2 ≠ .upsertHypothesis scope hypothesisId row)
    (resumes : ∀ env passes identity, call.2 ≠ .resume env passes identity) :
    Persists store (store.perform call).1 := by
  obtain ⟨marker, call⟩ := call
  cases call with
  | upsertCandidate => exact committed_persists upsertCandidate_persists
  | saveDecision => exact committed_persists saveCandidateDecision_persists
  | saveDeepStatus => exact committed_persists saveCandidateDeepStatus_persists
  | linkHypothesis => exact committed_persists linkCandidateHypothesis_persists
  | upsertHypothesis scope hypothesisId row => exact absurd rfl (upserts scope hypothesisId row)
  | registerFree => exact registerFreeHypothesis_persists
  | registerCandidate => exact registerCandidateHypothesis_persists
  | registerBatch => exact registerBatch_persists
  | commitOutcome => exact commitCandidateBatchOutcome_persists
  | resume env passes identity => exact absurd rfl (resumes env passes identity)

/-- A stored outcome is never overwritten. -/
theorem writeOnce_outcomes (key : CandidateKey) :
    WriteOnce CandidateStore.perform fun store => store.outcomes key := by
  constructor
  intro store call outcome stored
  by_cases upserts : ∃ scope hypothesisId row, call.2 = .upsertHypothesis scope hypothesisId row
  · obtain ⟨scope, hypothesisId, row, isUpsert⟩ := upserts
    simp only [perform, isUpsert, committed]
    split
    · rename_i after upserted
      obtain ⟨table, -, written⟩ := except_bind_ok upserted
      cases written
      exact stored
    · exact stored
  · by_cases resumes : ∃ env passes identity, call.2 = .resume env passes identity
    · obtain ⟨env, passes, identity, isResume⟩ := resumes
      simp only [perform, isResume]
      exact stored
    · simp only [not_exists] at upserts resumes
      exact (perform_persists upserts resumes).outcomes key outcome stored

/-- The call committed an outcome of the candidate. -/
def commits (key : CandidateKey) (call : String × CandidateCall)
    (answer : Except PyError Bool) : Bool :=
  match call.2, answer with
  | .commitOutcome scope scopeFingerprint candidateId _ _, .ok true =>
      decide (key = ⟨scope.scopeKey, scopeFingerprint, candidateId⟩)
  | _, _ => false

theorem commits_iff {key : CandidateKey} {call : String × CandidateCall}
    (committed : commits key call (store.perform call).2 = true) :
    ∃ scope scopeFingerprint candidateId outcome registrations,
      key = ⟨scope.scopeKey, scopeFingerprint, candidateId⟩
        ∧ Committed store (store.perform call).1 scope
          ⟨scope.scopeKey, scopeFingerprint, candidateId⟩ outcome registrations := by
  obtain ⟨marker, call⟩ := call
  cases call with
  | commitOutcome scope scopeFingerprint candidateId outcome registrations =>
      cases result : store.commitCandidateBatchOutcome scope scopeFingerprint candidateId outcome
        registrations marker with
      | mk after answer =>
          simp only [perform, result, commits] at committed ⊢
          cases answer with
          | error => cases committed
          | ok value =>
              cases value with
              | false => cases committed
              | true =>
                  exact ⟨scope, scopeFingerprint, candidateId, outcome, registrations,
                    of_decide_eq_true committed, commitCandidateBatchOutcome_true result⟩
  | _ => simp [commits] at committed

/-- A call that raises changes nothing. -/
theorem perform_error {call : String × CandidateCall} {reason : PyError}
    (raised : (store.perform call).2 = .error reason) : (store.perform call).1 = store := by
  have unit : ∀ {result : CandidateStore × Except PyError Unit},
      (answered result).2 = .error reason → result.2 = .error reason := by
    rintro ⟨after, answer⟩ raised
    cases answer with
    | error => exact congrArg _ (Except.error.inj raised)
    | ok => cases raised
  have transaction : ∀ {result : Except PyError CandidateStore},
      (store.committed result).2 = .error reason → (store.committed result).1 = store := by
    intro result raised
    cases result with
    | error => rfl
    | ok => cases raised
  obtain ⟨marker, call⟩ := call
  cases call with
  | upsertCandidate => exact transaction raised
  | saveDecision => exact transaction raised
  | saveDeepStatus => exact transaction raised
  | linkHypothesis => exact transaction raised
  | upsertHypothesis => exact transaction raised
  | registerFree => exact atomically_error (unit raised)
  | registerCandidate => exact atomically_error (unit raised)
  | registerBatch =>
      have raises := unit raised
      simp only [perform, answered, registerCandidateHypothesesBatch] at raises ⊢
      split
      · rfl
      · rename_i some_
        rw [if_neg some_] at raises
        exact atomically_error raises
  | commitOutcome => exact commitCandidateBatchOutcome_error raised
  | resume => cases raised

/-- Along every run of calls from any store, a candidate gets at most one outcome.  A commit
that answered `True` left every registration of the outcome and the deep status in the tables,
the same call answers `False` and changes nothing from then on, and a call that raises changes
nothing. -/
theorem commitCandidateBatchOutcome_exactlyOnce (start : CandidateStore)
    (calls : List (String × CandidateCall)) :
    (∀ key, countAnswers perform (commits key) start calls ≤ 1)
      ∧ (∀ scope scopeFingerprint candidateId outcome registrations marker after,
        (runCalls perform start calls).commitCandidateBatchOutcome scope scopeFingerprint
            candidateId outcome registrations marker = (after, .ok true) →
          (∀ registration ∈ registrations,
            Registered scope ⟨scope.scopeKey, scopeFingerprint, candidateId⟩ registration after)
          ∧ (∃ row,
            after.candidates ⟨scope.scopeKey, scopeFingerprint, candidateId⟩ = some row
              ∧ deepStatusOf outcome.status = some row.deepStatus)
          ∧ ∀ later again,
            (runCalls perform after later).commitCandidateBatchOutcome scope scopeFingerprint
              candidateId outcome registrations again = (runCalls perform after later, .ok false))
      ∧ ∀ call reason, ((runCalls perform start calls).perform call).2 = .error reason →
        ((runCalls perform start calls).perform call).1 = runCalls perform start calls := by
  refine ⟨fun key => ?_, ?_, fun call reason => perform_error⟩
  · apply (writeOnce_outcomes key).count_le_one
    · intro store call answered
      obtain ⟨_, _, _, _, _, same, committed⟩ := commits_iff answered
      exact same ▸ committed.vacant
    · intro store call answered
      obtain ⟨_, _, _, outcome, _, same, committed⟩ := commits_iff answered
      rw [committed.stored, same]
      simp
  · intro scope scopeFingerprint candidateId outcome registrations marker after returned
    have committed := commitCandidateBatchOutcome_true returned
    obtain ⟨deepStatus, checks⟩ := commitCandidateBatchOutcome_checks returned
    refine ⟨committed.registered, committed.deepStatus, fun later again => ?_⟩
    apply commitCandidateBatchOutcome_repeated checks
    apply (writeOnce_outcomes ⟨scope.scopeKey, scopeFingerprint, candidateId⟩).run
    simp [committed.stored]

end CandidateStore

end Sastsimi.Runtime

namespace Sastsimi.Runtime.Concrete

open SimpleStage Lib CandidateStore

/-- The scope of the hypothesis. -/
def candidateScope : CheckpointIdentity := { hypothesis with hypothesisId := none }

/-- A selected candidate without an outcome. -/
def selectedCandidate : CandidateStore where
  world := { db := ⟨fun _ => none, [], Database.no_rows⟩ }
  hypotheses _ := .empty
  candidates key :=
    if key = ⟨candidateScope.scopeKey, "scope", "candidate"⟩ then
      some { decision := "INCLUDE", decisionReason := "source to sink" }
    else none
  links _ := ∅
  outcomes _ := none
  dashboard := none

/-- The verdict of one batch. -/
def hypothesesFound : BatchOutcome :=
  ⟨"batch", "bundle", none, "context", "HYPOTHESES", artifact "result"⟩

/-- The store after the verdict was committed with one hypothesis. -/
def outcomeCommitted : CandidateStore × Except PyError Bool :=
  selectedCandidate.commitCandidateBatchOutcome candidateScope "scope" "candidate"
    hypothesesFound [⟨"hypothesis", artifact "proposal", registered⟩] "marker"

/-- The commit answers `True`, and `False` after any further calls. -/
theorem outcomeCommitted_once :
    outcomeCommitted.2.toOption = some true
      ∧ ∀ later again,
        ((runCalls perform outcomeCommitted.1 later).commitCandidateBatchOutcome candidateScope
          "scope" "candidate" hypothesesFound [⟨"hypothesis", artifact "proposal", registered⟩]
          again) = (runCalls perform outcomeCommitted.1 later, .ok false) := by
  have answered : outcomeCommitted.2.toOption = some true := by decide +kernel
  refine ⟨answered, ?_⟩
  have returned : outcomeCommitted = (outcomeCommitted.1, .ok true) := by
    cases result : outcomeCommitted with
    | mk after answer =>
        rw [result] at answered
        cases answer with
        | error => cases answered
        | ok value => cases answered; rfl
  exact ((commitCandidateBatchOutcome_exactlyOnce selectedCandidate []).2.1 _ _ _ _ _ _ _
    returned).2.2

end Sastsimi.Runtime.Concrete
