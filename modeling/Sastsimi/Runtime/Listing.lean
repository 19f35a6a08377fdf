import Sastsimi.Runtime.Completion

/-!
# Listing incomplete hypotheses

The store of one scope: its hypothesis table and the durable world.  Registrations, calls of
the runner on registered hypotheses and changes elsewhere keep every hypothesis in a state in
which `list_incomplete_hypotheses` and the runner agree on what is finished.
-/

namespace Sastsimi.Runtime

open SimpleStage Lib

variable [Platform] {env : RunnerEnv} {scope : CheckpointIdentity} {hypothesisId : String}

/-! ## The store of a scope -/

/-- The hypothesis table of a scope beside the durable world. -/
structure ScopeStore where
  world : World
  table : HypothesisTable

/-- The rows of all hypotheses of the analysis are the same. -/
def SameHypotheses (scope : CheckpointIdentity) (before after : Database) : Prop :=
  ∀ key : CheckpointKey, key.analysisId = scope.analysisId → key.hypothesisKey ≠ "" →
    after.checkpoints key = before.checkpoints key

/-- The stores that registrations and calls of the runner reach from a new scope, whatever
happens at other scopes in between. -/
inductive ScopeReachable (scope : CheckpointIdentity) : ScopeStore → Prop where
  | created {world : World}
      (unused : ∀ key : CheckpointKey, key.analysisId = scope.analysisId →
        key.hypothesisKey ≠ "" → world.db.checkpoints key = none) :
      ScopeReachable scope ⟨world, .empty⟩
  | upserted {store : ScopeStore} {row : HypothesisRow} {table : HypothesisTable}
      {hypothesisId : String} (reached : ScopeReachable scope store)
      (committed : upsertHypothesis store.table scope hypothesisId row = .ok table) :
      ScopeReachable scope ⟨store.world, table⟩
  | registeredFree {store : ScopeStore} {db : Database} {table : HypothesisTable}
      {hypothesisId : String} {hypothesisRef : StoredDataRef} {checkpoint : StageCheckpoint}
      {chainDepth : Int} {parents : List String} (reached : ScopeReachable scope store)
      (committed : registerFreeHypothesis store.world.db store.table scope hypothesisId
        hypothesisRef checkpoint chainDepth parents = .ok (db, table)) :
      ScopeReachable scope ⟨{ store.world with db }, table⟩
  | registeredCandidate {store : ScopeStore} {db : Database} {table : HypothesisTable}
      {scopeFingerprint : String} {decision : Option String} {hypothesisId : String}
      {hypothesisRef : StoredDataRef} {checkpoint : Option StageCheckpoint}
      {chainDepth : Int} {parents : List String} (reached : ScopeReachable scope store)
      (committed : registerCandidateHypothesis store.world.db store.table scope
        scopeFingerprint decision hypothesisId hypothesisRef checkpoint chainDepth parents =
          .ok (db, table)) :
      ScopeReachable scope ⟨{ store.world with db }, table⟩
  | resumed {store : ScopeStore} {hypothesisId : String} (env : RunnerEnv) (passes : Nat)
      (reached : ScopeReachable scope store)
      (registered : store.table.rows hypothesisId ≠ none) :
      ScopeReachable scope
        ⟨(resumeHypothesis env passes (scope.child hypothesisId) store.world).2, store.table⟩
  | elsewhere {store : ScopeStore} {world : World} (reached : ScopeReachable scope store)
      (same : SameHypotheses scope store.world.db world.db) :
      ScopeReachable scope ⟨world, store.table⟩

/-! ## The invariant -/

/-- The rows of a hypothesis are its own, a walked prefix, and tidy. -/
structure HypothesisSound (db : Database) (scope : CheckpointIdentity)
    (hypothesisId : String) : Prop where
  owned : ∀ stage checkpoint,
    db.checkpoints ⟨scope.analysisId, hypothesisId, stage⟩ = some checkpoint →
    checkpoint.identity = scope.child hypothesisId
  frontier : Frontier db (scope.child hypothesisId)
  tidy : Tidy db (scope.child hypothesisId)

/-- Registered hypotheses have a name, and every hypothesis is sound. -/
structure ScopeStore.Sound (scope : CheckpointIdentity) (store : ScopeStore) : Prop where
  named : ∀ hypothesisId, store.table.rows hypothesisId ≠ none → hypothesisId ≠ ""
  sound : ∀ hypothesisId, hypothesisId ≠ "" →
    HypothesisSound store.world.db scope hypothesisId

theorem get_child {db : Database} {stage : SimpleStage}
    (owned : ∀ checkpoint,
      db.checkpoints ⟨scope.analysisId, hypothesisId, stage⟩ = some checkpoint →
      checkpoint.identity = scope.child hypothesisId) :
    db.get (scope.child hypothesisId) stage =
      db.checkpoints ⟨scope.analysisId, hypothesisId, stage⟩ := by
  have key : (scope.child hypothesisId).key stage =
      ⟨scope.analysisId, hypothesisId, stage⟩ := rfl
  rw [Database.get, key]
  cases stored : db.checkpoints ⟨scope.analysisId, hypothesisId, stage⟩ with
  | none => rfl
  | some checkpoint => simp [owned checkpoint stored]

/-- A hypothesis whose rows did not change stays sound. -/
theorem HypothesisSound.congr {db after : Database}
    (sound : HypothesisSound db scope hypothesisId)
    (same : ∀ stage, after.checkpoints ⟨scope.analysisId, hypothesisId, stage⟩ =
      db.checkpoints ⟨scope.analysisId, hypothesisId, stage⟩) :
    HypothesisSound after scope hypothesisId := by
  have owned : ∀ stage checkpoint,
      after.checkpoints ⟨scope.analysisId, hypothesisId, stage⟩ = some checkpoint →
      checkpoint.identity = scope.child hypothesisId := by
    intro stage checkpoint stored
    rw [same] at stored
    exact sound.owned stage checkpoint stored
  have rows : ∀ stage, after.get (scope.child hypothesisId) stage =
      db.get (scope.child hypothesisId) stage := by
    intro stage
    rw [get_child (owned stage), get_child (sound.owned stage), same]
  constructor
  · exact owned
  · exact sound.frontier.congr rows
  · intro stage checkpoint stored
    rw [rows] at stored
    exact sound.tidy stage checkpoint stored

/-- A hypothesis without rows is sound. -/
theorem HypothesisSound.of_unused {db : Database}
    (unused : ∀ stage, db.checkpoints ⟨scope.analysisId, hypothesisId, stage⟩ = none) :
    HypothesisSound db scope hypothesisId := by
  have owned : ∀ stage checkpoint,
      db.checkpoints ⟨scope.analysisId, hypothesisId, stage⟩ = some checkpoint →
      checkpoint.identity = scope.child hypothesisId := by
    intro stage checkpoint stored
    rw [unused] at stored
    cases stored
  have nothing : ∀ stage checkpoint,
      db.get (scope.child hypothesisId) stage = some checkpoint → False := by
    intro stage checkpoint stored
    rw [get_child (owned stage), unused] at stored
    cases stored
  constructor
  · exact owned
  · constructor <;> intro stage checkpoint stored <;> exact (nothing stage checkpoint stored).elim
  · intro stage checkpoint stored
    exact (nothing stage checkpoint stored).elim

/-- The pending first stage of a hypothesis without rows. -/
theorem HypothesisSound.seeded {db : Database} {seed : StageCheckpoint}
    (unused : ∀ stage, db.checkpoints ⟨scope.analysisId, hypothesisId, stage⟩ = none)
    (owned : seed.identity = scope.child hypothesisId) (isFirst : seed.stage = proConDone)
    (version : seed.stageVersion = proConDone.stageVersion) (pending : seed.status = .pending) :
    HypothesisSound (db.upsertCheckpoint seed) scope hypothesisId := by
  have ownKey : seed.identity.key seed.stage =
      ⟨scope.analysisId, hypothesisId, proConDone⟩ := by
    rw [owned, isFirst]
    rfl
  have rows : ∀ stage,
      (db.upsertCheckpoint seed).checkpoints ⟨scope.analysisId, hypothesisId, stage⟩ =
        if stage = proConDone then some seed else none := by
    intro stage
    simp only [Database.upsertCheckpoint, Function.update_apply, ownKey, unused,
      CheckpointKey.mk.injEq, true_and]
  have ownRows : ∀ stage checkpoint,
      (db.upsertCheckpoint seed).checkpoints ⟨scope.analysisId, hypothesisId, stage⟩ =
        some checkpoint → checkpoint.identity = scope.child hypothesisId := by
    intro stage checkpoint stored
    rw [rows] at stored
    split at stored
    · cases stored
      exact owned
    · cases stored
  have only : OnlyStored (db.upsertCheckpoint seed) (scope.child hypothesisId) seed := by
    intro stage
    rw [get_child (ownRows stage), rows, isFirst]
  constructor
  · exact ownRows
  · exact .seeded isFirst pending only
  · intro stage checkpoint stored
    rw [only] at stored
    split at stored
    · cases stored
      exact ⟨by rw [version, isFirst], fun settled => absurd pending settled⟩
    · cases stored

/-- Without its first stage a sound hypothesis has no rows. -/
theorem HypothesisSound.unused {db : Database}
    (sound : HypothesisSound db scope hypothesisId)
    (noFirst : db.checkpoints ⟨scope.analysisId, hypothesisId, proConDone⟩ = none)
    (stage : SimpleStage) :
    db.checkpoints ⟨scope.analysisId, hypothesisId, stage⟩ = none := by
  rw [← get_child (sound.owned stage)]
  rw [← get_child (sound.owned proConDone)] at noFirst
  cases stored : db.get (scope.child hypothesisId) stage with
  | none => rfl
  | some checkpoint =>
      have standing := sound.frontier.standing stage checkpoint stored
      rcases Nat.lt_or_eq_of_le standing.hypothesisStage with above | same
      · obtain ⟨first, firstStored, -⟩ :=
          (standing.walked proConDone (Nat.le_refl _) above).resolve_left
            fun skipped => absurd skipped.1 (by decide)
        rw [noFirst] at firstStored
        cases firstStored
      · rw [SimpleStage.index_inj] at same
        rw [← same, noFirst] at stored
        cases stored

/-! ## The invariant is kept -/

/-- What registering a pending first stage does to the rows. -/
theorem insertPendingProCon_ok {db after : Database} {hypothesisRef : StoredDataRef}
    {checkpoint : StageCheckpoint}
    (inserted : insertPendingProCon db scope hypothesisId hypothesisRef checkpoint = .ok after) :
    after = db
      ∨ db.checkpoints ⟨scope.analysisId, hypothesisId, proConDone⟩ = none
        ∧ checkpoint.identity = scope.child hypothesisId ∧ checkpoint.stage = proConDone
        ∧ checkpoint.stageVersion = proConDone.stageVersion ∧ checkpoint.status = .pending
        ∧ after = db.upsertCheckpoint checkpoint := by
  obtain ⟨_, valid, rest⟩ := except_bind_ok inserted
  rw [raiseIf_ok] at valid
  simp only [not_or, not_not] at valid
  obtain ⟨owned, isFirst, version, pending, -⟩ := valid
  have key : (scope.child hypothesisId).key proConDone =
      ⟨scope.analysisId, hypothesisId, proConDone⟩ := rfl
  rw [key] at rest
  cases stored : db.checkpoints ⟨scope.analysisId, hypothesisId, proConDone⟩ with
  | none =>
      rw [stored] at rest
      cases rest
      exact .inr ⟨rfl, owned, isFirst, version, pending, rfl⟩
  | some existing =>
      rw [stored] at rest
      obtain ⟨_, -, kept⟩ := except_bind_ok rest
      cases kept
      exact .inl rfl

theorem ScopeStore.Sound.insertPendingProCon {store : ScopeStore} {after : Database}
    {hypothesisRef : StoredDataRef} {checkpoint : StageCheckpoint}
    (sound : store.Sound scope) (name : hypothesisId ≠ "")
    (inserted : insertPendingProCon store.world.db scope hypothesisId hypothesisRef checkpoint =
      .ok after) (otherId : String) (otherName : otherId ≠ "") :
    HypothesisSound after scope otherId := by
  rcases insertPendingProCon_ok inserted with
    rfl | ⟨noFirst, owned, isFirst, version, pending, rfl⟩
  · exact sound.sound otherId otherName
  · by_cases same : otherId = hypothesisId
    · subst same
      have unused := (sound.sound otherId otherName).unused noFirst
      exact .seeded unused owned isFirst version pending
    · apply (sound.sound otherId otherName).congr
      intro stage
      have different : (⟨scope.analysisId, otherId, stage⟩ : CheckpointKey) ≠
          checkpoint.identity.key checkpoint.stage := by
        intro equal
        rw [owned] at equal
        exact same (congrArg CheckpointKey.hypothesisKey equal)
      simp only [Database.upsertCheckpoint, Function.update_apply, if_neg different]

omit [Platform] in
theorem HypothesisTable.rows_put {table : HypothesisTable} {row : HypothesisRow}
    {otherId : String} (found : (table.put hypothesisId row).rows otherId ≠ none) :
    otherId = hypothesisId ∨ table.rows otherId ≠ none := by
  simp only [HypothesisTable.put, Function.update_apply] at found
  by_cases same : otherId = hypothesisId
  · exact .inl same
  · rw [if_neg same] at found
    exact .inr found

/-- A registered row has a name and leaves the other names alone. -/
structure NamesRow (hypothesisId : String) (before after : HypothesisTable) : Prop where
  name : hypothesisId ≠ ""
  others : ∀ otherId, after.rows otherId ≠ none →
    otherId = hypothesisId ∨ before.rows otherId ≠ none

omit [Platform] in
theorem name_of_valid {row : HypothesisRow}
    (valid : ¬ hypothesisIdInvalid hypothesisId row = true) : hypothesisId ≠ "" := by
  rintro rfl
  simp [hypothesisIdInvalid, isBlank] at valid

omit [Platform] in
theorem checkRegistration_ok {row checked : HypothesisRow}
    (committed : checkRegistration scope hypothesisId row = .ok checked) :
    hypothesisId ≠ "" := by
  obtain ⟨_, -, rest⟩ := except_bind_ok committed
  obtain ⟨_, valid, -⟩ := except_bind_ok rest
  rw [raiseIf_ok] at valid
  exact name_of_valid valid

omit [Platform] in
theorem registerRow_ok {table after : HypothesisTable} {row : HypothesisRow}
    (name : hypothesisId ≠ "") (committed : registerRow table hypothesisId row = .ok after) :
    NamesRow hypothesisId table after := by
  unfold registerRow at committed
  split at committed
  · cases committed
    exact ⟨name, fun _ => HypothesisTable.rows_put⟩
  · obtain ⟨_, -, stored⟩ := except_bind_ok committed
    cases stored
    exact ⟨name, fun _ => HypothesisTable.rows_put⟩

omit [Platform] in
theorem upsertHypothesis_ok {table after : HypothesisTable} {row : HypothesisRow}
    (committed : upsertHypothesis table scope hypothesisId row = .ok after) :
    NamesRow hypothesisId table after := by
  obtain ⟨_, -, rest⟩ := except_bind_ok committed
  obtain ⟨_, valid, rest⟩ := except_bind_ok rest
  rw [raiseIf_ok] at valid
  have name := name_of_valid valid
  obtain ⟨ref, -, rest⟩ := except_bind_ok rest
  split at rest
  · cases rest
    exact ⟨name, fun _ => HypothesisTable.rows_put⟩
  · obtain ⟨_, -, rest⟩ := except_bind_ok rest
    obtain ⟨_, -, stored⟩ := except_bind_ok rest
    cases stored
    exact ⟨name, fun _ => HypothesisTable.rows_put⟩

theorem registerFreeHypothesis_ok {db after : Database} {table tableAfter : HypothesisTable}
    {hypothesisRef : StoredDataRef} {checkpoint : StageCheckpoint} {chainDepth : Int}
    {parents : List String}
    (committed : registerFreeHypothesis db table scope hypothesisId hypothesisRef checkpoint
      chainDepth parents = .ok (after, tableAfter)) :
    NamesRow hypothesisId table tableAfter
      ∧ insertPendingProCon db scope hypothesisId hypothesisRef checkpoint = .ok after := by
  obtain ⟨_, -, rest⟩ := except_bind_ok committed
  obtain ⟨row, checked, rest⟩ := except_bind_ok rest
  obtain ⟨_, registered, rest⟩ := except_bind_ok rest
  obtain ⟨_, inserted, stored⟩ := except_bind_ok rest
  cases stored
  exact ⟨registerRow_ok (checkRegistration_ok checked) registered, inserted⟩

theorem registerCandidateHypothesis_ok {db after : Database}
    {table tableAfter : HypothesisTable} {scopeFingerprint : String}
    {decision : Option String} {hypothesisRef : StoredDataRef}
    {checkpoint : Option StageCheckpoint} {chainDepth : Int} {parents : List String}
    (committed : registerCandidateHypothesis db table scope scopeFingerprint decision
      hypothesisId hypothesisRef checkpoint chainDepth parents = .ok (after, tableAfter)) :
    NamesRow hypothesisId table tableAfter
      ∧ (after = db ∨ ∃ seed,
        insertPendingProCon db scope hypothesisId hypothesisRef seed = .ok after) := by
  obtain ⟨_, -, rest⟩ := except_bind_ok committed
  obtain ⟨row, checked, rest⟩ := except_bind_ok rest
  obtain ⟨_, -, rest⟩ := except_bind_ok rest
  obtain ⟨_, registered, rest⟩ := except_bind_ok rest
  have names := registerRow_ok (checkRegistration_ok checked) registered
  cases checkpoint with
  | none =>
      cases rest
      exact ⟨names, .inl rfl⟩
  | some seed =>
      obtain ⟨_, inserted, stored⟩ := except_bind_ok rest
      cases stored
      exact ⟨names, .inr ⟨seed, inserted⟩⟩

omit [Platform] in
theorem NamesRow.named {before after : HypothesisTable}
    (names : NamesRow hypothesisId before after)
    (named : ∀ otherId, before.rows otherId ≠ none → otherId ≠ "") :
    ∀ otherId, after.rows otherId ≠ none → otherId ≠ "" := by
  intro otherId found
  rcases names.others otherId found with rfl | earlier
  · exact names.name
  · exact named otherId earlier

/-- A call on one hypothesis keeps every hypothesis sound. -/
theorem ScopeStore.Sound.resumed {store : ScopeStore} (sound : store.Sound scope)
    (name : hypothesisId ≠ "") (env : RunnerEnv) (passes : Nat) (otherId : String)
    (otherName : otherId ≠ "") :
    HypothesisSound
      (resumeHypothesis env passes (scope.child hypothesisId) store.world).2.db scope otherId := by
  have moves : Moves env (scope.child hypothesisId) store.world.toSnapshot
      (resumeHypothesis env passes (scope.child hypothesisId) store.world).2.toSnapshot :=
    resumeHypothesis_moves env passes store.world
  have confined := moves.confined
  by_cases same : otherId = hypothesisId
  · subst same
    have before := sound.sound otherId otherName
    constructor
    · intro stage checkpoint stored
      rcases confined.within ⟨scope.analysisId, otherId, stage⟩ checkpoint ⟨rfl, rfl⟩ stored with
        own | earlier
      · exact own
      · exact before.owned stage checkpoint earlier
    · exact before.frontier.moves moves
    · exact before.tidy.moves before.frontier moves
  · apply (sound.sound otherId otherName).congr
    intro stage
    exact confined.elsewhere _ fun owns => same owns.2

/-- The run lemma: every reachable store is sound. -/
theorem ScopeReachable.sound {store : ScopeStore} (reached : ScopeReachable scope store) :
    store.Sound scope := by
  induction reached with
  | created unused =>
      constructor
      · intro otherId found
        exact absurd rfl found
      · intro otherId otherName
        exact .of_unused fun stage => unused _ rfl otherName
  | upserted _ committed ih =>
      exact ⟨(upsertHypothesis_ok committed).named ih.named, ih.sound⟩
  | registeredFree _ committed ih =>
      obtain ⟨names, inserted⟩ := registerFreeHypothesis_ok committed
      exact ⟨names.named ih.named, ih.insertPendingProCon names.name inserted⟩
  | registeredCandidate _ committed ih =>
      obtain ⟨names, inserted⟩ := registerCandidateHypothesis_ok committed
      rcases inserted with rfl | ⟨seed, inserted⟩
      · exact ⟨names.named ih.named, ih.sound⟩
      · exact ⟨names.named ih.named, ih.insertPendingProCon names.name inserted⟩
  | @resumed store hypothesisId env passes _ registered ih =>
      exact ⟨ih.named, ih.resumed (ih.named hypothesisId registered) env passes⟩
  | elsewhere _ same ih =>
      constructor
      · exact ih.named
      · intro otherId otherName
        exact (ih.sound otherId otherName).congr fun stage => same _ rfl otherName

/-! ## What the listing reads -/

section Reading

variable {db : Database} {artifacts : CheckpointIdentity → SimpleArtifactRepository}

theorem mem_hypothesisRows (sound : HypothesisSound db scope hypothesisId)
    {checkpoint : StageCheckpoint} :
    checkpoint ∈ hypothesisRows db scope hypothesisId ↔
      db.get (scope.child hypothesisId) checkpoint.stage = some checkpoint := by
  rw [hypothesisRows, List.mem_filterMap]
  constructor
  · rintro ⟨stage, -, stored⟩
    have here := (get_child (sound.owned stage)).trans stored
    rw [Database.stage_of_get here]
    exact here
  · intro stored
    refine ⟨checkpoint.stage, mem_stageOrder _, ?_⟩
    rw [← get_child (sound.owned _)]
    exact stored

/-- The current success of a stage is its stored success. -/
theorem currentSuccess_eq (sound : HypothesisSound db scope hypothesisId)
    {stage : SimpleStage} {checkpoint : StageCheckpoint} :
    currentSuccess (hypothesisRows db scope hypothesisId) stage = some checkpoint ↔
      db.get (scope.child hypothesisId) stage = some checkpoint
        ∧ checkpoint.status = .succeeded := by
  constructor
  · intro found
    have member := List.mem_of_find?_eq_some found
    have facts := List.find?_some found
    simp only [Bool.and_eq_true, decide_eq_true_eq] at facts
    obtain ⟨⟨sameStage, succeeded⟩, -⟩ := facts
    rw [mem_hypothesisRows sound, sameStage] at member
    exact ⟨member, succeeded⟩
  · rintro ⟨stored, succeeded⟩
    have sameStage := Database.stage_of_get stored
    have member : checkpoint ∈ hypothesisRows db scope hypothesisId := by
      rw [mem_hypothesisRows sound, sameStage]
      exact stored
    cases found : currentSuccess (hypothesisRows db scope hypothesisId) stage with
    | none =>
        have none := List.find?_eq_none.1 found checkpoint member
        have version := (sound.tidy stage checkpoint stored).version
        simp [sameStage, succeeded, version] at none
    | some other =>
        have facts := List.find?_some found
        simp only [Bool.and_eq_true, decide_eq_true_eq] at facts
        have otherMember := List.mem_of_find?_eq_some found
        rw [mem_hypothesisRows sound, facts.1.1, stored] at otherMember
        exact otherMember.symm

theorem storeVerifiedInitial_eq {current : Option StageCheckpoint}
    (intact : EvidenceIntact db (scope.child hypothesisId) (artifacts (scope.child hypothesisId)))
    (stored : ∀ checkpoint, current = some checkpoint →
      db.get (scope.child hypothesisId) verificationInitialDone = some checkpoint) :
    storeVerifiedInitial (some artifacts) current = .ok (terminalInitialOutcome current) := by
  cases current with
  | none => rfl
  | some checkpoint =>
      have here := stored checkpoint rfl
      cases terminal : terminalInitialOutcome (some checkpoint) with
      | none => simp [storeVerifiedInitial, terminal]
      | some outcome =>
          simp only [storeVerifiedInitial, terminal]
          rw [Database.identity_of_get here, intact.verifiedInitial here terminal]
          rfl

theorem storeVerifiedPoc_eq {current : Option StageCheckpoint}
    (intact : EvidenceIntact db (scope.child hypothesisId) (artifacts (scope.child hypothesisId)))
    (stored : ∀ checkpoint, current = some checkpoint →
      db.get (scope.child hypothesisId) pocExecutionDone = some checkpoint) :
    storeVerifiedPoc (some artifacts) current = .ok (terminalPocOutcome current) := by
  cases current with
  | none => rfl
  | some checkpoint =>
      have here := stored checkpoint rfl
      cases terminal : terminalPocOutcome (some checkpoint) with
      | none => simp [storeVerifiedPoc, terminal]
      | some outcome =>
          simp only [storeVerifiedPoc, terminal]
          rw [Database.identity_of_get here, intact.verifiedPoc here terminal]
          rfl

/-- A terminal outcome is read off the current success of a stage. -/
theorem isSome_outcome_iff (sound : HypothesisSound db scope hypothesisId)
    {outcome : Option StageCheckpoint → Option TerminalOutcome} {stage : SimpleStage}
    (nothing : outcome none = none)
    (succeeds : ∀ checkpoint, outcome (some checkpoint) ≠ none →
      checkpoint.status = .succeeded) :
    (outcome (currentSuccess (hypothesisRows db scope hypothesisId) stage)).isSome = true ↔
      ∃ checkpoint, db.get (scope.child hypothesisId) stage = some checkpoint
        ∧ outcome (some checkpoint) ≠ none := by
  rw [Option.isSome_iff_ne_none]
  constructor
  · intro terminal
    cases found : currentSuccess (hypothesisRows db scope hypothesisId) stage with
    | none =>
        rw [found] at terminal
        exact absurd nothing terminal
    | some checkpoint =>
        rw [found] at terminal
        exact ⟨checkpoint, ((currentSuccess_eq sound).1 found).1, terminal⟩
  · rintro ⟨checkpoint, stored, terminal⟩
    rw [(currentSuccess_eq sound).2 ⟨stored, succeeds checkpoint terminal⟩]
    exact terminal

theorem isSome_currentSuccess_iff (sound : HypothesisSound db scope hypothesisId)
    {stage : SimpleStage} :
    (currentSuccess (hypothesisRows db scope hypothesisId) stage).isSome = true ↔
      ∃ checkpoint, db.get (scope.child hypothesisId) stage = some checkpoint
        ∧ checkpoint.status = .succeeded ∧ checkpoint.stageVersion = stage.stageVersion := by
  rw [Option.isSome_iff_exists]
  apply exists_congr
  intro checkpoint
  rw [currentSuccess_eq sound]
  constructor
  · rintro ⟨stored, succeeded⟩
    have version := (sound.tidy stage checkpoint stored).version
    rw [Database.stage_of_get stored] at version
    exact ⟨stored, succeeded, version⟩
  · rintro ⟨stored, succeeded, -⟩
    exact ⟨stored, succeeded⟩

theorem verdict_currentSuccess_iff (sound : HypothesisSound db scope hypothesisId)
    {stage : SimpleStage} {verdict : Verdict} :
    (currentSuccess (hypothesisRows db scope hypothesisId) stage).bind (·.verdict) =
        some verdict ↔
      ∃ checkpoint, db.get (scope.child hypothesisId) stage = some checkpoint
        ∧ checkpoint.status = .succeeded ∧ checkpoint.stageVersion = stage.stageVersion
        ∧ checkpoint.verdict = some verdict := by
  rw [Option.bind_eq_some_iff]
  apply exists_congr
  intro checkpoint
  rw [currentSuccess_eq sound]
  constructor
  · rintro ⟨⟨stored, succeeded⟩, decided⟩
    have version := (sound.tidy stage checkpoint stored).version
    rw [Database.stage_of_get stored] at version
    exact ⟨stored, succeeded, version, decided⟩
  · rintro ⟨stored, succeeded, -, decided⟩
    exact ⟨⟨stored, succeeded⟩, decided⟩

/-- The page test decides whether the tables of the hypothesis are terminal. -/
theorem isIncomplete_eq (sound : HypothesisSound db scope hypothesisId)
    (intact : EvidenceIntact db (scope.child hypothesisId)
      (artifacts (scope.child hypothesisId))) :
    ∃ answer, isIncomplete db scope (some artifacts) hypothesisId = .ok answer
      ∧ (answer = false ↔ TerminalAt db (scope.child hypothesisId)) := by
  have success : ∀ {stage checkpoint},
      currentSuccess (hypothesisRows db scope hypothesisId) stage = some checkpoint ↔
        db.get (scope.child hypothesisId) stage = some checkpoint
          ∧ checkpoint.status = .succeeded := currentSuccess_eq sound
  have notStale : ∀ checkpoint ∈ hypothesisRows db scope hypothesisId,
      checkpoint.isStale = false := by
    intro checkpoint member
    rw [mem_hypothesisRows sound] at member
    simp [StageCheckpoint.isStale, (sound.tidy _ _ member).version]
  have noStale : (hypothesisRows db scope hypothesisId).any (·.isStale) = false := by
    rw [List.any_eq_false]
    intro checkpoint member
    simp [notStale checkpoint member]
  have ownRows : ¬ ((hypothesisRows db scope hypothesisId).any fun checkpoint =>
      checkpoint.identity ≠ scope.child hypothesisId) = true := by
    rw [List.any_eq_true]
    rintro ⟨checkpoint, member, foreign⟩
    rw [mem_hypothesisRows sound] at member
    simp [Database.identity_of_get member] at foreign
  rw [isIncomplete, raiseIf, if_neg ownRows]
  simp only [bind, Except.bind, pure, Except.pure]
  rw [storeVerifiedPoc_eq intact fun checkpoint found => (success.1 found).1,
    storeVerifiedInitial_eq intact fun checkpoint found => (success.1 found).1]
  simp only [noStale, Bool.false_and, Bool.false_or]
  refine ⟨_, rfl, ?_⟩
  have initial : (terminalInitialOutcome (currentSuccess (hypothesisRows db scope hypothesisId)
      verificationInitialDone)).isSome = true ↔ _ :=
    isSome_outcome_iff sound rfl fun _ terminal => (stage_of_terminalInitialOutcome terminal).2
  have poc : (terminalPocOutcome (currentSuccess (hypothesisRows db scope hypothesisId)
      pocExecutionDone)).isSome = true ↔ _ :=
    isSome_outcome_iff sound rfl fun _ terminal => (stage_of_terminalPocOutcome terminal).2
  have gate : (terminalGateOutcome (currentSuccess (hypothesisRows db scope hypothesisId)
      techGateDone)).isSome = true ↔ _ :=
    isSome_outcome_iff sound rfl fun _ terminal => (stage_of_terminalGateOutcome terminal).2
  simp only [Bool.not_eq_false', Bool.or_eq_true, Bool.and_eq_true, decide_eq_true_eq, initial,
    poc, gate, verdict_currentSuccess_iff sound, isSome_currentSuccess_iff sound]
  constructor
  · rintro (((((initial | poc) | isFalse) | ⟨hold, chain⟩) | gate) | report)
    · exact .inl initial
    · exact .inr (.inl poc)
    · obtain ⟨final, stored, succeeded, version, verdict⟩ := isFalse
      exact .inr (.inr (.inl ⟨final, stored, succeeded, version, .inl verdict⟩))
    · obtain ⟨final, stored, succeeded, version, verdict⟩ := hold
      exact .inr (.inr (.inl ⟨final, stored, succeeded, version, .inr ⟨verdict, chain⟩⟩))
    · exact .inr (.inr (.inr (.inl gate)))
    · exact .inr (.inr (.inr (.inr report)))
  · rintro (initial | poc | ⟨final, stored, succeeded, version, isFalse | ⟨hold, chain⟩⟩ |
      gate | report)
    · exact .inl (.inl (.inl (.inl (.inl initial))))
    · exact .inl (.inl (.inl (.inl (.inr poc))))
    · exact .inl (.inl (.inl (.inr ⟨final, stored, succeeded, version, isFalse⟩)))
    · exact .inl (.inl (.inr ⟨⟨final, stored, succeeded, version, hold⟩, chain⟩))
    · exact .inl (.inr gate)
    · exact .inr report

end Reading

/-! ## Pages -/

/-- All pages of incomplete hypotheses, each after the last identifier of the page before. -/
def incompletePages (store : ScopeStore) (scope : CheckpointIdentity)
    (artifacts : ArtifactDirectory) (limit : Int) : Except PyError (List String) :=
  readPages
    (fun afterId => listIncompleteHypotheses store.world.db store.table scope artifacts
      (some afterId) limit)
    (store.table.ids.card + 1) ""

omit [Platform] in
theorem empty_lt_of_ne {text : String} (named : text ≠ "") : "" < text := by
  rw [String.lt_iff_toList_lt]
  cases letters : text.toList with
  | nil => exact absurd (String.toList_eq_nil_iff.1 letters) named
  | cons letter rest => exact List.nil_lt_cons letter rest

open Classical in
/-- The pages list the registered hypotheses that are not terminal, in order. -/
theorem incompletePages_eq {store : ScopeStore}
    {artifacts : CheckpointIdentity → SimpleArtifactRepository} {limit : Int}
    (sound : store.Sound scope) (isScope : scope.hypothesisId = none)
    (intact : ∀ hypothesisId ∈ store.table.ids,
      EvidenceIntact store.world.db (scope.child hypothesisId)
        (artifacts (scope.child hypothesisId)))
    (positive : 0 < limit) :
    incompletePages store scope (some artifacts) limit =
      .ok (store.table.ordered.filter fun hypothesisId =>
        ¬ TerminalAt store.world.db (scope.child hypothesisId)) := by
  have named : ∀ hypothesisId ∈ store.table.ids, hypothesisId ≠ "" := fun hypothesisId member =>
    sound.named hypothesisId ((store.table.listed hypothesisId).1 member)
  have members : ∀ {hypothesisId}, hypothesisId ∈ store.table.ordered →
      hypothesisId ∈ store.table.ids := (Finset.mem_sort _).1
  have ordered : store.table.ordered.Pairwise (· < ·) := (Finset.sortedLT_sort _).pairwise
  have answers : ∀ hypothesisId ∈ store.table.ordered,
      isIncomplete store.world.db scope (some artifacts) hypothesisId =
        .ok (¬ TerminalAt store.world.db (scope.child hypothesisId)) := by
    intro hypothesisId member
    have isMember := members member
    obtain ⟨answer, answered, agrees⟩ :=
      isIncomplete_eq (sound.sound hypothesisId (named hypothesisId isMember))
        (intact hypothesisId isMember)
    rw [answered]
    cases answer <;> simp_all
  have limitPositive : 0 < limit.toNat := by omega
  have pages : ∀ afterId, listIncompleteHypotheses store.world.db store.table scope
      (some artifacts) (some afterId) limit =
        .ok (((rowsAfter store.table.ordered afterId).filter fun hypothesisId =>
          ¬ TerminalAt store.world.db (scope.child hypothesisId)).take limit.toNat) := by
    intro afterId
    rw [listIncompleteHypotheses, raiseIf, if_neg (by simp [isScope]), raiseIf,
      if_neg (by omega)]
    exact readPage_eq ordered answers (by omega) afterId
  have all : rowsAfter store.table.ordered "" = store.table.ordered := by
    rw [rowsAfter, List.filter_eq_self]
    intro hypothesisId member
    simpa using empty_lt_of_ne (named hypothesisId (members member))
  have enough : ((rowsAfter store.table.ordered "").filter fun hypothesisId =>
      ¬ TerminalAt store.world.db (scope.child hypothesisId)).length <
        store.table.ids.card + 1 := by
    rw [all, ← Finset.length_sort (· ≤ ·)]
    exact Nat.lt_succ_of_le (List.length_filter_le _ _)
  rw [incompletePages, readPages_eq ordered pages limitPositive enough, all]

/-- The listing agrees with the runner: the pages list every registered hypothesis at most
once, and leave out exactly those on which an undisturbed call reports a success without
invoking a handler or changing a checkpoint. -/
theorem incompletePages_agrees {store : ScopeStore}
    {artifacts : CheckpointIdentity → SimpleArtifactRepository} {limit : Int}
    (reached : ScopeReachable scope store) (isScope : scope.hypothesisId = none)
    (intact : ∀ hypothesisId ∈ store.table.ids,
      EvidenceIntact store.world.db (scope.child hypothesisId)
        (artifacts (scope.child hypothesisId)))
    (positive : 0 < limit) :
    ∃ listed, incompletePages store scope (some artifacts) limit = .ok listed
      ∧ listed.Nodup ∧ (∀ hypothesisId ∈ listed, hypothesisId ∈ store.table.ids)
      ∧ ∀ hypothesisId ∈ store.table.ids, ∀ env passes,
        Undisturbed env store.world.db (scope.child hypothesisId) →
        (hypothesisId ∉ listed ↔
          SucceedsUnchanged env (passes + 1) (scope.child hypothesisId) store.world) := by
  classical
  have sound := reached.sound
  refine ⟨_, incompletePages_eq sound isScope intact positive, ?_, ?_, ?_⟩
  · exact (Finset.sort_nodup _ _).filter _
  · intro hypothesisId member
    exact (Finset.mem_sort _).1 (List.mem_filter.1 member).1
  · intro hypothesisId member env passes undisturbed
    have hypothesis := sound.sound hypothesisId
      (sound.named hypothesisId ((store.table.listed hypothesisId).1 member))
    have listed : hypothesisId ∈ store.table.ordered := (Finset.mem_sort _).2 member
    rw [List.mem_filter, not_and]
    constructor
    · intro omitted
      apply succeedsUnchanged_of_terminalAt undisturbed hypothesis.frontier hypothesis.tidy
      simpa using omitted listed
    · intro succeeds _
      simpa using terminalAt_of_succeedsUnchanged succeeds

end Sastsimi.Runtime

namespace Sastsimi.Runtime.Concrete

open SimpleStage Lib

/-- The scope of the hypothesis. -/
def hypothesisScope : CheckpointIdentity := { hypothesis with hypothesisId := none }

/-- The scope after the registration of one hypothesis. -/
def registeredScope : ScopeStore where
  world := registration
  table := HypothesisTable.empty.put "hypothesis" ⟨some (artifact "proposal"), 0, []⟩

theorem registeredScope_reachable : ScopeReachable hypothesisScope registeredScope := by
  have created : ScopeReachable hypothesisScope
      ⟨{ db := ⟨fun _ => none, [], Database.no_rows⟩ }, .empty⟩ := .created fun _ _ _ => rfl
  have committed : registerFreeHypothesis ⟨fun _ => none, [], Database.no_rows⟩ .empty hypothesisScope
      "hypothesis" (artifact "proposal") registered 0 [] =
        .ok (registration.db, registeredScope.table) := rfl
  exact .registeredFree created committed

/-- An artifact repository with intact contents. -/
def intactArtifacts (identity : CheckpointIdentity) : SimpleArtifactRepository where
  identity := identity
  initialEvidence _ := .ok ()
  pocEvidence _ := .ok ()
  buildInitialEnvironmentBlock _ := .ok none
  inconclusiveStop _ _ := none

/-- The final verification refutes the hypothesis; every other stage succeeds. -/
def refutedRun : RunnerEnv :=
  { runner (fun stage =>
      if stage = verificationFinalDone then some fun _ _ _ =>
        .result { outputRefs := [artifact "final"], verdict := some .isFalse }
      else some (succeeding stage.value)) none with
    cleanupArtifacts := some fun _ => intactArtifacts hypothesis }

/-- The scope after a call that refuted its hypothesis. -/
def refutedScope : ScopeStore :=
  ⟨(resumeHypothesis refutedRun 1 (hypothesisScope.child "hypothesis") registeredScope.world).2,
    registeredScope.table⟩

/-- The refuted hypothesis is left out, and a further call agrees. -/
theorem incompletePages_refuted :
    ∃ listed, incompletePages refutedScope hypothesisScope (some intactArtifacts) 1 = .ok listed
      ∧ listed.Nodup ∧ (∀ hypothesisId ∈ listed, hypothesisId ∈ refutedScope.table.ids)
      ∧ ∀ hypothesisId ∈ refutedScope.table.ids, ∀ env passes,
        Undisturbed env refutedScope.world.db (hypothesisScope.child hypothesisId) →
        (hypothesisId ∉ listed ↔
          SucceedsUnchanged env (passes + 1) (hypothesisScope.child hypothesisId)
            refutedScope.world) := by
  have reached : ScopeReachable hypothesisScope refutedScope :=
    .resumed refutedRun 1 registeredScope_reachable (by decide +kernel)
  exact incompletePages_agrees reached rfl
    (fun _ _ => ⟨rfl, fun _ _ _ => rfl, fun _ _ _ => rfl⟩) (by decide)

/-- The listing of the refuted scope is empty. -/
example : (incompletePages refutedScope hypothesisScope (some intactArtifacts) 1).toOption =
    some [] := by
  decide +kernel

end Sastsimi.Runtime.Concrete
