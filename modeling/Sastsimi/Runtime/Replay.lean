import Sastsimi.Lib.Dedup
import Sastsimi.Runtime.BatchOutcome
import Sastsimi.Runtime.Frontier
import Sastsimi.Runtime.Termination

/-!
# Registering a hypothesis again

A registration compares the stored first checkpoint with its own seed, while a recovery of the
first stage adds evidence and decisions to the inputs of that checkpoint.  A repeated
registration is accepted, and a different one rejected, exactly as long as the first checkpoint
has the inputs it was registered with.  It has them as long as no recovery restarts the first
stage and the runner does not stop between the deletion of the checkpoint and its next attempt.
-/

namespace Sastsimi.Runtime

open SimpleStage Lib

variable [Platform] {env : RunnerEnv} {identity : CheckpointIdentity} {db after : Database}
  {inputRefs : List StoredDataRef}

/-! ## The first checkpoint along the moves of the runner -/

/-- The first checkpoint has the inputs of the seed, its decisions among them, and no earlier
stage is stored. -/
structure SeedKept (db : Database) (identity : CheckpointIdentity)
    (inputRefs : List StoredDataRef) : Prop where
  first : ∃ first, db.get identity proConDone = some first ∧ first.inputRefs = inputRefs
    ∧ first.recoveryDecisionRefs ⊆ inputRefs
  noneEarlier : ∀ stage : SimpleStage, stage.index < proConDone.index →
    db.get identity stage = none

/-- A recovery restarts the first stage. -/
def RecoversFirst (identity : CheckpointIdentity) (before after : Snapshot) : Prop :=
  ∃ failed resolution stored now, before.db.get identity failed.stage = some failed
    ∧ before.db.prepareRecovery failed resolution proConDone now = .ok (stored, after.db)

/-- The first checkpoint is deleted and no attempt takes its place. -/
def DropsFirst (identity : CheckpointIdentity) (before after : Snapshot) : Prop :=
  before.db.get identity proConDone ≠ none ∧ after.db.get identity proConDone = none

/-- A move that neither restarts the first stage by a recovery nor drops its checkpoint. -/
def KeepsFirst (identity : CheckpointIdentity) (before after : Snapshot) : Prop :=
  ¬ RecoversFirst identity before after ∧ ¬ DropsFirst identity before after

theorem SeedKept.hypothesisStage (kept : SeedKept db identity inputRefs) {stage : SimpleStage}
    {checkpoint : StageCheckpoint} (stored : db.get identity stage = some checkpoint) :
    proConDone.index ≤ stage.index := by
  apply Nat.not_lt.1
  intro earlier
  rw [kept.noneEarlier stage earlier] at stored
  cases stored

/-- Settling a stage keeps the seed when it is a later one, or keeps it itself. -/
theorem SeedKept.settles {stored : StageCheckpoint} (kept : SeedKept db identity inputRefs)
    (settles : Settles db after identity stored)
    (hypothesisStage : proConDone.index ≤ stored.stage.index)
    (first : stored.stage = proConDone → stored.inputRefs = inputRefs
      ∧ stored.recoveryDecisionRefs ⊆ inputRefs) : SeedKept after identity inputRefs := by
  constructor
  · by_cases isFirst : stored.stage = proConDone
    · obtain ⟨inputs, decisions⟩ := first isFirst
      exact ⟨stored, by rw [settles, if_pos isFirst.symm], inputs, decisions⟩
    · obtain ⟨row, found, inputs, decisions⟩ := kept.first
      have later : ¬ stored.stage.index ≤ proConDone.index := by
        intro earlier
        exact isFirst (SimpleStage.index_inj.1 (Nat.le_antisymm earlier hypothesisStage))
      refine ⟨row, ?_, inputs, decisions⟩
      rw [settles, if_neg fun same => isFirst same.symm, if_neg later]
      exact found
  · intro stage earlier
    have below : stage.index < stored.stage.index := Nat.lt_of_lt_of_le earlier hypothesisStage
    have different : stage ≠ stored.stage := fun same => Nat.lt_irrefl _ (same ▸ below)
    rw [settles, if_neg different, if_neg (Nat.not_le.2 below)]
    exact kept.noneEarlier stage earlier

/-- So does replacing the row of a checkpoint. -/
theorem SeedKept.updates {stored : StageCheckpoint} (kept : SeedKept db identity inputRefs)
    (updates : Updates db after identity stored)
    (hypothesisStage : proConDone.index ≤ stored.stage.index)
    (first : stored.stage = proConDone → stored.inputRefs = inputRefs
      ∧ stored.recoveryDecisionRefs ⊆ inputRefs) : SeedKept after identity inputRefs := by
  constructor
  · by_cases isFirst : stored.stage = proConDone
    · obtain ⟨inputs, decisions⟩ := first isFirst
      exact ⟨stored, by rw [updates, if_pos isFirst.symm], inputs, decisions⟩
    · obtain ⟨row, found, inputs, decisions⟩ := kept.first
      refine ⟨row, ?_, inputs, decisions⟩
      rw [updates, if_neg fun same => isFirst same.symm]
      exact found
  · intro stage earlier
    have below : stage.index < stored.stage.index := Nat.lt_of_lt_of_le earlier hypothesisStage
    have different : stage ≠ stored.stage := fun same => Nat.lt_irrefl _ (same ▸ below)
    rw [updates, if_neg different]
    exact kept.noneEarlier stage earlier

/-- A checkpoint with no new inputs or decisions keeps the seed. -/
theorem SeedKept.first_of_same {previous stored : StageCheckpoint}
    (kept : SeedKept db identity inputRefs)
    (current : db.get identity previous.stage = some previous)
    (sameStage : stored.stage = previous.stage) (inputs : stored.inputRefs = previous.inputRefs)
    (decisions : stored.recoveryDecisionRefs ⊆ previous.recoveryDecisionRefs)
    (isFirst : stored.stage = proConDone) :
    stored.inputRefs = inputRefs ∧ stored.recoveryDecisionRefs ⊆ inputRefs := by
  obtain ⟨row, found, rowInputs, rowDecisions⟩ := kept.first
  rw [← sameStage, isFirst, found] at current
  cases current
  exact ⟨inputs.trans rowInputs, List.Subset.trans decisions rowDecisions⟩

/-- Editing a row without new inputs or decisions keeps the seed. -/
theorem SeedKept.edits {previous stored : StageCheckpoint} {events : List AgentActivityEvent}
    (kept : SeedKept db identity inputRefs)
    (current : db.get identity previous.stage = some previous)
    (stores : Stored db stored events after) (sameIdentity : stored.identity = previous.identity)
    (sameStage : stored.stage = previous.stage) (inputs : stored.inputRefs = previous.inputRefs)
    (decisions : stored.recoveryDecisionRefs ⊆ previous.recoveryDecisionRefs) :
    SeedKept after identity inputRefs := by
  have owned : stored.identity = identity :=
    sameIdentity.trans (Database.identity_of_get current)
  apply kept.updates (stores.updates owned)
  · rw [sameStage]
    exact kept.hypothesisStage current
  · exact kept.first_of_same current sameStage inputs decisions

/-- Recording a decision about a checkpoint keeps the seed. -/
theorem SeedKept.decided {previous stored : StageCheckpoint}
    {resolution : RecoveryResolution} (kept : SeedKept db identity inputRefs)
    (current : db.get identity previous.stage = some previous)
    (committed : db.recordRecoveryDecision stored resolution = .ok after)
    (sameIdentity : stored.identity = previous.identity)
    (sameStage : stored.stage = previous.stage) (inputs : stored.inputRefs = previous.inputRefs)
    (decisions : stored.recoveryDecisionRefs ⊆ previous.recoveryDecisionRefs) :
    SeedKept after identity inputRefs := by
  obtain ⟨event, activity, -, appended, tables⟩ := Database.recordRecoveryDecision_ok committed
  have stores : Stored db stored [event] after := by
    refine ⟨activity, ?_, tables⟩
    simp [appendEvents, appended]
  exact kept.edits current stores sameIdentity sameStage inputs decisions

theorem StageCheckpoint.completed_recoveryDecisionRefs {checkpoint : StageCheckpoint}
    {result : StageResult} {now : Nat} :
    (checkpoint.completed result now).recoveryDecisionRefs ⊆ checkpoint.recoveryDecisionRefs := by
  unfold StageCheckpoint.completed
  simp only
  split
  · exact List.nil_subset _
  · exact List.Subset.refl _

/-- Nothing precedes the first stage. -/
theorem SeedKept.preceding (kept : SeedKept db identity inputRefs) :
    db.preceding identity proConDone = none := by
  have nothing : db.prior identity proConDone = [] := by
    rw [Database.prior, List.filterMap_eq_nil_iff]
    intro stage member
    rw [mem_stageOrder_take] at member
    rw [kept.noneEarlier stage member]
    rfl
  rw [Database.preceding, nothing]
  rfl

/-- A new attempt of the first stage has the inputs of the seed. -/
theorem SeedKept.started {base : Database} {attempt : String} {now : Nat}
    (kept : SeedKept db identity inputRefs) (distinct : inputRefs.Nodup)
    (cleared : base =
      if (db.get identity proConDone).map (·.status) = some .pending then db
      else db.deleteFrom identity proConDone) :
    (base.runningCheckpoint identity proConDone
          (stageInputs env db identity proConDone (db.get identity proConDone)) attempt
          (inheritSource (db.get identity proConDone) (db.preceding identity proConDone))
          now).inputRefs = inputRefs
      ∧ (base.runningCheckpoint identity proConDone
          (stageInputs env db identity proConDone (db.get identity proConDone)) attempt
          (inheritSource (db.get identity proConDone) (db.preceding identity proConDone))
          now).recoveryDecisionRefs ⊆ inputRefs := by
  obtain ⟨first, found, inputs, decisions⟩ := kept.first
  have given : stageInputs env db identity proConDone (some first) = inputRefs := by
    have own := Database.inputRefsFor_of_get found
    unfold stageInputs
    split
    · rw [if_neg (by simp), own, inputs]
    · rw [own, inputs]
  have inherited : (base.get identity proConDone).or (inheritSource (some first) none) = some first
      ∨ (base.get identity proConDone).or (inheritSource (some first) none) = none := by
    by_cases pending : first.status = .pending
    · have same : base = db := by rw [cleared, found, if_pos (by simp [pending])]
      rw [same, found]
      exact .inl rfl
    · have missing : base.get identity proConDone = none := by
        rw [cleared, found, if_neg (by simp [pending]), Database.get_deleteFrom,
          if_pos (Nat.le_refl _)]
      rw [missing, Option.none_or]
      by_cases inherits : first.recipeRef ≠ none ∧ first.imageDigest ≠ none
      · exact .inl (by simp only [inheritSource, if_pos inherits])
      · exact .inr (by simp only [inheritSource, if_neg inherits])
  rw [kept.preceding, found, given]
  have keeps : ∀ refs : List StoredDataRef, refs ⊆ inputRefs →
      (inputRefs ++ refs).eraseDups = inputRefs := fun _ => eraseDups_append_of_subset distinct
  simp only [Database.runningCheckpoint]
  rcases inherited with inherits | nothing
  · rw [inherits]
    exact ⟨keeps _ decisions, decisions⟩
  · rw [nothing]
    exact ⟨keeps _ (List.nil_subset _), List.nil_subset _⟩

/-- The step lemma: a move that keeps the first checkpoint keeps its inputs. -/
theorem Move.seedKept {before after : Snapshot} (move : Move env identity before after)
    (careful : KeepsFirst identity before after) (distinct : inputRefs.Nodup)
    (kept : SeedKept before.db identity inputRefs) : SeedKept after.db identity inputRefs := by
  cases move with
  | @restart tables restarts =>
      cases restarts with
      | @recover failed stored _ restartStage _ configured standing current retryable bounded
          target committed =>
          have owned := Database.identity_of_get current
          obtain ⟨-, -, -, shape, event, activity, -, -, written⟩ :=
            Database.prepareRecovery_ok committed
          obtain ⟨-, restartStanding, -⟩ := restart_stored standing current target
          have storedStage : stored.stage = restartStage := by rw [shape]; rfl
          have storedIdentity : stored.identity = identity := by rw [shape]; exact owned
          have reseeds : Reseeded before.db stored tables := by
            refine ⟨activity, ?_⟩
            rw [written, storedIdentity, owned, storedStage]
          apply kept.settles (reseeds.settles storedIdentity)
          · rw [storedStage]
            exact restartStanding.hypothesisStage
          · intro isFirst
            rw [storedStage] at isFirst
            subst isFirst
            exact absurd ⟨failed, _, _, _, current, committed⟩ careful.1
      | @revise gate stored now standing current committed =>
          have owned := Database.identity_of_get current
          obtain ⟨-, -, candidate, execution, -, -, -, -, shape, written⟩ :=
            Database.prepareGateRevision_ok committed (owned.symm ▸ current)
          have storedStage : stored.stage = pocCandidateDone := by rw [shape]; rfl
          have storedIdentity : stored.identity = identity := by rw [shape]; exact owned
          have reseeds : Reseeded before.db stored tables := by
            refine ⟨before.db.activity, ?_⟩
            rw [written, storedIdentity, owned, storedStage]
            rfl
          apply kept.settles (reseeds.settles storedIdentity)
          · rw [storedStage]
            decide
          · intro isFirst
            rw [storedStage] at isFirst
            cases isFirst
  | @invalidate stage standing dropped =>
      have later : ¬ stage.index ≤ proConDone.index := by
        intro earlier
        obtain ⟨first, found, -⟩ := kept.first
        apply careful.2
        exact ⟨by simp [found], by simp [earlier]⟩
      constructor
      · obtain ⟨first, found, facts⟩ := kept.first
        exact ⟨first, by simpa [later] using found, facts⟩
      · intro other earlier
        have below : ¬ stage.index ≤ other.index := by omega
        simpa [below] using kept.noneEarlier other earlier
  | @replay checkpoint pending tables standing current unsettled revivable copy committed =>
      have facts : pending.identity = checkpoint.identity ∧ pending.stage = checkpoint.stage
          ∧ pending.inputRefs = checkpoint.inputRefs
          ∧ pending.recoveryDecisionRefs = checkpoint.recoveryDecisionRefs := by
        rcases copy with ⟨rfl, -⟩ | rfl <;> exact ⟨rfl, rfl, rfl, rfl⟩
      obtain ⟨sameIdentity, sameStage, inputs, decisions⟩ := facts
      have owned := Database.identity_of_get current
      have reseeds : Reseeded before.db pending tables :=
        ⟨_, (Database.replaceFrom_ok committed).2⟩
      apply kept.settles (reseeds.settles (sameIdentity.trans owned))
      · rw [sameStage]
        exact standing.hypothesisStage
      · apply kept.first_of_same current sameStage inputs
        rw [decisions]
        exact List.Subset.refl _
  | @start stage fresh now base tables stored standing ready cleared committed =>
      obtain ⟨shape, event, -, stores⟩ := Database.markRunning_ok committed
      have storedStage : stored.stage = stage := by rw [shape]; rfl
      have storedIdentity : stored.identity = identity := by rw [shape]; rfl
      have first : stored.stage = proConDone → stored.inputRefs = inputRefs
          ∧ stored.recoveryDecisionRefs ⊆ inputRefs := by
        intro isFirst
        rw [storedStage] at isFirst
        subst isFirst
        rw [shape]
        exact kept.started distinct cleared
      have hypothesisStage : proConDone.index ≤ stored.stage.index := by
        rw [storedStage]
        exact standing.hypothesisStage
      split at cleared
      · rw [cleared] at stores
        exact kept.updates (stores.updates storedIdentity) hypothesisStage first
      · have settles : Settles before.db tables identity stored := by
          intro other
          rw [stores.get storedIdentity, storedStage, cleared, Database.get_deleteFrom]
        exact kept.settles settles hypothesisStage first
  | invoke => exact kept
  | complete standing current running committed =>
      obtain ⟨shape, event, stores⟩ := Database.complete_ok committed
      subst shape
      apply kept.edits current stores (by simp) (by simp) (by simp)
      exact StageCheckpoint.completed_recoveryDecisionRefs
  | fail current settles committed =>
      obtain ⟨-, shape, event, -, stores⟩ := Database.markFailure_ok committed
      subst shape
      exact kept.edits current stores rfl rfl rfl (List.Subset.refl _)
  | exhaust current isFailed retryable committed =>
      obtain ⟨shape, event, -, stores⟩ := Database.markRecoveryExhausted_ok committed
      subst shape
      exact kept.edits current stores rfl rfl rfl (List.Subset.refl _)
  | stop current isFailed committed =>
      obtain ⟨shape, recorded⟩ := Database.recordRecoveryStop_ok committed
      subst shape
      exact kept.decided current recorded rfl rfl rfl (List.Subset.refl _)
  | decide current isFailed committed =>
      exact kept.decided current committed rfl rfl rfl (List.Subset.refl _)
  | giveUp current isFailed committed =>
      obtain ⟨events, stores⟩ := Database.saveCheckpoint_ok committed
      exact kept.edits current stores rfl rfl rfl (List.Subset.refl _)
  | @promoteInitial blocked stored artifacts now tables owned committed =>
      obtain ⟨row, -, -, ⟨block, shape⟩, -, events, stores⟩ :=
        Database.promoteInitialEnvironmentInconclusive_ok committed
      have current : before.db.get identity blocked.stage = some blocked :=
        Database.get_eq_some.2 ⟨owned ▸ row, owned⟩
      subst shape
      exact kept.edits current stores rfl rfl rfl (List.Subset.refl _)
  | @promotePoc exhausted stored artifacts now tables owned committed =>
      obtain ⟨row, -, -, ⟨stop, shape⟩, -, events, stores⟩ :=
        Database.promoteInconclusiveExecution_ok committed
      have current : before.db.get identity exhausted.stage = some exhausted :=
        Database.get_eq_some.2 ⟨owned ▸ row, owned⟩
      subst shape
      exact kept.edits current stores rfl rfl rfl (List.Subset.refl _)
  | @repair candidate activityRefs now tables unconfigured current succeeded incomplete
      committed =>
      have reseeds : Reseeded before.db _ tables := ⟨_, (Database.replaceFrom_ok committed).2⟩
      apply kept.settles (reseeds.settles rfl)
      · exact (by decide : proConDone.index ≤ pocCandidateDone.index)
      · intro isFirst
        cases (show pocCandidateDone = proConDone from isFirst)

/-! ## Registering calls -/

namespace CandidateStore

/-- What a call registers a hypothesis with. -/
structure RegistrationArgs where
  hypothesisRef : StoredDataRef
  seed : StageCheckpoint
  chainDepth : Int
  parents : List String

variable {scope : CheckpointIdentity} {hypothesisId : String} {args other : RegistrationArgs}
  {first call : CandidateCall} {store : CandidateStore} {marker : String}

/-- The call registers the hypothesis with its first checkpoint. -/
inductive Names (scope : CheckpointIdentity) (hypothesisId : String) :
    CandidateCall → RegistrationArgs → Prop where
  | free {ref : StoredDataRef} {seed : StageCheckpoint} {depth : Int} {parents : List String} :
      Names scope hypothesisId (.registerFree scope hypothesisId ref seed depth parents)
        ⟨ref, seed, depth, parents⟩
  | candidate {fingerprint candidateId : String} {ref : StoredDataRef} {seed : StageCheckpoint}
      {depth : Int} {parents : List String} :
      Names scope hypothesisId
        (.registerCandidate scope fingerprint candidateId hypothesisId ref (some seed) depth
          parents)
        ⟨ref, seed, depth, parents⟩
  | outcome {fingerprint candidateId : String} {outcome : BatchOutcome}
      {registrations : List Registration} {registration : Registration}
      (member : registration ∈ registrations) (same : registration.hypothesisId = hypothesisId) :
      Names scope hypothesisId
        (.commitOutcome scope fingerprint candidateId outcome registrations)
        ⟨registration.hypothesisRef, registration.checkpoint, 0, []⟩

/-- The candidate a registering call names. -/
def candidateOf : CandidateCall → Option CandidateKey
  | .registerCandidate scope fingerprint candidateId .. =>
      some ⟨scope.scopeKey, fingerprint, candidateId⟩
  | .commitOutcome scope fingerprint candidateId .. =>
      some ⟨scope.scopeKey, fingerprint, candidateId⟩
  | _ => none

/-- The calls that repeat a registration: the same call, and the plain registrations with the
same arguments, for the same candidate if for one. -/
inductive Repeats (scope : CheckpointIdentity) (hypothesisId : String) (first : CandidateCall)
    (args : RegistrationArgs) : CandidateCall → Prop where
  | same : Repeats scope hypothesisId first args first
  | free : Repeats scope hypothesisId first args
      (.registerFree scope hypothesisId args.hypothesisRef args.seed args.chainDepth args.parents)
  | candidate {fingerprint candidateId : String}
      (linked : candidateOf first = some ⟨scope.scopeKey, fingerprint, candidateId⟩) :
      Repeats scope hypothesisId first args
        (.registerCandidate scope fingerprint candidateId hypothesisId args.hypothesisRef
          (some args.seed) args.chainDepth args.parents)

/-- Another reference, other seed inputs, another depth or other parents. -/
def Differs (args other : RegistrationArgs) : Prop :=
  other.hypothesisRef ≠ args.hypothesisRef ∨ other.seed.inputRefs ≠ args.seed.inputRefs
    ∨ other.chainDepth ≠ args.chainDepth ∨ other.parents ≠ args.parents

/-- The call commits an outcome that is stored already. -/
def ReplaysOutcome (store : CandidateStore) (call : CandidateCall) : Prop :=
  ∃ scope fingerprint candidateId outcome registrations,
    call = .commitOutcome scope fingerprint candidateId outcome registrations
      ∧ store.outcomes ⟨scope.scopeKey, fingerprint, candidateId⟩ = some outcome

/-- Registering the hypothesis again with the same arguments succeeds and changes nothing, and
with other arguments raises and changes nothing. -/
structure Idempotent (store : CandidateStore) (scope : CheckpointIdentity)
    (hypothesisId : String) (first : CandidateCall) (args : RegistrationArgs) : Prop where
  accepts : ∀ call marker, Repeats scope hypothesisId first args call →
    ∃ value, store.perform (marker, call) = (store, .ok value)
  rejects : ∀ call other marker, Names scope hypothesisId call other → Differs args other →
    ¬ store.ReplaysOutcome call →
    ∃ reason, store.perform (marker, call) = (store, .error reason)

/-! ## The history of a child -/

/-- The stores after the first registration of a hypothesis: further calls, moves of the runner
on the child that are allowed, and changes to other hypotheses. -/
inductive ChildHistory (allowed : Snapshot → Snapshot → Prop) (scope : CheckpointIdentity)
    (hypothesisId : String) (first : CandidateCall) (args : RegistrationArgs) :
    CandidateStore → Prop where
  | registered {store after : CandidateStore} {marker : String}
      (unused : ∀ stage, store.world.db.checkpoints ⟨scope.analysisId, hypothesisId, stage⟩ = none)
      (names : Names scope hypothesisId first args)
      (returned : store.perform (marker, first) = (after, .ok true)) :
      ChildHistory allowed scope hypothesisId first args after
  | called {store : CandidateStore} {call : String × CandidateCall}
      (history : ChildHistory allowed scope hypothesisId first args store)
      (rewrites : ∀ other row, call.2 = .upsertHypothesis other hypothesisId row →
        other.scopeKey ≠ scope.scopeKey)
      (resumes : ∀ env passes identity, call.2 ≠ .resume env passes identity) :
      ChildHistory allowed scope hypothesisId first args (store.perform call).1
  | moved {store : CandidateStore} {env : RunnerEnv} {after : Snapshot} {moment : Nat}
      (history : ChildHistory allowed scope hypothesisId first args store)
      (move : Move env (scope.child hypothesisId) store.world.toSnapshot after)
      (permitted : allowed store.world.toSnapshot after) :
      ChildHistory allowed scope hypothesisId first args
        { store with world := { toSnapshot := after, moment } }
  | elsewhere {store : CandidateStore} {world : World}
      (history : ChildHistory allowed scope hypothesisId first args store)
      (same : ∀ stage, world.db.checkpoints ((scope.child hypothesisId).key stage) =
        store.world.db.checkpoints ((scope.child hypothesisId).key stage)) :
      ChildHistory allowed scope hypothesisId first args { store with world }

/-! ## What stays recorded -/

/-- The arguments of a registration that was accepted. -/
structure ValidArgs (scope : CheckpointIdentity) (hypothesisId : String)
    (args : RegistrationArgs) : Prop where
  isScope : scope.hypothesisId = none
  linkable : LinkableRef scope args.hypothesisRef
  named : hypothesisIdInvalid hypothesisId
    (registeredRow args.hypothesisRef args.chainDepth args.parents) = false
  validSeed : ValidSeed scope hypothesisId args.hypothesisRef args.seed

/-- What a call that registered the hypothesis leaves behind. -/
structure Leaves (after : CandidateStore) (scope : CheckpointIdentity) (hypothesisId : String)
    (call : CandidateCall) (args : RegistrationArgs) : Prop where
  valid : ValidArgs scope hypothesisId args
  row : (after.hypotheses scope.scopeKey).rows hypothesisId =
    some (registeredRow args.hypothesisRef args.chainDepth args.parents)
  linked : ∀ fingerprint candidateId,
    candidateOf call = some ⟨scope.scopeKey, fingerprint, candidateId⟩ →
    isBlank fingerprint = false ∧ after.Selected ⟨scope.scopeKey, fingerprint, candidateId⟩
      ∧ hypothesisId ∈ after.links ⟨scope.scopeKey, fingerprint, candidateId⟩
  first : FirstOn after.world.db scope hypothesisId args.seed.inputRefs

variable {after : CandidateStore} {hypothesisRef : StoredDataRef} {seed : StageCheckpoint}
  {chainDepth : Int} {parents : List String} {scopeFingerprint candidateId : String}
  {outcome : BatchOutcome} {registrations : List Registration}

theorem validArgs_of_accepted {table : HypothesisTable} (isScope : scope.hypothesisId = none)
    (accepted : Accepted db table scope hypothesisId hypothesisRef seed chainDepth parents) :
    ValidArgs scope hypothesisId ⟨hypothesisRef, seed, chainDepth, parents⟩ :=
  ⟨isScope, accepted.linkable, accepted.named, accepted.validSeed⟩

/-- Marking the dashboard touches no other table. -/
theorem dirtyWhenChanged_tables {before : CandidateStore} {key : Option CandidateKey}
    {written : CandidateStore}
    (marked : written = dirtyWhenChanged before store scope key hypothesisId marker) :
    written.world = store.world ∧ written.hypotheses = store.hypotheses
      ∧ written.candidates = store.candidates ∧ written.links = store.links
      ∧ written.outcomes = store.outcomes := by
  subst marked
  unfold dirtyWhenChanged
  split <;> exact ⟨rfl, rfl, rfl, rfl, rfl⟩

/-- A free registration that returned. -/
theorem perform_registerFree {value : Bool}
    (returned : store.perform
      (marker, .registerFree scope hypothesisId hypothesisRef seed chainDepth parents) =
        (after, .ok value)) :
    ∃ worked, store.registerFreeConnection scope hypothesisId hypothesisRef seed chainDepth
        parents = .ok worked
      ∧ after = dirtyWhenChanged store worked scope none hypothesisId marker := by
  simp only [perform, answered, registerFreeHypothesis, atomically] at returned
  cases connected : store.registerFreeConnection scope hypothesisId hypothesisRef seed chainDepth
    parents with
  | error reason => simp [connected, Except.map] at returned
  | ok worked =>
      rw [connected] at returned
      exact ⟨worked, rfl, (congrArg Prod.fst returned).symm⟩

/-- A registration for a candidate that returned. -/
theorem perform_registerCandidate {value : Bool}
    (returned : store.perform
      (marker, .registerCandidate scope scopeFingerprint candidateId hypothesisId hypothesisRef
        (some seed) chainDepth parents) = (after, .ok value)) :
    ∃ worked, store.registerCandidateConnection scope scopeFingerprint candidateId hypothesisId
        hypothesisRef (some seed) chainDepth parents = .ok worked
      ∧ after = dirtyWhenChanged store worked scope
        (some ⟨scope.scopeKey, scopeFingerprint, candidateId⟩) hypothesisId marker := by
  simp only [perform, answered, registerCandidateHypothesis, atomically] at returned
  cases connected : store.registerCandidateConnection scope scopeFingerprint candidateId
    hypothesisId hypothesisRef (some seed) chainDepth parents with
  | error reason => simp [connected, Except.map] at returned
  | ok worked =>
      rw [connected] at returned
      exact ⟨worked, rfl, (congrArg Prod.fst returned).symm⟩

/-- The registrations of a committed outcome had valid arguments. -/
theorem registerAll_valid
    (returned : store.registerAll scope scopeFingerprint candidateId registrations =
      (after, .ok ())) :
    ∀ registration ∈ registrations, isBlank scopeFingerprint = false
      ∧ ValidArgs scope registration.hypothesisId
        ⟨registration.hypothesisRef, registration.checkpoint, 0, []⟩ := by
  let holds : Registration → CandidateStore → Prop := fun registration _ =>
    isBlank scopeFingerprint = false ∧ ValidArgs scope registration.hypothesisId
      ⟨registration.hypothesisRef, registration.checkpoint, 0, []⟩
  refine @runAll_ok _ _ _ _ holds ?_ ?_ _ _ _ returned
  · intro worked registration next committed
    obtain ⟨isScope, -, accepted, -⟩ := registerCandidateConnection_eq.1 committed
    exact ⟨isScope.2, validArgs_of_accepted isScope.1 accepted⟩
  · exact fun _ valid => valid

/-- The spec of the registering calls. -/
theorem Names.leaves (names : Names scope hypothesisId call args)
    (returned : store.perform (marker, call) = (after, .ok true)) :
    Leaves after scope hypothesisId call args := by
  cases names with
  | @free ref seed depth parents =>
      obtain ⟨worked, connected, marked⟩ := perform_registerFree returned
      obtain ⟨tables, registers, stored⟩ := except_bind_ok connected
      obtain ⟨isScope, accepted, rfl⟩ := registerFreeHypothesis_eq.1 registers
      obtain ⟨world, hypotheses, -⟩ := dirtyWhenChanged_tables marked
      cases stored
      constructor
      · exact validArgs_of_accepted isScope accepted
      · rw [hypotheses]
        simp [withRegistered]
      · exact fun _ _ none => absurd none (by simp [candidateOf])
      · rw [world]
        exact Database.firstOn_withFirst accepted.validSeed accepted.first
  | @candidate fingerprint candidateId ref seed depth parents =>
      obtain ⟨worked, connected, marked⟩ := perform_registerCandidate returned
      obtain ⟨isScope, selected, accepted, rfl⟩ := registerCandidateConnection_eq.1 connected
      obtain ⟨world, hypotheses, candidates, links, -⟩ := dirtyWhenChanged_tables marked
      constructor
      · exact validArgs_of_accepted isScope.1 accepted
      · rw [hypotheses]
        simp [CandidateStore.registered, withRegistered]
      · intro otherFingerprint otherId same
        cases same
        refine ⟨isScope.2, ?_, ?_⟩
        · obtain ⟨row, found, decided⟩ := selected
          exact ⟨row, by rw [candidates]; exact found, decided⟩
        · rw [links]
          simp [CandidateStore.registered]
      · rw [world]
        exact Database.firstOn_withFirst accepted.validSeed accepted.first
  | @outcome fingerprint candidateId outcome registrations registration member same =>
      subst same
      have committed := commitCandidateBatchOutcome_true returned
      obtain ⟨_, worked, -, -, -, ran, -⟩ := commitCandidateBatchOutcome_ran returned
      have registered := committed.registered registration member
      have kept : Persists store after := by
        have persists : Persists store (store.perform
            (marker, .commitOutcome scope fingerprint candidateId outcome registrations)).1 :=
          commitCandidateBatchOutcome_persists
        rwa [returned] at persists
      obtain ⟨blank, valid⟩ := registerAll_valid ran registration member
      constructor
      · exact valid
      · exact registered.row
      · intro otherFingerprint otherId found
        cases found
        exact ⟨blank, kept.selected _ committed.selected, registered.link⟩
      · exact registered.first

/-! ## What stays recorded -/

/-- What a registration leaves behind for good: its row, its link and its outcome. -/
structure Recorded (store : CandidateStore) (scope : CheckpointIdentity) (hypothesisId : String)
    (first : CandidateCall) (args : RegistrationArgs) : Prop where
  valid : ValidArgs scope hypothesisId args
  names : Names scope hypothesisId first args
  row : (store.hypotheses scope.scopeKey).rows hypothesisId =
    some (registeredRow args.hypothesisRef args.chainDepth args.parents)
  linked : ∀ fingerprint candidateId,
    candidateOf first = some ⟨scope.scopeKey, fingerprint, candidateId⟩ →
    isBlank fingerprint = false ∧ store.Selected ⟨scope.scopeKey, fingerprint, candidateId⟩
      ∧ hypothesisId ∈ store.links ⟨scope.scopeKey, fingerprint, candidateId⟩
  settled : ∀ fingerprint candidateId outcome registrations,
    first = .commitOutcome scope fingerprint candidateId outcome registrations →
    (∃ deepStatus, CommitChecks scope fingerprint candidateId outcome registrations deepStatus)
      ∧ store.outcomes ⟨scope.scopeKey, fingerprint, candidateId⟩ = some outcome

theorem Recorded.of_returned (names : Names scope hypothesisId first args)
    (returned : store.perform (marker, first) = (after, .ok true)) :
    Recorded after scope hypothesisId first args := by
  have leaves := names.leaves returned
  refine ⟨leaves.valid, names, leaves.row, leaves.linked, ?_⟩
  rintro fingerprint candidateId outcome registrations rfl
  refine ⟨commitCandidateBatchOutcome_checks returned, ?_⟩
  rw [(commitCandidateBatchOutcome_true returned).stored]
  simp

theorem Recorded.persists (recorded : Recorded store scope hypothesisId first args)
    (persists : Persists store after) : Recorded after scope hypothesisId first args := by
  refine ⟨recorded.valid, recorded.names, ?_, ?_, ?_⟩
  · exact persists.rows _ _ _ recorded.row (by simp [registeredRow])
  · intro fingerprint candidateId same
    obtain ⟨named, selected, linked⟩ := recorded.linked fingerprint candidateId same
    exact ⟨named, persists.selected _ selected, persists.links _ linked⟩
  · intro fingerprint candidateId outcome registrations same
    obtain ⟨checks, stored⟩ := recorded.settled fingerprint candidateId outcome registrations same
    exact ⟨checks, persists.outcomes _ _ stored⟩

/-- Rewriting another hypothesis touches neither this one nor the world. -/
theorem perform_upsertHypothesis {other : CheckpointIdentity} {otherId : String}
    {row : HypothesisRow}
    (apart : otherId = hypothesisId → other.scopeKey ≠ scope.scopeKey) :
    (store.perform (marker, .upsertHypothesis other otherId row)).1.world = store.world
      ∧ (store.perform (marker, .upsertHypothesis other otherId row)).1.candidates =
        store.candidates
      ∧ (store.perform (marker, .upsertHypothesis other otherId row)).1.links = store.links
      ∧ (store.perform (marker, .upsertHypothesis other otherId row)).1.outcomes = store.outcomes
      ∧ ((store.perform (marker, .upsertHypothesis other otherId row)).1.hypotheses
          scope.scopeKey).rows hypothesisId = (store.hypotheses scope.scopeKey).rows hypothesisId
      := by
  simp only [perform, committed]
  split
  · rename_i after upserted
    obtain ⟨table, written, stored⟩ := except_bind_ok upserted
    cases stored
    refine ⟨rfl, rfl, rfl, rfl, ?_⟩
    by_cases sameScope : scope.scopeKey = other.scopeKey
    · have different : hypothesisId ≠ otherId := fun same => apart same.symm sameScope.symm
      obtain ⟨stored, shape⟩ := upsertHypothesis_put written
      simp [sameScope, shape, HypothesisTable.put_rows_of_ne different]
    · simp [sameScope]
  · exact ⟨rfl, rfl, rfl, rfl, rfl⟩

/-- The invariant of the history. -/
theorem ChildHistory.recorded {allowed : Snapshot → Snapshot → Prop}
    (history : ChildHistory allowed scope hypothesisId first args store) :
    Recorded store scope hypothesisId first args := by
  induction history with
  | registered unused names returned => exact .of_returned names returned
  | @called store call _ rewrites resumes ih =>
      by_cases upserts : ∃ other otherId row, call.2 = .upsertHypothesis other otherId row
      · obtain ⟨other, otherId, row, isUpsert⟩ := upserts
        obtain ⟨marker, call⟩ := call
        simp only at isUpsert
        subst isUpsert
        have apart : otherId = hypothesisId → other.scopeKey ≠ scope.scopeKey := by
          rintro rfl
          exact rewrites other row rfl
        obtain ⟨-, candidates, links, outcomes, rows⟩ :=
          @perform_upsertHypothesis _ scope hypothesisId store marker other otherId row apart
        refine ⟨ih.valid, ih.names, rows.trans ih.row, ?_, ?_⟩
        · intro fingerprint candidateId same
          obtain ⟨named, ⟨row, found, decided⟩, linked⟩ := ih.linked fingerprint candidateId same
          exact ⟨named, ⟨row, by rw [candidates]; exact found, decided⟩, by rw [links]; exact linked⟩
        · intro fingerprint candidateId outcome registrations same
          obtain ⟨checks, stored⟩ := ih.settled fingerprint candidateId outcome registrations same
          exact ⟨checks, by rw [outcomes]; exact stored⟩
      · simp only [not_exists] at upserts
        exact ih.persists (perform_persists upserts resumes)
  | moved _ move permitted ih => exact ⟨ih.valid, ih.names, ih.row, ih.linked, ih.settled⟩
  | elsewhere _ same ih => exact ⟨ih.valid, ih.names, ih.row, ih.linked, ih.settled⟩

/-! ## Repeated and different registrations -/

theorem firstOn_unique {inputs others : List StoredDataRef}
    (first : FirstOn db scope hypothesisId inputs) (other : FirstOn db scope hypothesisId others) :
    inputs = others := by
  obtain ⟨row, found, rfl⟩ := first
  obtain ⟨otherRow, otherFound, rfl⟩ := other
  rw [found] at otherFound
  cases otherFound
  rfl

theorem Persists.firstOn (persists : Persists store after) {inputs : List StoredDataRef}
    (first : FirstOn store.world.db scope hypothesisId inputs) :
    FirstOn after.world.db scope hypothesisId inputs := by
  obtain ⟨row, found, same⟩ := first
  exact ⟨row, persists.first _ _ _ found, same⟩

theorem Names.persists (names : Names scope hypothesisId call args) :
    Persists store (store.perform (marker, call)).1 := by
  apply perform_persists <;> cases names <;> simp

theorem answered_true {result : CandidateStore × Except PyError Unit} {value : Bool}
    (answer : (answered result).2 = .ok value) : value = true := by
  obtain ⟨after, answer_⟩ := result
  cases answer_ with
  | error => cases answer
  | ok => exact (Except.ok.inj answer).symm

/-- A different registration raises as long as the first checkpoint has the inputs of the
seed. -/
theorem Recorded.rejects (recorded : Recorded store scope hypothesisId first args)
    (onSeed : FirstOn store.world.db scope hypothesisId args.seed.inputRefs)
    (names : Names scope hypothesisId call other) (differs : Differs args other)
    (fresh : ¬ store.ReplaysOutcome call) :
    ∃ reason, store.perform (marker, call) = (store, .error reason) := by
  cases performed : store.perform (marker, call) with
  | mk after answer =>
      cases answer with
      | error reason =>
          have same := @perform_error _ store (marker, call) reason (by rw [performed])
          rw [performed] at same
          exact ⟨reason, by rw [← same]⟩
      | ok value =>
          cases value with
          | false =>
              have answer := congrArg Prod.snd performed
              cases names with
              | free => exact absurd (answered_true answer) Bool.false_ne_true
              | candidate => exact absurd (answered_true answer) Bool.false_ne_true
              | outcome =>
                  exact absurd
                    ⟨_, _, _, _, _, rfl, (commitCandidateBatchOutcome_false performed).2⟩ fresh
          | true =>
              have leaves := names.leaves performed
              have persists : Persists store (store.perform (marker, call)).1 := names.persists
              rw [performed] at persists
              have sameRow := persists.rows _ _ _ recorded.row (by simp [registeredRow])
              rw [leaves.row] at sameRow
              simp only [registeredRow, Option.some.injEq, HypothesisRow.mk.injEq] at sameRow
              obtain ⟨sameRef, sameDepth, sameParents⟩ := sameRow
              have sameInputs := firstOn_unique leaves.first (persists.firstOn onSeed)
              rcases differs with ref | inputs | depth | parents
              · exact absurd sameRef ref
              · exact absurd sameInputs inputs
              · exact absurd sameDepth depth
              · exact absurd sameParents parents

/-- A registration of what is stored changes nothing. -/
theorem registrationChanged_self {key : Option CandidateKey} :
    registrationChanged store store scope key hypothesisId = false := by
  cases key <;> simp [registrationChanged]

theorem withRegistered_self
    (onSeed : FirstOn store.world.db scope hypothesisId args.seed.inputRefs)
    (row : (store.hypotheses scope.scopeKey).rows hypothesisId =
      some (registeredRow args.hypothesisRef args.chainDepth args.parents)) :
    store.withRegistered scope
        (store.world.db.withFirst scope hypothesisId args.seed,
          (store.hypotheses scope.scopeKey).put hypothesisId
            (registeredRow args.hypothesisRef args.chainDepth args.parents)) = store := by
  rw [Database.withFirst_of_firstOn onSeed, HypothesisTable.put_self row]
  simp [withRegistered, Function.update_eq_self]

/-- What is stored accepts the registration it came from. -/
theorem Recorded.accepted (recorded : Recorded store scope hypothesisId first args)
    (onSeed : FirstOn store.world.db scope hypothesisId args.seed.inputRefs) :
    Accepted store.world.db (store.hypotheses scope.scopeKey) scope hypothesisId
      args.hypothesisRef args.seed args.chainDepth args.parents := by
  refine ⟨recorded.valid.linkable, recorded.valid.named, ?_, recorded.valid.validSeed,
    .inr onSeed⟩
  intro stored found
  rw [recorded.row] at found
  cases found
  exact ⟨.inr rfl, rfl, rfl⟩

/-- A repeated registration succeeds and changes nothing as long as the first checkpoint has
the inputs of the seed. -/
theorem Recorded.accepts (recorded : Recorded store scope hypothesisId first args)
    (onSeed : FirstOn store.world.db scope hypothesisId args.seed.inputRefs)
    (repeats : Repeats scope hypothesisId first args call) :
    ∃ value, store.perform (marker, call) = (store, .ok value) := by
  have accepted := recorded.accepted onSeed
  have free : store.perform (marker, .registerFree scope hypothesisId args.hypothesisRef args.seed
      args.chainDepth args.parents) = (store, .ok true) := by
    have registers := registerFreeHypothesis_eq.2 ⟨recorded.valid.isScope, accepted, rfl⟩
    have connected : store.registerFreeConnection scope hypothesisId args.hypothesisRef args.seed
        args.chainDepth args.parents = .ok store := by
      change (Runtime.registerFreeHypothesis _ _ _ _ _ _ _ _ >>= _) = _
      rw [registers]
      exact congrArg Except.ok (withRegistered_self onSeed recorded.row)
    simp [perform, answered, registerFreeHypothesis, atomically, connected, dirtyWhenChanged,
      registrationChanged_self, Except.map]
  have candidate : ∀ fingerprint candidateId,
      candidateOf first = some ⟨scope.scopeKey, fingerprint, candidateId⟩ →
      store.perform (marker, .registerCandidate scope fingerprint candidateId hypothesisId
        args.hypothesisRef (some args.seed) args.chainDepth args.parents) = (store, .ok true) := by
    intro fingerprint candidateId same
    obtain ⟨named, selected, linked⟩ := recorded.linked fingerprint candidateId same
    have connected : store.registerCandidateConnection scope fingerprint candidateId hypothesisId
        args.hypothesisRef (some args.seed) args.chainDepth args.parents = .ok store := by
      refine registerCandidateConnection_eq.2
        ⟨⟨recorded.valid.isScope, named⟩, selected, accepted, ?_⟩
      rw [CandidateStore.registered, withRegistered_self onSeed recorded.row,
        Finset.insert_eq_of_mem linked, Function.update_eq_self]
    simp [perform, answered, registerCandidateHypothesis, atomically, connected, dirtyWhenChanged,
      registrationChanged_self, Except.map]
  cases repeats with
  | free => exact ⟨true, free⟩
  | candidate linked => exact ⟨true, candidate _ _ linked⟩
  | same =>
      cases recorded.names with
      | free => exact ⟨true, free⟩
      | candidate => exact ⟨true, candidate _ _ rfl⟩
      | outcome member =>
          obtain ⟨⟨deepStatus, checks⟩, stored⟩ := recorded.settled _ _ _ _ rfl
          exact ⟨false, commitCandidateBatchOutcome_repeated checks stored⟩

/-- A registration is idempotent exactly as long as the first checkpoint has the inputs of the
seed. -/
theorem Recorded.idempotent_iff (recorded : Recorded store scope hypothesisId first args) :
    Idempotent store scope hypothesisId first args ↔
      FirstOn store.world.db scope hypothesisId args.seed.inputRefs := by
  constructor
  · intro idempotent
    obtain ⟨value, performed⟩ := idempotent.accepts _ "" .free
    have leaves := Names.free.leaves (answered_true (congrArg Prod.snd performed) ▸ performed)
    exact leaves.first
  · intro onSeed
    exact ⟨fun call marker => recorded.accepts onSeed,
      fun call other marker => recorded.rejects onSeed⟩

/-! ## Histories that keep the first checkpoint -/

/-- The inputs of the seed are distinct and include its decisions, so that an attempt of the
stage takes them over as they are. -/
structure RegistrationArgs.Exact (args : RegistrationArgs) : Prop where
  distinct : args.seed.inputRefs.Nodup
  decisions : args.seed.recoveryDecisionRefs ⊆ args.seed.inputRefs

/-- The child has only a first checkpoint, which is the seed of the call. -/
structure OnlySeed (db : Database) (scope : CheckpointIdentity) (hypothesisId : String)
    (call : CandidateCall) : Prop where
  others : ∀ stage, stage ≠ proConDone → db.get (scope.child hypothesisId) stage = none
  first : ∀ first, db.get (scope.child hypothesisId) proConDone = some first →
    ∃ args, Names scope hypothesisId call args ∧ first = args.seed

theorem OnlySeed.of_unused
    (unused : ∀ stage, db.checkpoints ⟨scope.analysisId, hypothesisId, stage⟩ = none) :
    OnlySeed db scope hypothesisId call := by
  have nothing : ∀ stage, db.get (scope.child hypothesisId) stage = none := by
    intro stage
    have missing : db.checkpoints ((scope.child hypothesisId).key stage) = none := unused stage
    rw [Database.get, missing]
  refine ⟨fun stage _ => nothing stage, fun first found => ?_⟩
  rw [nothing] at found
  cases found

/-- A registration of the call inserts its seed, and one of another hypothesis nothing. -/
theorem OnlySeed.withFirst {otherId : String} {ref : StoredDataRef}
    (only : OnlySeed db scope hypothesisId call) (valid : ValidSeed scope otherId ref seed)
    (named : otherId = hypothesisId → ∃ args, Names scope hypothesisId call args
      ∧ seed = args.seed) : OnlySeed (db.withFirst scope otherId seed) scope hypothesisId call := by
  refine ⟨fun stage later => ?_, fun first found => ?_⟩
  · rw [Database.withFirst_others valid later]
    exact only.others stage later
  · unfold Database.withFirst at found
    split at found
    · by_cases same : otherId = hypothesisId
      · rw [Database.get_upsertCheckpoint (same ▸ valid.owned), if_pos valid.isFirst.symm] at found
        cases found
        exact named same
      · have different : (scope.child hypothesisId).key proConDone ≠
            seed.identity.key seed.stage := by
          rw [valid.owned]
          intro equal
          exact same (congrArg CheckpointKey.hypothesisKey equal).symm
        apply only.first first
        simpa only [Database.get, Database.upsertCheckpoint, Function.update_apply,
          if_neg different] using found
    · exact only.first first found

/-- The first registration of a hypothesis leaves its seed. -/
theorem Names.onlySeed (names : Names scope hypothesisId call args)
    (unused : ∀ stage, store.world.db.checkpoints ⟨scope.analysisId, hypothesisId, stage⟩ = none)
    (returned : store.perform (marker, call) = (after, .ok true)) :
    OnlySeed after.world.db scope hypothesisId call := by
  have before : OnlySeed store.world.db scope hypothesisId call := .of_unused unused
  cases names with
  | @free ref seed depth parents =>
      obtain ⟨worked, connected, marked⟩ := perform_registerFree returned
      obtain ⟨tables, registers, stored⟩ := except_bind_ok connected
      obtain ⟨-, accepted, rfl⟩ := registerFreeHypothesis_eq.1 registers
      cases stored
      rw [(dirtyWhenChanged_tables marked).1]
      exact before.withFirst accepted.validSeed fun _ => ⟨_, .free, rfl⟩
  | @candidate fingerprint candidateId ref seed depth parents =>
      obtain ⟨worked, connected, marked⟩ := perform_registerCandidate returned
      obtain ⟨-, -, accepted, rfl⟩ := registerCandidateConnection_eq.1 connected
      rw [(dirtyWhenChanged_tables marked).1]
      exact before.withFirst accepted.validSeed fun _ => ⟨_, .candidate, rfl⟩
  | @outcome fingerprint candidateId outcome registrations registration member same =>
      obtain ⟨_, worked, -, -, -, ran, rfl⟩ := commitCandidateBatchOutcome_ran returned
      let holds : CandidateStore → Prop := fun worked =>
        OnlySeed worked.world.db scope hypothesisId
          (.commitOutcome scope fingerprint candidateId outcome registrations)
      have kept : holds (store.registerAll scope fingerprint candidateId registrations).1 := by
        refine @runAll_keeps _ _ _ _ holds registrations ?_ store before
        intro between other next otherMember committed only
        obtain ⟨-, -, accepted, rfl⟩ := registerCandidateConnection_eq.1 committed
        exact only.withFirst accepted.validSeed fun sameId =>
          ⟨_, .outcome otherMember sameId, rfl⟩
      rw [ran] at kept
      exact kept

/-- Right after the first registration the seed is kept. -/
theorem Names.seedKept (names : Names scope hypothesisId call args)
    (exact_ : ∀ other, Names scope hypothesisId call other → other.Exact)
    (unused : ∀ stage, store.world.db.checkpoints ⟨scope.analysisId, hypothesisId, stage⟩ = none)
    (returned : store.perform (marker, call) = (after, .ok true)) :
    SeedKept after.world.db (scope.child hypothesisId) args.seed.inputRefs := by
  have only := names.onlySeed unused returned
  obtain ⟨first, found, inputs⟩ := (names.leaves returned).first
  obtain ⟨other, otherNames, rfl⟩ := only.first first found
  refine ⟨⟨other.seed, found, inputs, ?_⟩, ?_⟩
  · rw [← inputs]
    exact (exact_ other otherNames).decisions
  · intro stage earlier
    apply only.others
    rintro rfl
    exact Nat.lt_irrefl _ earlier

theorem seedKept_persists {inputs : List StoredDataRef} (persists : Persists store after)
    (kept : SeedKept store.world.db (scope.child hypothesisId) inputs) :
    SeedKept after.world.db (scope.child hypothesisId) inputs := by
  obtain ⟨first, found, facts⟩ := kept.first
  refine ⟨⟨first, persists.first _ _ _ found, facts⟩, fun stage earlier => ?_⟩
  have later : stage ≠ proConDone := by
    rintro rfl
    exact Nat.lt_irrefl _ earlier
  rw [persists.others _ _ later]
  exact kept.noneEarlier stage earlier

theorem ChildHistory.mono {allowed weaker : Snapshot → Snapshot → Prop}
    (history : ChildHistory allowed scope hypothesisId first args store)
    (implies : ∀ before after, allowed before after → weaker before after) :
    ChildHistory weaker scope hypothesisId first args store := by
  induction history with
  | registered unused names returned => exact .registered unused names returned
  | called _ rewrites resumes ih => exact .called ih rewrites resumes
  | moved _ move permitted ih => exact .moved ih move (implies _ _ permitted)
  | elsewhere _ same ih => exact .elsewhere ih same

/-- The run lemma: a history whose moves keep the first checkpoint keeps the seed. -/
theorem ChildHistory.seedKept
    (exact_ : ∀ other, Names scope hypothesisId first other → other.Exact)
    (history : ChildHistory (KeepsFirst (scope.child hypothesisId)) scope hypothesisId first args
      store) :
    SeedKept store.world.db (scope.child hypothesisId) args.seed.inputRefs := by
  induction history with
  | registered unused names returned => exact names.seedKept exact_ unused returned
  | @called store call history rewrites resumes ih =>
      by_cases upserts : ∃ other otherId row, call.2 = .upsertHypothesis other otherId row
      · obtain ⟨other, otherId, row, isUpsert⟩ := upserts
        obtain ⟨marker, call⟩ := call
        simp only at isUpsert
        subst isUpsert
        have apart : otherId = hypothesisId → other.scopeKey ≠ scope.scopeKey := by
          rintro rfl
          exact rewrites other row rfl
        rw [(@perform_upsertHypothesis _ scope hypothesisId store marker other otherId row
          apart).1]
        exact ih
      · simp only [not_exists] at upserts
        exact seedKept_persists (perform_persists upserts resumes) ih
  | moved history move permitted ih =>
      exact move.seedKept permitted (exact_ args history.recorded.names).distinct ih
  | @elsewhere store world _ same ih =>
      have rows : ∀ stage, world.db.get (scope.child hypothesisId) stage =
          store.world.db.get (scope.child hypothesisId) stage := by
        intro stage
        unfold Database.get
        rw [same]
      obtain ⟨row, found, facts⟩ := ih.first
      refine ⟨⟨row, (rows _).trans found, facts⟩, fun stage earlier => ?_⟩
      exact (rows _).trans (ih.noneEarlier stage earlier)

/-- Every call of the runner on the child extends a history without restrictions. -/
theorem ChildHistory.resumed
    (history : ChildHistory (fun _ _ => True) scope hypothesisId first args store)
    (env : RunnerEnv) (passes : Nat) :
    ChildHistory (fun _ _ => True) scope hypothesisId first args
      { store with
        world := (resumeHypothesis env passes (scope.child hypothesisId) store.world).2 } := by
  have moves : Moves env (scope.child hypothesisId) store.world.toSnapshot
      (resumeHypothesis env passes (scope.child hypothesisId) store.world).2.toSnapshot :=
    resumeHypothesis_moves env passes store.world
  have extended : ∀ after, Moves env (scope.child hypothesisId) store.world.toSnapshot after →
      ∀ moment, ChildHistory (fun _ _ => True) scope hypothesisId first args
        { store with world := { toSnapshot := after, moment } } := by
    intro after steps
    induction steps with
    | refl => exact fun moment => .elsewhere history fun _ => rfl
    | @tail between after _ move ih =>
        intro moment
        have extended := @ChildHistory.moved _ _ _ _ _ _ _ env after moment (ih 0) move trivial
        exact extended
  exact extended _ moves _

/-- After the first registration of a hypothesis, whatever happens to its child: registering it
again succeeds and changes nothing, and registering it differently raises, exactly as long as
the first checkpoint has the inputs of the seed.  It has them when every move kept the first
checkpoint and the seed was exact. -/
theorem registration_idempotent {allowed : Snapshot → Snapshot → Prop}
    (history : ChildHistory allowed scope hypothesisId first args store) :
    (Idempotent store scope hypothesisId first args ↔
        FirstOn store.world.db scope hypothesisId args.seed.inputRefs)
      ∧ ((∀ other, Names scope hypothesisId first other → other.Exact) →
        (∀ before after, allowed before after →
          KeepsFirst (scope.child hypothesisId) before after) →
        Idempotent store scope hypothesisId first args) := by
  refine ⟨history.recorded.idempotent_iff, fun exact_ keeps => ?_⟩
  obtain ⟨row, found, inputs, -⟩ := ((history.mono keeps).seedKept exact_).first
  exact history.recorded.idempotent_iff.2 ⟨row, found, inputs⟩

end CandidateStore

end Sastsimi.Runtime

namespace Sastsimi.Runtime.Concrete

open SimpleStage Lib CandidateStore

/-- The call that registers the hypothesis. -/
def registrationCall : CandidateCall :=
  .registerFree candidateScope "hypothesis" (artifact "proposal") registered 0 []

/-- What the call registers the hypothesis with. -/
def registrationArgs : RegistrationArgs := ⟨artifact "proposal", registered, 0, []⟩

/-- The store after the call. -/
def registeredStore : CandidateStore := (selectedCandidate.perform ("marker", registrationCall)).1

theorem registeredStore_returned :
    selectedCandidate.perform ("marker", registrationCall) = (registeredStore, .ok true) := by
  have answered : (selectedCandidate.perform ("marker", registrationCall)).2.toOption =
      some true := by
    decide +kernel
  rw [registeredStore]
  cases result : selectedCandidate.perform ("marker", registrationCall) with
  | mk after answer =>
      rw [result] at answered
      cases answer with
      | error => cases answered
      | ok => cases answered; rfl

theorem registeredStore_history {allowed : Snapshot → Snapshot → Prop} :
    ChildHistory allowed candidateScope "hypothesis" registrationCall registrationArgs
      registeredStore :=
  .registered (fun _ => rfl) .free registeredStore_returned

/-- The first stage fails once, and the coordinator retries it. -/
def retriedFirstStage : RunnerEnv :=
  runner (fun stage =>
    if stage = proConDone then some fun _ _ _ =>
      .stageBlocked { code := "TIMEOUT", retryable := true, evidenceRefs := [artifact "evidence"] }
    else none) (some alwaysRetry)

/-- After one recovery of the first stage the same registration raises. -/
theorem retriedFirstStage_conflicts :
    ¬ ∀ store, ChildHistory (fun _ _ => True) candidateScope "hypothesis" registrationCall
        registrationArgs store →
      Idempotent store candidateScope "hypothesis" registrationCall registrationArgs := by
  intro always
  have history := registeredStore_history.resumed retriedFirstStage 1
  obtain ⟨first, found, inputs⟩ := history.recorded.idempotent_iff.1 (always _ history)
  have other : ((resumeHypothesis retriedFirstStage 1 (candidateScope.child "hypothesis")
      registeredStore.world).2.db.get (candidateScope.child "hypothesis") proConDone).map
        (·.inputRefs) ≠ some registered.inputRefs := by
    decide +kernel
  apply other
  rw [found]
  exact congrArg some inputs

/-- Right after the registration the same registration changes nothing. -/
theorem registeredStore_idempotent :
    Idempotent registeredStore candidateScope "hypothesis" registrationCall registrationArgs := by
  have history : ChildHistory (KeepsFirst (candidateScope.child "hypothesis")) candidateScope
      "hypothesis" registrationCall registrationArgs registeredStore := registeredStore_history
  refine (registration_idempotent history).2 ?_ fun _ _ => id
  intro other names
  cases names
  exact ⟨by decide, List.nil_subset _⟩

end Sastsimi.Runtime.Concrete
