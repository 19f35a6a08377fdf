import Sastsimi.Runtime.Refinement

/-!
# The frontier of a hypothesis

In every state the runner can reach, the stored stages of a hypothesis are a walked prefix:
only the last one may be unfinished, and each was started on the outputs of the success
before it.  The invariant is kept by every move, so it holds after any calls, crashes and
cancellations.
-/

namespace Sastsimi.Runtime

open SimpleStage Lib

variable [Platform] {env : RunnerEnv} {identity : CheckpointIdentity} {db after : Database}

/-! ## The invariant -/

/-- The inputs of a checkpoint contain all outputs of the nearest earlier success. -/
def Database.Contains (db : Database) (identity : CheckpointIdentity) (stage : SimpleStage)
    (checkpoint : StageCheckpoint) : Prop :=
  ∀ source, db.nearestSuccess identity stage = some source →
    source.outputRefs ⊆ checkpoint.inputRefs

/-- The stored stages are a walked prefix on current inputs. -/
structure Frontier (db : Database) (identity : CheckpointIdentity) : Prop where
  standing : ∀ stage checkpoint, db.get identity stage = some checkpoint →
    Standing db identity stage
  versions : ∀ stage checkpoint, db.get identity stage = some checkpoint →
    checkpoint.status ≠ .pending → checkpoint.stageVersion = stage.stageVersion
  contained : ∀ stage checkpoint, db.get identity stage = some checkpoint →
    db.Contains identity stage checkpoint

/-- A stored stage below another stored stage was walked past. -/
theorem Frontier.passed (frontier : Frontier db identity) {stage later : SimpleStage}
    {checkpoint other : StageCheckpoint} (stored : db.get identity stage = some checkpoint)
    (above : db.get identity later = some other) (before : stage.index < later.index) :
    checkpoint.status = .succeeded ∧ ¬ checkpoint.Stops := by
  have standing := frontier.standing stage checkpoint stored
  rcases (frontier.standing later other above).walked stage standing.hypothesisStage before with
    skipped | ⟨found, storedAgain, succeeded, -, goesOn⟩
  · exact absurd skipped standing.kept
  · rw [stored] at storedAgain
    cases storedAgain
    exact ⟨succeeded, goesOn⟩

/-- Nothing is stored above an unfinished or stopping checkpoint. -/
theorem Frontier.none_above (frontier : Frontier db identity) {stage later : SimpleStage}
    {checkpoint : StageCheckpoint} (stored : db.get identity stage = some checkpoint)
    (last : checkpoint.status ≠ .succeeded ∨ checkpoint.Stops)
    (before : stage.index < later.index) : db.get identity later = none := by
  cases above : db.get identity later with
  | none => rfl
  | some other =>
      obtain ⟨succeeded, goesOn⟩ := frontier.passed stored above before
      rcases last with unfinished | stops
      · exact absurd succeeded unfinished
      · exact absurd stops goesOn

/-! ## What a move does to the rows -/

/-- The rows from a stage on are gone. -/
def Shrinks (db after : Database) (identity : CheckpointIdentity) (stage : SimpleStage) :
    Prop :=
  ∀ other : SimpleStage, after.get identity other =
    if stage.index ≤ other.index then none else db.get identity other

/-- The stage of a checkpoint becomes the last stored one. -/
def Settles (db after : Database) (identity : CheckpointIdentity)
    (checkpoint : StageCheckpoint) : Prop :=
  ∀ other : SimpleStage, after.get identity other =
    if other = checkpoint.stage then some checkpoint
    else if checkpoint.stage.index ≤ other.index then none
    else db.get identity other

/-- The row of one checkpoint is replaced. -/
def Updates (db after : Database) (identity : CheckpointIdentity)
    (checkpoint : StageCheckpoint) : Prop :=
  ∀ other : SimpleStage, after.get identity other =
    if other = checkpoint.stage then some checkpoint else db.get identity other

theorem Shrinks.agreesBefore {stage : SimpleStage}
    (shrinks : Shrinks db after identity stage) : AgreesBefore db after identity stage := by
  intro other earlier
  rw [shrinks other, if_neg (Nat.not_le.2 earlier)]

theorem Settles.agreesBefore {checkpoint : StageCheckpoint}
    (settles : Settles db after identity checkpoint) :
    AgreesBefore db after identity checkpoint.stage := by
  intro other earlier
  rw [settles other, if_neg, if_neg (Nat.not_le.2 earlier)]
  rintro rfl
  exact Nat.lt_irrefl _ earlier

theorem Reseeded.settles {checkpoint : StageCheckpoint}
    (reseeds : Reseeded db checkpoint after) (owned : checkpoint.identity = identity) :
    Settles db after identity checkpoint := fun _ =>
  reseeds.get owned

theorem Stored.updates {checkpoint : StageCheckpoint} {events : List AgentActivityEvent}
    (stores : Stored db checkpoint events after) (owned : checkpoint.identity = identity) :
    Updates db after identity checkpoint := fun _ =>
  stores.get owned

/-- Replacing the last stored row settles its stage. -/
theorem Updates.settles {checkpoint : StageCheckpoint}
    (updates : Updates db after identity checkpoint)
    (noneAbove : ∀ other : SimpleStage, checkpoint.stage.index < other.index →
      db.get identity other = none) : Settles db after identity checkpoint := by
  intro other
  rw [updates other]
  by_cases same : other = checkpoint.stage
  · rw [if_pos same, if_pos same]
  · rw [if_neg same, if_neg same]
    by_cases above : checkpoint.stage.index ≤ other.index
    · rw [if_pos above]
      apply noneAbove
      exact Nat.lt_of_le_of_ne above
        fun equal => same (SimpleStage.index_injective equal.symm)
    · rw [if_neg above]

theorem nearestSuccess_congr {stage : SimpleStage}
    (agrees : AgreesBefore db after identity stage) :
    after.nearestSuccess identity stage = db.nearestSuccess identity stage := by
  unfold Database.nearestSuccess
  have earlier : ∀ item ∈ (stageOrder.take stage.index).reverse, item.index < stage.index := by
    cases stage <;> decide
  revert earlier
  induction (stageOrder.take stage.index).reverse with
  | nil => exact fun _ => rfl
  | cons item rest ih =>
      intro earlier
      rw [List.findSome?_cons, List.findSome?_cons, agrees item (earlier item (by simp)),
        ih fun other member => earlier other (by simp [member])]

theorem Contains.congr {stage : SimpleStage} {checkpoint : StageCheckpoint}
    (agrees : AgreesBefore db after identity stage)
    (contains : db.Contains identity stage checkpoint) :
    after.Contains identity stage checkpoint := by
  unfold Database.Contains
  rwa [nearestSuccess_congr agrees]

theorem AgreesBefore.mono {stage earlier : SimpleStage}
    (agrees : AgreesBefore db after identity stage) (before : earlier.index ≤ stage.index) :
    AgreesBefore db after identity earlier := fun other lower =>
  agrees other (Nat.lt_of_lt_of_le lower before)

/-- The frontier depends on the rows of the hypothesis only. -/
theorem Frontier.congr (frontier : Frontier db identity)
    (same : ∀ stage, after.get identity stage = db.get identity stage) :
    Frontier after identity := by
  have agrees : ∀ stage, AgreesBefore db after identity stage := fun _ other _ => same other
  constructor
  · intro stage checkpoint stored
    rw [same] at stored
    exact (frontier.standing stage checkpoint stored).congr (agrees stage)
  · intro stage checkpoint stored
    rw [same] at stored
    exact frontier.versions stage checkpoint stored
  · intro stage checkpoint stored
    rw [same] at stored
    exact Contains.congr (agrees stage) (frontier.contained stage checkpoint stored)

theorem Frontier.shrink (frontier : Frontier db identity) {stage : SimpleStage}
    (shrinks : Shrinks db after identity stage) : Frontier after identity := by
  have below : ∀ other checkpoint, after.get identity other = some checkpoint →
      other.index < stage.index ∧ db.get identity other = some checkpoint := by
    intro other checkpoint stored
    rw [shrinks other] at stored
    split at stored
    · cases stored
    · exact ⟨Nat.not_le.1 ‹_›, stored⟩
  constructor
  · intro other checkpoint stored
    obtain ⟨lower, storedBefore⟩ := below other checkpoint stored
    exact (frontier.standing other checkpoint storedBefore).congr
      (shrinks.agreesBefore.mono (Nat.le_of_lt lower))
  · intro other checkpoint stored
    exact frontier.versions other checkpoint (below other checkpoint stored).2
  · intro other checkpoint stored
    obtain ⟨lower, storedBefore⟩ := below other checkpoint stored
    exact Contains.congr (shrinks.agreesBefore.mono (Nat.le_of_lt lower))
      (frontier.contained other checkpoint storedBefore)

theorem Frontier.settle (frontier : Frontier db identity) {checkpoint : StageCheckpoint}
    (settles : Settles db after identity checkpoint)
    (standing : Standing db identity checkpoint.stage)
    (version : checkpoint.status ≠ .pending →
      checkpoint.stageVersion = checkpoint.stage.stageVersion)
    (contains : db.Contains identity checkpoint.stage checkpoint) :
    Frontier after identity := by
  have rows : ∀ other stored, after.get identity other = some stored →
      other = checkpoint.stage ∧ stored = checkpoint
        ∨ other.index < checkpoint.stage.index ∧ db.get identity other = some stored := by
    intro other stored found
    rw [settles other] at found
    split at found
    · cases found
      exact .inl ⟨‹_›, rfl⟩
    · split at found
      · cases found
      · exact .inr ⟨Nat.not_le.1 ‹_›, found⟩
  constructor
  · intro other stored found
    rcases rows other stored found with ⟨rfl, rfl⟩ | ⟨lower, before⟩
    · exact standing.congr settles.agreesBefore
    · exact (frontier.standing other stored before).congr
        (settles.agreesBefore.mono (Nat.le_of_lt lower))
  · intro other stored found
    rcases rows other stored found with ⟨rfl, rfl⟩ | ⟨-, before⟩
    · exact version
    · exact frontier.versions other stored before
  · intro other stored found
    rcases rows other stored found with ⟨rfl, rfl⟩ | ⟨lower, before⟩
    · exact Contains.congr settles.agreesBefore contains
    · exact Contains.congr (settles.agreesBefore.mono (Nat.le_of_lt lower))
        (frontier.contained other stored before)

/-! ## What a new attempt inherits -/

omit [Platform] in
theorem stageOrder_reverse_pairwise (stage : SimpleStage) :
    ((stageOrder.take stage.index).reverse).Pairwise fun left right =>
      right.index < left.index := by
  cases stage <;> decide

omit [Platform] in
theorem mem_stageOrder_take {stage earlier : SimpleStage} :
    earlier ∈ stageOrder.take stage.index ↔ earlier.index < stage.index := by
  cases stage <;> cases earlier <;> decide

/-- The checkpoint before a stage is the last one stored below it. -/
theorem preceding_eq {stage : SimpleStage} {last : StageCheckpoint}
    (current : db.get identity last.stage = some last)
    (before : last.stage.index < stage.index)
    (noneBetween : ∀ other : SimpleStage, last.stage.index < other.index →
      other.index < stage.index → db.get identity other = none) :
    db.preceding identity stage = some last := by
  have member : last.stage ∈ (stageOrder.take stage.index).reverse :=
    List.mem_reverse.2 (mem_stageOrder_take.2 before)
  obtain ⟨later, earlier, split⟩ := List.append_of_mem member
  have ordered := stageOrder_reverse_pairwise stage
  rw [split, List.pairwise_append] at ordered
  have found : (db.prior identity stage).getLast? = some (last.stage, last) := by
    rw [Database.prior, List.getLast?_filterMap, List.findSome?_eq_some_iff]
    refine ⟨later, last.stage, earlier, split, by simp [current], ?_⟩
    intro other otherMember
    have above := ordered.2.2 other otherMember last.stage (by simp)
    have below : other ∈ (stageOrder.take stage.index).reverse := by
      rw [split]
      exact List.mem_append_left _ otherMember
    rw [List.mem_reverse, mem_stageOrder_take] at below
    rw [noneBetween other above below]
    rfl
  rw [Database.preceding, found]
  rfl

/-! ## The checkpoint a move settles -/

/-- The attempt of a checkpoint goes on under another status. -/
structure SameAttempt (previous stored : StageCheckpoint) : Prop where
  identity : stored.identity = previous.identity
  stage : stored.stage = previous.stage
  stageVersion : stored.stageVersion = previous.stageVersion
  inputRefs : stored.inputRefs = previous.inputRefs
  attemptId : stored.attemptId = previous.attemptId
  attemptNumber : stored.attemptNumber = previous.attemptNumber
  gateRevisionCount : stored.gateRevisionCount = previous.gateRevisionCount
  recoveryLineageId : stored.recoveryLineageId = previous.recoveryLineageId
  recoveryOriginStage : stored.recoveryOriginStage = previous.recoveryOriginStage
  stopDecision : stored.stage = pocExecutionDone
    ∨ stored.pocStopDecisionRef = previous.pocStopDecisionRef

/-- The checkpoint that starts a new pass. -/
inductive RestartChange (env : RunnerEnv) (identity : CheckpointIdentity) (before : Database) :
    StageCheckpoint → Prop where
  | recover {failed restart : StageCheckpoint} {resolution : RecoveryResolution} {now : Nat}
      (configured : env.recovery ≠ none)
      (standing : Standing before identity failed.stage)
      (current : before.get identity failed.stage = some failed)
      (isFailed : failed.Failed) (retryable : failed.retryable = true)
      (restartStanding : Standing before identity restart.stage)
      (bounded : failed.attemptNumber < maxRecoveryAttempts)
      (stored : before.get identity restart.stage = some restart)
      (notLater : restart.stage.index ≤ failed.stage.index)
      (target : recoveryRestartStage failed.stage resolution.action = some restart.stage) :
      RestartChange env identity before
        (failed.recoverySeed resolution restart.stage (some restart) now)
  | revise {gate candidate execution : StageCheckpoint} {now : Nat}
      (standing : Standing before identity techGateDone)
      (current : before.get identity techGateDone = some gate)
      (stops : gate.Stops)
      (bounded : gate.gateRevisionCount < 2)
      (stored : before.get identity pocCandidateDone = some candidate) :
      RestartChange env identity before (Database.revisionSeed gate candidate execution now)

/-- The checkpoint a move stores and the events it adds to the trace, from what was stored
before. -/
inductive Change (env : RunnerEnv) (identity : CheckpointIdentity) (before : Database) :
    List TraceEvent → StageCheckpoint → Prop where
  | restart {stored : StageCheckpoint} (change : RestartChange env identity before stored) :
      Change env identity before [] stored
  | edit {previous stored : StageCheckpoint}
      (current : before.get identity previous.stage = some previous)
      (settled : previous.status ≠ .pending)
      (last : previous.status ≠ .succeeded ∨ previous.Stops)
      (same : SameAttempt previous stored)
      (status : stored.status ≠ .pending ∧ stored.status ≠ .running)
      (closed : previous.Closed → stored.Closed) :
      Change env identity before [] stored
  | complete {checkpoint : StageCheckpoint} {result : StageResult} {now : Nat}
      (standing : Standing before identity checkpoint.stage)
      (current : before.get identity checkpoint.stage = some checkpoint)
      (running : checkpoint.status = .running) :
      Change env identity before [] (checkpoint.completed result now)
  | replay {checkpoint pending : StageCheckpoint}
      (standing : Standing before identity checkpoint.stage)
      (current : before.get identity checkpoint.stage = some checkpoint)
      (unsettled : checkpoint.status ≠ .pending ∧ checkpoint.status ≠ .succeeded)
      (revivable : ¬ checkpoint.Refuted)
      (copy : pending = checkpoint.forReplay
          ∧ checkpoint.stageVersion = checkpoint.stage.stageVersion
        ∨ pending = checkpoint.forUpgrade) :
      Change env identity before [] pending
  | start {stage : SimpleStage} {fresh : String} {now : Nat} {base : Database}
      (standing : Standing before identity stage)
      (startable : ∀ checkpoint, before.get identity stage = some checkpoint →
        Startable env checkpoint)
      (cleared : base =
        if (before.get identity stage).map (·.status) = some .pending then before
        else before.deleteFrom identity stage) :
      Change env identity before [.started stage (before.get identity stage)]
        (base.runningCheckpoint identity stage
          (stageInputs env before identity stage (before.get identity stage))
          (selectAttemptId stage (before.get identity stage) (before.preceding identity stage)
            fresh)
          (inheritSource (before.get identity stage) (before.preceding identity stage)) now)
  | repair {candidate : StageCheckpoint} {activityRefs : List StoredDataRef} {now : Nat}
      (unconfigured : env.recovery = none)
      (current : before.get identity pocCandidateDone = some candidate) :
      Change env identity before []
        (repairSeed identity candidate (before.get identity pocExecutionDone) activityRefs now)

/-- The loop stood at every stored stage it walked past. -/
theorem Standing.earlier {stage earlier : SimpleStage} (standing : Standing db identity stage)
    (hypothesisStage : proConDone.index ≤ earlier.index)
    (kept : earlier ∉ holdSkips) (before : earlier.index ≤ stage.index) :
    Standing db identity earlier where
  hypothesisStage := hypothesisStage
  walked := fun other hypothesisStage below =>
    standing.walked other hypothesisStage (Nat.lt_of_lt_of_le below before)
  kept := fun skipped => kept skipped.1

/-- The restart stage of a recovery is stored. -/
theorem restart_stored {failed : StageCheckpoint} {action : RecoveryAction}
    {restartStage : SimpleStage} (standing : Standing db identity failed.stage)
    (current : db.get identity failed.stage = some failed)
    (target : recoveryRestartStage failed.stage action = some restartStage) :
    restartStage.index ≤ failed.stage.index
      ∧ Standing db identity restartStage
      ∧ ∃ restart, db.get identity restartStage = some restart := by
  have earlier : ∀ stage : SimpleStage, stage ∉ holdSkips →
      proConDone.index ≤ stage.index → stage.index ≤ failed.stage.index →
      stage.index ≤ failed.stage.index ∧ Standing db identity stage
        ∧ ∃ restart, db.get identity stage = some restart := by
    intro stage kept hypothesisStage below
    refine ⟨below, standing.earlier hypothesisStage kept below, ?_⟩
    rcases Nat.lt_or_eq_of_le below with before | same
    · rcases standing.walked stage hypothesisStage before with skipped | passed
      · exact absurd skipped.1 kept
      · obtain ⟨restart, stored, -⟩ := passed
        exact ⟨restart, stored⟩
    · rw [SimpleStage.index_inj] at same
      exact ⟨failed, same ▸ current⟩
  have here : failed.stage.index ≤ failed.stage.index ∧ Standing db identity failed.stage
      ∧ ∃ restart, db.get identity failed.stage = some restart :=
    ⟨Nat.le_refl _, standing, failed, current⟩
  unfold recoveryRestartStage at target
  split at target
  · cases target
    exact here
  · split at target
    · split at target
      · cases target
      · cases target
        exact earlier _ (by decide) (by decide) (Nat.not_lt.1 ‹_›)
    · split at target
      · rename_i execution
        cases target
        have below : pocCandidateDone.index ≤ failed.stage.index := by
          rw [execution.2]
          decide
        exact earlier _ (by decide) (by decide) below
      · cases target
        exact here

theorem Restart.effect (restarts : Restart env identity db after) :
    ∃ stored, RestartChange env identity db stored ∧ Settles db after identity stored := by
  cases restarts with
  | @recover failed stored resolution restartStage now configured standing current retryable
      bounded target committed =>
      have owned := Database.identity_of_get current
      obtain ⟨isFailed, -, -, shape, event, activity, -, -, tables⟩ :=
        Database.prepareRecovery_ok committed
      obtain ⟨notLater, restartStanding, restart, restartStored⟩ :=
        restart_stored standing current target
      have sameStage := Database.stage_of_get restartStored
      rw [owned, restartStored] at shape
      subst sameStage
      have storedIdentity : stored.identity = identity := by rw [shape]; exact owned
      have reseeds : Reseeded db stored after := by
        refine ⟨activity, ?_⟩
        rw [tables, storedIdentity, owned]
        rw [shape]
        rfl
      refine ⟨stored, ?_, reseeds.settles storedIdentity⟩
      rw [shape]
      exact .recover configured standing current isFailed retryable restartStanding bounded
        restartStored notLater target
  | @revise gate stored now standing current committed =>
      have owned := Database.identity_of_get current
      obtain ⟨revises, bounded, candidate, execution, candidateRow, -, -, -, shape, tables⟩ :=
        Database.prepareGateRevision_ok committed (owned.symm ▸ current)
      obtain ⟨found, candidateStored, -⟩ :=
        (standing.walked pocCandidateDone (by decide) (by decide)).resolve_left
          fun skipped => absurd skipped.1 (by decide)
      rw [owned, (Database.get_eq_some.1 candidateStored).1] at candidateRow
      cases candidateRow
      have storedIdentity : stored.identity = identity := by rw [shape]; exact owned
      have reseeds : Reseeded db stored after := by
        refine ⟨db.activity, ?_⟩
        rw [tables, storedIdentity, owned, shape]
        rfl
      have stops : gate.Stops :=
        .inr (.inr (.inr (.inr (.inr ⟨Database.stage_of_get current, revises⟩))))
      refine ⟨stored, ?_, reseeds.settles storedIdentity⟩
      rw [shape]
      exact .revise standing current stops bounded candidateStored

theorem RestartChange.standing {stored : StageCheckpoint}
    (change : RestartChange env identity db stored) : Standing db identity stored.stage := by
  cases change with
  | recover configured standing current isFailed retryable restartStanding =>
      exact restartStanding
  | revise standing =>
      have candidate : Standing db identity pocCandidateDone :=
        standing.earlier (by decide) (by decide) (by decide)
      exact candidate

/-- Giving up on a checkpoint leaves it closed. -/
theorem StageCheckpoint.Closed.abandoned {checkpoint : StageCheckpoint} {now : Nat}
    (closed : checkpoint.Closed) :
    StageCheckpoint.Closed { checkpoint with retryable := false, updatedAt := now } := by
  rcases closed with succeeded | refuted
  · exact .inl succeeded
  · exact .inr ⟨refuted.1, rfl, refuted.2.2⟩

/-- What one move leaves behind: nothing changed, a suffix was deleted, the stage of one
checkpoint became the last stored one, or the row of an unfinished or stopping checkpoint was
replaced. -/
inductive Effect (env : RunnerEnv) (identity : CheckpointIdentity) (before after : Database)
    (events : List TraceEvent) : Prop where
  | unchanged (same : ∀ stage, after.get identity stage = before.get identity stage)
  | shrinks {stage : SimpleStage} (standing : Standing before identity stage)
      (dropped : ∀ checkpoint, before.get identity stage = some checkpoint →
        checkpoint.stageVersion ≠ stage.stageVersion
          ∨ env.recovery = none ∧ checkpoint.status ≠ .pending
            ∧ checkpoint.status ≠ .succeeded)
      (shrinks : Shrinks before after identity stage)
  | settles {stored : StageCheckpoint} (change : Change env identity before events stored)
      (visits : env.recovery ≠ none → Standing before identity stored.stage)
      (settles : Settles before after identity stored)
  | updates {previous stored : StageCheckpoint}
      (change : Change env identity before events stored)
      (current : before.get identity stored.stage = some previous)
      (last : previous.status ≠ .succeeded ∨ previous.Stops)
      (updates : Updates before after identity stored)

/-- Editing an unfinished or stopping checkpoint in place. -/
theorem Effect.edit {previous stored : StageCheckpoint} {events : List AgentActivityEvent}
    (current : db.get identity previous.stage = some previous)
    (settled : previous.status ≠ .pending)
    (last : previous.status ≠ .succeeded ∨ previous.Stops)
    (same : SameAttempt previous stored)
    (status : stored.status ≠ .pending ∧ stored.status ≠ .running)
    (closed : previous.Closed → stored.Closed)
    (stores : Stored db stored events after) : Effect env identity db after [] := by
  have owned : stored.identity = identity :=
    same.identity.trans (Database.identity_of_get current)
  refine .updates (.edit current settled last same status closed) ?_ last
    (stores.updates owned)
  rw [same.stage]
  exact current

theorem StageCheckpoint.Failed.unsettled {checkpoint : StageCheckpoint}
    (isFailed : checkpoint.Failed) :
    checkpoint.status ≠ .pending ∧ checkpoint.status ≠ .running
      ∧ checkpoint.status ≠ .succeeded := by
  rcases isFailed with blocked | failed <;> simp [*]

theorem Effect.decide {failed : StageCheckpoint} {resolution : RecoveryResolution}
    {previous : StageCheckpoint}
    (current : db.get identity previous.stage = some previous)
    (isFailed : previous.Failed) (same : SameAttempt previous failed)
    (status : failed.status = previous.status)
    (closed : previous.Closed → failed.Closed)
    (committed : db.recordRecoveryDecision failed resolution = .ok after) :
    Effect env identity db after [] := by
  obtain ⟨event, activity, -, appended, tables⟩ := Database.recordRecoveryDecision_ok committed
  have stores : Stored db failed [event] after := by
    refine ⟨activity, ?_, tables⟩
    simp [appendEvents, appended]
  obtain ⟨notPending, notRunning, notSucceeded⟩ := isFailed.unsettled
  exact .edit current notPending (.inl notSucceeded) same
    (by rw [status]; exact ⟨notPending, notRunning⟩) closed stores

/-- The events a move adds to the trace. -/
def Traced (before after : Snapshot) (events : List TraceEvent) : Prop :=
  after.trace = before.trace ++ events

theorem Traced.none {before : Snapshot} {tables : Database} :
    Traced before { before with db := tables } [] :=
  (List.append_nil _).symm

/-- The inversion of one move. -/
theorem Move.effect {before after : Snapshot} (move : Move env identity before after) :
    ∃ events, Traced before after events
      ∧ Effect env identity before.db after.db events := by
  cases move with
  | restart restarts =>
      obtain ⟨stored, change, settles⟩ := restarts.effect
      exact ⟨[], .none, .settles (.restart change) (fun _ => change.standing) settles⟩
  | invalidate standing dropped =>
      exact ⟨[], .none, .shrinks standing dropped fun other => Database.get_deleteFrom⟩
  | @replay checkpoint pending tables standing current unsettled revivable copy committed =>
      have owned := Database.identity_of_get current
      have storedIdentity : pending.identity = identity := by
        rcases copy with ⟨rfl, -⟩ | rfl <;> exact owned
      have sameStage : pending.stage = checkpoint.stage := by
        rcases copy with ⟨rfl, -⟩ | rfl <;> rfl
      refine ⟨[], .none, ?_⟩
      exact .settles (.replay standing current unsettled revivable copy)
        (fun _ => sameStage ▸ standing)
        (Reseeded.settles ⟨_, (Database.replaceFrom_ok committed).2⟩ storedIdentity)
  | @start stage fresh now base tables stored standing ready cleared committed =>
      obtain ⟨shape, event, -, stores⟩ := Database.markRunning_ok committed
      have sameStage : stored.stage = stage := by rw [shape]; rfl
      have owned : stored.identity = identity := by rw [shape]; rfl
      have change : Change env identity before.db
          [.started stage (before.db.get identity stage)] stored := by
        rw [shape]
        exact .start standing ready cleared
      refine ⟨_, rfl, ?_⟩
      split at cleared
      · rename_i pending
        obtain ⟨checkpoint, current, isPending⟩ := Option.map_eq_some_iff.1 pending
        subst cleared
        exact .updates change (sameStage ▸ current) (.inl (by simp [isPending]))
          (stores.updates owned)
      · refine .settles change (fun _ => sameStage ▸ standing) fun other => ?_
        rw [stores.get owned, sameStage, cleared, Database.get_deleteFrom]
  | invoke => exact ⟨_, rfl, .unchanged fun _ => rfl⟩
  | @complete checkpoint stored result now tables standing current running committed =>
      obtain ⟨shape, event, stores⟩ := Database.complete_ok committed
      have owned := Database.identity_of_get current
      have storedIdentity : stored.identity = identity := by simp [shape, owned]
      have sameStage : stored.stage = checkpoint.stage := by simp [shape]
      have change : Change env identity before.db [] stored := by
        rw [shape]
        exact .complete standing current running
      refine ⟨[], .none, ?_⟩
      exact .updates change (sameStage ▸ current) (.inl (by simp [running]))
        (stores.updates storedIdentity)
  | @fail checkpoint stored failure status now tables current settles committed =>
      obtain ⟨failing, shape, event, -, stores⟩ := Database.markFailure_ok committed
      refine ⟨[], .none, ?_⟩
      refine .edit current ?_ ?_ ?_ ?_ ?_ stores
      · rcases settles with running | succeeded <;> simp [*]
      · rcases settles with running | succeeded
        · exact .inl (by simp [running])
        · exact .inr succeeded.2.1
      · rw [shape]
        constructor <;> first | rfl | exact .inr rfl
      · rw [shape]
        rcases failing with rfl | rfl <;> exact ⟨by simp [StageCheckpoint.withFailure],
          by simp [StageCheckpoint.withFailure]⟩
      · intro closed
        rcases settles with running | succeeded
        · rcases closed with succeeded | refuted
          · rw [running] at succeeded
            cases succeeded
          · rcases refuted.1 with blocked | failed <;> simp_all
        · obtain ⟨-, -, member, notRetryable, -⟩ := succeeded
          rw [shape]
          exact .inr ⟨failing, notRetryable, failure.code, member, rfl⟩
  | @exhaust failed stored now tables current isFailed retryable committed =>
      obtain ⟨shape, event, -, stores⟩ := Database.markRecoveryExhausted_ok committed
      obtain ⟨notPending, -, notSucceeded⟩ := isFailed.unsettled
      refine ⟨[], .none, ?_⟩
      refine .edit current notPending (.inl notSucceeded) ?_ ?_ ?_ stores
      · rw [shape]
        constructor <;> first | rfl | exact .inr rfl
      · simp [shape]
      · intro closed
        rcases closed with succeeded | refuted
        · exact absurd succeeded notSucceeded
        · rw [refuted.2.1] at retryable
          cases retryable
  | @stop failed stored resolution now tables current isFailed committed =>
      obtain ⟨shape, recorded⟩ := Database.recordRecoveryStop_ok committed
      refine ⟨[], .none, ?_⟩
      refine Effect.decide current isFailed ?_ ?_ ?_ recorded
      · rw [shape]
        constructor <;> first | rfl | exact .inr rfl
      · rw [shape]
      · rw [shape]
        exact StageCheckpoint.Closed.abandoned
  | decide current isFailed committed =>
      refine ⟨[], .none, ?_⟩
      exact Effect.decide current isFailed (by constructor <;> first | rfl | exact .inr rfl) rfl id committed
  | @giveUp failed tables current isFailed committed =>
      obtain ⟨events, stores⟩ := Database.saveCheckpoint_ok committed
      obtain ⟨notPending, notRunning, notSucceeded⟩ := isFailed.unsettled
      refine ⟨[], .none, ?_⟩
      refine .edit current notPending (.inl notSucceeded) ?_ ?_
        StageCheckpoint.Closed.abandoned stores
      · constructor <;> first | rfl | exact .inr rfl
      · exact ⟨notPending, notRunning⟩
  | @promoteInitial blocked stored artifacts now tables owned committed =>
      obtain ⟨row, -, isBlocked, ⟨block, shape⟩, -, events, stores⟩ :=
        Database.promoteInitialEnvironmentInconclusive_ok committed
      have current : before.db.get identity blocked.stage = some blocked :=
        Database.get_eq_some.2 ⟨owned ▸ row, owned⟩
      refine ⟨[], .none, ?_⟩
      refine .edit current (by simp [isBlocked]) (.inl (by simp [isBlocked])) ?_ ?_ ?_ stores
      · rw [shape]
        constructor <;> first | rfl | exact .inr rfl
      · simp [shape]
      · rw [shape]
        exact fun _ => .inl rfl
  | @promotePoc exhausted stored artifacts now tables owned committed =>
      obtain ⟨row, isPoc, isBlocked, ⟨stop, shape⟩, -, events, stores⟩ :=
        Database.promoteInconclusiveExecution_ok committed
      have current : before.db.get identity exhausted.stage = some exhausted :=
        Database.get_eq_some.2 ⟨owned ▸ row, owned⟩
      refine ⟨[], .none, ?_⟩
      refine .edit current (by simp [isBlocked]) (.inl (by simp [isBlocked])) ?_ ?_ ?_ stores
      · rw [shape]
        constructor <;> first | rfl | exact .inl isPoc
      · simp [shape]
      · rw [shape]
        exact fun _ => .inl rfl
  | @repair candidate activityRefs now tables unconfigured current succeeded incomplete committed =>
      refine ⟨[], .none, ?_⟩
      exact .settles (.repair unconfigured current)
        (fun configured => absurd unconfigured configured)
        (Reseeded.settles ⟨_, (Database.replaceFrom_ok committed).2⟩ rfl)

/-! ## The invariant is kept -/

omit [Platform] in
theorem subset_eraseDups_append_left {left right : List StoredDataRef} :
    left ⊆ (left ++ right).eraseDups := by
  intro ref member
  simp [List.mem_eraseDups, member]

theorem stageInputs_contains {stage : SimpleStage} (frontier : Frontier db identity)
    {source : StageCheckpoint} (nearest : db.nearestSuccess identity stage = some source) :
    source.outputRefs ⊆
      stageInputs env db identity stage (db.get identity stage) := by
  have own : source.outputRefs ⊆ db.inputRefsFor identity stage := by
    unfold Database.inputRefsFor
    split
    · rename_i existing stored
      exact frontier.contained stage existing stored source nearest
    · simp [nearest]
  unfold stageInputs
  split
  · split
    · exact List.Subset.trans own subset_eraseDups_append_left
    · exact own
  · exact own

/-- A checkpoint that starts a new pass keeps the frontier's obligations. -/
theorem RestartChange.obligations (frontier : Frontier db identity) {stored : StageCheckpoint}
    (change : RestartChange env identity db stored) :
    Standing db identity stored.stage
      ∧ (stored.status ≠ .pending → stored.stageVersion = stored.stage.stageVersion)
      ∧ db.Contains identity stored.stage stored := by
  cases change with
  | recover configured standing current isFailed retryable restartStanding bounded
      restartStored =>
      refine ⟨restartStanding, fun _ => rfl, fun source nearest => ?_⟩
      refine List.Subset.trans (frontier.contained _ _ restartStored source nearest) ?_
      intro ref member
      simp [StageCheckpoint.recoverySeed, List.mem_eraseDups, member]
  | revise standing current stops bounded candidateStored =>
      refine ⟨frontier.standing _ _ candidateStored, fun _ => rfl, fun source nearest => ?_⟩
      refine List.Subset.trans (frontier.contained _ _ candidateStored source nearest) ?_
      intro ref member
      simp [Database.revisionSeed, List.mem_eraseDups, member]

/-- Every checkpoint a move stores keeps the frontier's obligations. -/
theorem Change.obligations (frontier : Frontier db identity) {stored : StageCheckpoint}
    {events : List TraceEvent} (change : Change env identity db events stored) :
    Standing db identity stored.stage
      ∧ (stored.status ≠ .pending → stored.stageVersion = stored.stage.stageVersion)
      ∧ db.Contains identity stored.stage stored := by
  cases change with
  | restart change => exact change.obligations frontier
  | edit current settled last same =>
      rw [same.stage]
      refine ⟨frontier.standing _ _ current, fun _ => ?_, fun source nearest => ?_⟩
      · rw [same.stageVersion]
        exact frontier.versions _ _ current settled
      · rw [same.inputRefs]
        exact frontier.contained _ _ current source nearest
  | @complete checkpoint result now standing current running =>
      rw [StageCheckpoint.completed_stage]
      refine ⟨frontier.standing _ _ current, fun _ => ?_, fun source nearest => ?_⟩
      · rw [StageCheckpoint.completed_stageVersion]
        exact frontier.versions _ _ current (by simp [running])
      · rw [StageCheckpoint.completed_inputRefs]
        exact frontier.contained _ _ current source nearest
  | @replay checkpoint _ standing current unsettled revivable copy =>
      have facts : stored.stage = checkpoint.stage ∧ stored.status = .pending
          ∧ stored.inputRefs = checkpoint.inputRefs := by
        rcases copy with ⟨rfl, -⟩ | rfl <;> exact ⟨rfl, rfl, rfl⟩
      rw [facts.1]
      refine ⟨frontier.standing _ _ current, fun notPending => absurd facts.2.1 notPending,
        fun source nearest => ?_⟩
      rw [facts.2.2]
      exact frontier.contained _ _ current source nearest
  | @start stage fresh now base standing startable cleared =>
      refine ⟨standing, fun _ => rfl, fun source nearest => ?_⟩
      exact List.Subset.trans (stageInputs_contains frontier nearest) subset_eraseDups_append_left
  | repair unconfigured current =>
      refine ⟨frontier.standing _ _ current, fun _ => rfl, fun source nearest => ?_⟩
      refine List.Subset.trans (frontier.contained _ _ current source nearest) ?_
      intro ref member
      simp [repairSeed, List.mem_eraseDups, member]

/-- The step lemma: every move keeps the frontier. -/
theorem Frontier.move {before after : Snapshot} (frontier : Frontier before.db identity)
    (move : Move env identity before after) : Frontier after.db identity := by
  obtain ⟨events, -, effect⟩ := move.effect
  cases effect with
  | unchanged same => exact frontier.congr same
  | shrinks _ _ shrinks => exact frontier.shrink shrinks
  | settles change _ settles =>
      obtain ⟨standing, version, contains⟩ := change.obligations frontier
      exact frontier.settle settles standing version contains
  | updates change current last updates =>
      obtain ⟨standing, version, contains⟩ := change.obligations frontier
      have settles := updates.settles fun other => frontier.none_above current last
      exact frontier.settle settles standing version contains

/-- The run lemma: every sequence of moves keeps the frontier. -/
theorem Frontier.moves {before after : Snapshot} (frontier : Frontier before.db identity)
    (moves : Moves env identity before after) : Frontier after.db identity := by
  induction moves with
  | refl => exact frontier
  | tail _ move ih => exact ih.move move

/-! ## Reachable states -/

/-- The only stored checkpoint of the hypothesis. -/
def OnlyStored (db : Database) (identity : CheckpointIdentity) (seed : StageCheckpoint) :
    Prop :=
  ∀ stage, db.get identity stage = if stage = seed.stage then some seed else none

/-- The worlds that calls of the runner reach from a pending first stage.  Each call has its own
configuration and surroundings, and may end by an exception or by the death of the process. -/
inductive Reachable (identity : CheckpointIdentity) : World → Prop where
  | seeded {world : World} {seed : StageCheckpoint}
      (isFirst : seed.stage = proConDone) (pending : seed.status = .pending)
      (only : OnlyStored world.db identity seed) : Reachable identity world
  | resumed {world : World} (env : RunnerEnv) (passes : Nat)
      (reached : Reachable identity world) :
      Reachable identity (resumeHypothesis env passes identity world).2

theorem Frontier.seeded {seed : StageCheckpoint} (isFirst : seed.stage = proConDone)
    (pending : seed.status = .pending) (only : OnlyStored db identity seed) :
    Frontier db identity := by
  have rows : ∀ stage checkpoint, db.get identity stage = some checkpoint →
      stage = proConDone ∧ checkpoint = seed := by
    intro stage checkpoint stored
    rw [only stage] at stored
    split at stored
    · cases stored
      exact ⟨‹stage = seed.stage›.trans isFirst, rfl⟩
    · cases stored
  constructor
  · intro stage checkpoint stored
    obtain ⟨rfl, -⟩ := rows stage checkpoint stored
    refine ⟨Nat.le_refl _, fun earlier hypothesisStage before => ?_, fun skipped => ?_⟩
    · exact absurd hypothesisStage (Nat.not_le.2 before)
    · exact absurd skipped.1 (by decide)
  · intro stage checkpoint stored notPending
    obtain ⟨-, rfl⟩ := rows stage checkpoint stored
    exact absurd pending notPending
  · intro stage checkpoint stored source nearest
    obtain ⟨rfl, -⟩ := rows stage checkpoint stored
    obtain ⟨item, member, found⟩ := List.exists_of_findSome?_eq_some nearest
    obtain ⟨stored, -⟩ := Option.filter_eq_some_iff.1 found
    obtain ⟨rfl, -⟩ := rows item source stored
    exact absurd member (by decide)

/-- A call of the runner keeps every invariant of moves. -/
theorem resumeHypothesis_moves (env : RunnerEnv) (passes : Nat) (world : World) :
    Moves env identity world.toSnapshot
      (resumeHypothesis env passes identity world).2.toSnapshot := by
  have spec : Prog.wp (resumeHypothesis env passes identity)
      (fun _ after => Moves env identity world.toSnapshot after.toSnapshot)
      (fun _ after => Moves env identity world.toSnapshot after.toSnapshot) world :=
    Prog.wp_mono (spec_resumeHypothesis world rfl) (fun _ _ returned => returned.1)
      (fun _ _ left => left)
  exact Prog.final_of_wp spec

/-- The run lemma over calls: every reachable world has a frontier. -/
theorem Reachable.frontier {world : World} (reached : Reachable identity world) :
    Frontier world.db identity := by
  induction reached with
  | seeded isFirst pending only => exact .seeded isFirst pending only
  | resumed env passes _ ih => exact ih.moves (resumeHypothesis_moves env passes _)

/-! ## No stale downstream result -/

/-- Only the last stored stage may be unfinished, and every stored stage after the first one
was given all outputs of the nearest earlier success. -/
structure NoStaleResult (db : Database) (identity : CheckpointIdentity) : Prop where
  earlierSucceeded : ∀ stage later : SimpleStage, ∀ checkpoint other : StageCheckpoint,
    db.get identity stage = some checkpoint → db.get identity later = some other →
    stage.index < later.index → checkpoint.status = .succeeded
  outputsIncluded : ∀ stage : SimpleStage, ∀ checkpoint source : StageCheckpoint,
    db.get identity stage = some checkpoint → proConDone.index < stage.index →
    db.nearestSuccess identity stage = some source → source.outputRefs ⊆ checkpoint.inputRefs

/-- No call, crash or cancellation leaves a stored stage on a stale result. -/
theorem no_stale_result {world : World} (reached : Reachable identity world) :
    NoStaleResult world.db identity := by
  have frontier := reached.frontier
  constructor
  · intro stage later checkpoint other stored above before
    exact (frontier.passed stored above before).1
  · intro stage checkpoint source stored _ nearest
    exact frontier.contained stage checkpoint stored source nearest

end Sastsimi.Runtime

/-! ## A concrete runtime -/

namespace Sastsimi.Runtime.Concrete

open SimpleStage Lib

/-- Digests that spell out what tells two public events apart. -/
scoped instance : Platform where
  sha256 preimage :=
    match preimage with
    | .inputRefs _ => "input"
    | .recoveryLineage .. => "lineage"
    | .activityEvent key => "event:" ++ ":".intercalate key
  sha256_ne_empty preimage := by
    cases preimage <;> simp
  safeProviderText _ := true

/-- One hypothesis of one analysis. -/
def hypothesis : CheckpointIdentity := ⟨"analysis", "workspace", "commit", some "hypothesis"⟩

/-- A stored artifact of the hypothesis. -/
def artifact (name : String) : StoredDataRef :=
  ⟨name, "artifact", name, "workspace", "commit", none⟩

/-- The pending first stage that registration seeds. -/
def registered : StageCheckpoint :=
  { identity := hypothesis
    stage := proConDone
    status := .pending
    inputRefs := [artifact "proposal", artifact "context"]
    inputHash := "input"
    updatedAt := 0
    inputHashExact := rfl }

/-- The tables right after registration. -/
def registration : World :=
  { db := Database.upsertCheckpoint ⟨fun _ => none, [], Database.no_rows⟩ registered }

/-- A runner whose process never dies and whose Codex ledger is empty. -/
def runner (handlers : SimpleStage → Option SimpleStageHandler)
    (recovery : Option (Nat → StageCheckpoint → StageFailure → Option RecoveryResolution)) :
    RunnerEnv where
  handlers := handlers
  recovery := recovery
  policySnapshotRef := none
  codexInvalidOutputResume := false
  redactedAnchorResume := false
  cleanupArtifacts := none
  offlineBaseReady := none
  uuid4 := toString
  now := id
  dies _ := false
  unresolvedCodexCall _ := .ok none
  hasCodexCleanupConfirmation _ _ := .ok false
  confirmedCodexCallCovering _ _ := .ok false
  historyUnreadable _ := false

/-- A handler that always succeeds with one artifact. -/
def succeeding (name : String) : SimpleStageHandler := fun _ _ _ =>
  .result { outputRefs := [artifact name] }

/-- Pro and con evidence is found, and the initial verification is cancelled. -/
def cancelledRun : RunnerEnv :=
  runner (fun stage =>
    if stage = proConDone then some (succeeding "evidence")
    else if stage = verificationInitialDone then some fun _ _ _ => .cancelled
    else none) none

theorem registration_reachable : Reachable hypothesis registration := by
  have only : OnlyStored registration.db hypothesis registered := by
    intro stage
    cases stage <;> rfl
  exact .seeded rfl rfl only

/-- The cancelled stage is stored last, on the evidence it was given. -/
theorem no_stale_result_after_cancellation :
    NoStaleResult (resumeHypothesis cancelledRun 2 hypothesis registration).2.db hypothesis :=
  no_stale_result (.resumed cancelledRun 2 registration_reachable)

end Sastsimi.Runtime.Concrete
