import Sastsimi.Runtime.Frontier

/-!
# Runs stay within their hypothesis

A call of the runner writes only the rows of its own hypothesis, each with the identity of the
hypothesis, and every checkpoint it stores has the current version of its stage.  Calls on
other hypotheses therefore leave the frontier of this one alone.
-/

namespace Sastsimi.Runtime

open SimpleStage Lib

variable [Platform] {env : RunnerEnv} {identity : CheckpointIdentity}
  {db between after : Database}

/-! ## Rows of other keys -/

/-- A key of the rows of an identity. -/
def CheckpointIdentity.Owns (identity : CheckpointIdentity) (key : CheckpointKey) : Prop :=
  key.analysisId = identity.analysisId ∧ key.hypothesisKey = hypothesisKey identity

/-- Only rows of the identity changed, and they hold its own checkpoints. -/
structure Confined (identity : CheckpointIdentity) (before after : Database) : Prop where
  elsewhere : ∀ key, ¬ identity.Owns key → after.checkpoints key = before.checkpoints key
  within : ∀ key checkpoint, identity.Owns key → after.checkpoints key = some checkpoint →
    checkpoint.identity = identity ∨ before.checkpoints key = some checkpoint

theorem Confined.refl : Confined identity db db :=
  ⟨fun _ _ => rfl, fun _ _ _ found => .inr found⟩

theorem Confined.trans (first : Confined identity db between)
    (second : Confined identity between after) : Confined identity db after := by
  constructor
  · intro key other
    exact (second.elsewhere key other).trans (first.elsewhere key other)
  · intro key checkpoint owns found
    rcases second.within key checkpoint owns found with own | earlier
    · exact .inl own
    · exact first.within key checkpoint owns earlier

theorem Confined.activity {activity : List AgentActivityEvent}
    (confined : Confined identity db after) :
    Confined identity db { after with activity } :=
  ⟨confined.elsewhere, confined.within⟩

theorem Confined.deleteFrom {stage : SimpleStage} :
    Confined identity db (db.deleteFrom identity stage) := by
  constructor
  · intro key other
    have outside : ¬ (key.analysisId = identity.analysisId
        ∧ key.hypothesisKey = hypothesisKey identity ∧ stage.index ≤ key.stage.index) :=
      fun inside => other ⟨inside.1, inside.2.1⟩
    exact if_neg outside
  · intro key checkpoint owns found
    right
    simp only [Database.deleteFrom] at found
    split at found
    · cases found
    · exact found

theorem Confined.upsert {checkpoint : StageCheckpoint}
    (owned : checkpoint.identity = identity) :
    Confined identity db (db.upsertCheckpoint checkpoint) := by
  constructor
  · intro key other
    have different : key ≠ checkpoint.identity.key checkpoint.stage := by
      intro same
      rw [same, owned] at other
      exact other ⟨rfl, rfl⟩
    simp only [Database.upsertCheckpoint, Function.update_apply, if_neg different]
  · intro key stored owns found
    simp only [Database.upsertCheckpoint, Function.update_apply] at found
    split at found
    · cases found
      exact .inl owned
    · exact .inr found

theorem Stored.confined {checkpoint : StageCheckpoint} {events : List AgentActivityEvent}
    (stores : Stored db checkpoint events after) (owned : checkpoint.identity = identity) :
    Confined identity db after := by
  obtain ⟨activity, -, rfl⟩ := stores
  exact (Confined.upsert owned).activity

theorem Reseeded.confined {checkpoint : StageCheckpoint}
    (reseeds : Reseeded db checkpoint after) (owned : checkpoint.identity = identity) :
    Confined identity db after := by
  obtain ⟨activity, rfl⟩ := reseeds
  rw [owned]
  exact (Confined.deleteFrom.trans (Confined.upsert owned)).activity

theorem Restart.confined (restarts : Restart env identity db after) :
    Confined identity db after := by
  cases restarts with
  | recover configured standing current retryable bounded target committed =>
      have owned := Database.identity_of_get current
      obtain ⟨-, -, -, shape, event, activity, -, -, tables⟩ :=
        Database.prepareRecovery_ok committed
      rw [owned] at tables
      rw [tables]
      have stored : _ = identity := (congrArg StageCheckpoint.identity shape).trans owned
      exact (Confined.deleteFrom.trans (Confined.upsert stored)).activity
  | revise standing current committed =>
      have owned := Database.identity_of_get current
      obtain ⟨-, -, candidate, execution, -, -, -, -, shape, tables⟩ :=
        Database.prepareGateRevision_ok committed (owned.symm ▸ current)
      rw [owned] at tables
      rw [tables]
      have stored : _ = identity := (congrArg StageCheckpoint.identity shape).trans owned
      exact Confined.deleteFrom.trans (Confined.upsert stored)

/-- Every move is confined to its hypothesis. -/
theorem Move.confined {before after : Snapshot} (move : Move env identity before after) :
    Confined identity before.db after.db := by
  cases move with
  | restart restarts => exact restarts.confined
  | invalidate => exact .deleteFrom
  | replay standing current unsettled revivable copy committed =>
      have owned := Database.identity_of_get current
      have stored : Reseeded before.db _ _ := ⟨_, (Database.replaceFrom_ok committed).2⟩
      rcases copy with ⟨rfl, -⟩ | rfl <;> exact stored.confined owned
  | start standing ready cleared committed =>
      obtain ⟨shape, event, -, stores⟩ := Database.markRunning_ok committed
      have stored := stores.confined (congrArg StageCheckpoint.identity shape)
      split at cleared
      · subst cleared
        exact stored
      · subst cleared
        exact Confined.deleteFrom.trans stored
  | invoke => exact .refl
  | complete standing current running committed =>
      have owned := Database.identity_of_get current
      obtain ⟨shape, event, stores⟩ := Database.complete_ok committed
      apply stores.confined
      rw [shape, StageCheckpoint.completed_identity]
      exact owned
  | fail current settles committed =>
      have owned := Database.identity_of_get current
      obtain ⟨-, shape, event, -, stores⟩ := Database.markFailure_ok committed
      exact stores.confined ((congrArg StageCheckpoint.identity shape).trans owned)
  | exhaust current isFailed retryable committed =>
      have owned := Database.identity_of_get current
      obtain ⟨shape, event, -, stores⟩ := Database.markRecoveryExhausted_ok committed
      exact stores.confined ((congrArg StageCheckpoint.identity shape).trans owned)
  | stop current isFailed committed =>
      have owned := Database.identity_of_get current
      obtain ⟨shape, recorded⟩ := Database.recordRecoveryStop_ok committed
      obtain ⟨event, activity, -, -, tables⟩ := Database.recordRecoveryDecision_ok recorded
      rw [tables]
      exact (Confined.upsert ((congrArg StageCheckpoint.identity shape).trans owned)).activity
  | decide current isFailed committed =>
      obtain ⟨event, activity, -, -, tables⟩ := Database.recordRecoveryDecision_ok committed
      rw [tables]
      exact (Confined.upsert (Database.identity_of_get current)).activity
  | giveUp current isFailed committed =>
      obtain ⟨events, stores⟩ := Database.saveCheckpoint_ok committed
      have owned := Database.identity_of_get current
      exact stores.confined owned
  | promoteInitial owned committed =>
      obtain ⟨-, -, -, ⟨block, shape⟩, -, events, stores⟩ :=
        Database.promoteInitialEnvironmentInconclusive_ok committed
      exact stores.confined ((congrArg StageCheckpoint.identity shape).trans owned)
  | promotePoc owned committed =>
      obtain ⟨-, -, -, ⟨stop, shape⟩, -, events, stores⟩ :=
        Database.promoteInconclusiveExecution_ok committed
      exact stores.confined ((congrArg StageCheckpoint.identity shape).trans owned)
  | repair unconfigured current succeeded incomplete committed =>
      have stored : Reseeded before.db _ _ := ⟨_, (Database.replaceFrom_ok committed).2⟩
      exact stored.confined rfl

theorem Moves.confined {before after : Snapshot} (moves : Moves env identity before after) :
    Confined identity before.db after.db := by
  induction moves with
  | refl => exact .refl
  | tail _ move ih => exact ih.trans move.confined

/-! ## Stage versions and stop decisions -/

/-- A checkpoint has the current version of its stage, and an attempt carries a PoC stop
decision only at the PoC execution. -/
structure StageCheckpoint.Tidy (checkpoint : StageCheckpoint) : Prop where
  version : checkpoint.stageVersion = checkpoint.stage.stageVersion
  stopDecision : checkpoint.status ≠ .pending → checkpoint.stage = pocExecutionDone
    ∨ checkpoint.pocStopDecisionRef = none

/-- Every stored checkpoint of the hypothesis is tidy. -/
def Tidy (db : Database) (identity : CheckpointIdentity) : Prop :=
  ∀ stage checkpoint, db.get identity stage = some checkpoint → checkpoint.Tidy

theorem Change.tidy {stored : StageCheckpoint} {events : List TraceEvent}
    (tidy : Tidy db identity) (change : Change env identity db events stored) :
    stored.Tidy := by
  cases change with
  | restart change => cases change <;> exact ⟨rfl, fun notPending => absurd rfl notPending⟩
  | edit current settled unpassed same =>
      have before := tidy _ _ current
      constructor
      · rw [same.stageVersion, same.stage]
        exact before.version
      · intro _
        rcases same.stopDecision with isPoc | kept
        · exact .inl isPoc
        · rw [kept, same.stage]
          exact before.stopDecision settled
  | complete standing current running =>
      have before := tidy _ _ current
      constructor
      · rw [StageCheckpoint.completed_stageVersion, StageCheckpoint.completed_stage]
        exact before.version
      · intro _
        rw [StageCheckpoint.completed_stage, StageCheckpoint.completed_pocStopDecisionRef]
        exact before.stopDecision (by simp [running])
  | replay standing current unsettled revivable copy =>
      rcases copy with ⟨rfl, version⟩ | rfl
      · exact ⟨version, fun notPending => absurd rfl notPending⟩
      · exact ⟨rfl, fun notPending => absurd rfl notPending⟩
  | start => exact ⟨rfl, fun _ => .inr rfl⟩
  | repair => exact ⟨rfl, fun notPending => absurd rfl notPending⟩

/-- Every move keeps the checkpoints tidy. -/
theorem Tidy.move {before after : Snapshot} (frontier : Frontier before.db identity)
    (tidy : Tidy before.db identity) (move : Move env identity before after) :
    Tidy after.db identity := by
  have settled : ∀ {stored : StageCheckpoint} {events : List TraceEvent},
      Change env identity before.db events stored →
      Settles before.db after.db identity stored → Tidy after.db identity := by
    intro stored events change settles stage checkpoint found
    rw [settles] at found
    split at found
    · cases found
      exact change.tidy tidy
    · split at found
      · cases found
      · exact tidy stage checkpoint found
  obtain ⟨events, -, effect⟩ := move.effect
  cases effect with
  | unchanged same =>
      intro stage checkpoint found
      rw [same] at found
      exact tidy stage checkpoint found
  | shrinks _ _ shrinks =>
      intro stage checkpoint found
      rw [shrinks] at found
      split at found
      · cases found
      · exact tidy stage checkpoint found
  | settles change _ settles => exact settled change settles
  | updates change current unpassed updates =>
      exact settled change (updates.settles fun other => frontier.none_above current unpassed)

theorem Tidy.moves {before after : Snapshot} (frontier : Frontier before.db identity)
    (tidy : Tidy before.db identity) (moves : Moves env identity before after) :
    Tidy after.db identity := by
  induction moves with
  | refl => exact tidy
  | tail earlier move ih => exact ih.move (frontier.moves earlier) move

end Sastsimi.Runtime
