import Sastsimi.Runtime.Runner
import Sastsimi.Runtime.StoreSpec

/-!
# The moves of the runner

Seen from outside, a run of the stage runner is a sequence of atomic moves on the tables of one
hypothesis.  A move is one store transaction together with everything the loop has checked
before it commits it: how far the pass has walked and what was stored at the stage.

Invariants of runs are proved over moves; that every call of the runner is a sequence of
moves is proved in `Sastsimi.Runtime.Refinement`.
-/

namespace Sastsimi.Runtime

open SimpleStage

variable [Platform]

/-! ## How far a pass has walked -/

/-- A stored final `HOLD` makes the loop skip the stage. -/
def HoldSkipped (db : Database) (identity : CheckpointIdentity) (stage : SimpleStage) : Prop :=
  stage ∈ holdSkips ∧ ∃ final, db.get identity verificationFinalDone = some final
    ∧ final.status = .succeeded ∧ final.verdict = some .hold

/-- A success at which the loop returns or turns back. -/
def StageCheckpoint.Stops (checkpoint : StageCheckpoint) : Prop :=
  terminalInitialOutcome (some checkpoint) ≠ none
    ∨ terminalPocOutcome (some checkpoint) ≠ none
    ∨ checkpoint.pocStopDecisionRef ≠ none
    ∨ checkpoint.stage = verificationFinalDone ∧ checkpoint.verdict = some .isFalse
    ∨ terminalGateOutcome (some checkpoint) ≠ none
    ∨ checkpoint.stage = techGateDone ∧ checkpoint.gateDecision = some .revise

/-- A success whose terminal outcome rests on stored evidence. -/
def StageCheckpoint.RestsOnEvidence (checkpoint : StageCheckpoint) : Prop :=
  terminalInitialOutcome (some checkpoint) ≠ none
    ∨ terminalPocOutcome (some checkpoint) ≠ none
    ∨ checkpoint.pocStopDecisionRef ≠ none

theorem StageCheckpoint.RestsOnEvidence.stops {checkpoint : StageCheckpoint}
    (rests : checkpoint.RestsOnEvidence) : checkpoint.Stops := by
  rcases rests with initial | poc | stop
  · exact .inl initial
  · exact .inr (.inl poc)
  · exact .inr (.inr (.inl stop))

/-- The stage holds a current success that the loop walks past. -/
def Passed (db : Database) (identity : CheckpointIdentity) (stage : SimpleStage) : Prop :=
  ∃ checkpoint, db.get identity stage = some checkpoint
    ∧ checkpoint.status = .succeeded
    ∧ checkpoint.stageVersion = stage.stageVersion
    ∧ ¬ checkpoint.Stops

/-- The loop walks past every stage of the hypothesis before this position. -/
def Walked (db : Database) (identity : CheckpointIdentity) (position : Nat) : Prop :=
  ∀ earlier : SimpleStage, proConDone.index ≤ earlier.index → earlier.index < position →
    HoldSkipped db identity earlier ∨ Passed db identity earlier

/-- The loop stands at a stage: it walked past the earlier ones and does not skip this one. -/
structure Standing (db : Database) (identity : CheckpointIdentity) (stage : SimpleStage) :
    Prop where
  hypothesisStage : proConDone.index ≤ stage.index
  walked : Walked db identity stage.index
  kept : ¬ HoldSkipped db identity stage

/-! ## Moves -/

section Moves

variable (env : RunnerEnv) (identity : CheckpointIdentity)

/-- A failed checkpoint. -/
def StageCheckpoint.Failed (checkpoint : StageCheckpoint) : Prop :=
  checkpoint.status = .blocked ∨ checkpoint.status = .failed

/-- The errors that replace a terminal success whose evidence does not hold. -/
def evidenceErrors : List String :=
  ["INITIAL_VERIFICATION_EVIDENCE_INVALID", "POC_STOP_EVIDENCE_INVALID",
    "POC_TERMINAL_EVIDENCE_INVALID"]

/-- A terminal success whose evidence did not hold; nothing revives it. -/
def StageCheckpoint.Refuted (checkpoint : StageCheckpoint) : Prop :=
  checkpoint.Failed ∧ checkpoint.retryable = false
    ∧ ∃ code ∈ evidenceErrors, checkpoint.errorCode = some code

/-- No further attempt of the stage follows. -/
def StageCheckpoint.Closed (checkpoint : StageCheckpoint) : Prop :=
  checkpoint.status = .succeeded ∨ checkpoint.Refuted

instance (checkpoint : StageCheckpoint) : Decidable checkpoint.Failed :=
  inferInstanceAs (Decidable (_ ∨ _))

instance (checkpoint : StageCheckpoint) : Decidable checkpoint.Refuted :=
  inferInstanceAs (Decidable (_ ∧ _ ∧ _))

instance (checkpoint : StageCheckpoint) : Decidable checkpoint.Closed :=
  inferInstanceAs (Decidable (_ ∨ _))

theorem StageCheckpoint.not_refuted {checkpoint : StageCheckpoint} {code : String}
    (known : checkpoint.errorCode = some code) (other : code ∉ evidenceErrors) :
    ¬ checkpoint.Refuted := by
  intro refuted
  obtain ⟨-, -, evidence, member, found⟩ := refuted
  rw [known] at found
  cases found
  exact other member

/-- The last checkpoint before a stage. -/
def Database.preceding (db : Database) (identity : CheckpointIdentity) (stage : SimpleStage) :
    Option StageCheckpoint :=
  (db.prior identity stage).getLast?.map (·.2)

/-- The two transactions after which the loop starts a new pass. -/
inductive Restart : Database → Database → Prop where
  | recover {db after : Database} {failed stored : StageCheckpoint}
      {resolution : RecoveryResolution} {restartStage : SimpleStage} {now : Nat}
      (configured : env.recovery ≠ none)
      (standing : Standing db identity failed.stage)
      (current : db.get identity failed.stage = some failed)
      (retryable : failed.retryable = true)
      (bounded : failed.attemptNumber < maxRecoveryAttempts)
      (target : recoveryRestartStage failed.stage resolution.action = some restartStage)
      (committed : db.prepareRecovery failed resolution restartStage now =
        .ok (stored, after)) :
      Restart db after
  | revise {db after : Database} {gate stored : StageCheckpoint} {now : Nat}
      (standing : Standing db identity techGateDone)
      (current : db.get identity techGateDone = some gate)
      (committed : db.prepareGateRevision gate now = .ok (stored, after)) :
      Restart db after

/-- One atomic move of the runner. -/
inductive Move : Snapshot → Snapshot → Prop where
  | restart {before : Snapshot} {after : Database}
      (restarts : Restart env identity before.db after) :
      Move before { before with db := after }
  | invalidate {before : Snapshot} {stage : SimpleStage}
      (standing : Standing before.db identity stage)
      (dropped : ∀ checkpoint, before.db.get identity stage = some checkpoint →
        checkpoint.stageVersion ≠ stage.stageVersion
          ∨ env.recovery = none ∧ checkpoint.status ≠ .pending
            ∧ checkpoint.status ≠ .succeeded) :
      Move before { before with db := before.db.deleteFrom identity stage }
  | replay {before : Snapshot} {checkpoint pending : StageCheckpoint} {after : Database}
      (standing : Standing before.db identity checkpoint.stage)
      (current : before.db.get identity checkpoint.stage = some checkpoint)
      (unsettled : checkpoint.status ≠ .pending ∧ checkpoint.status ≠ .succeeded)
      (revivable : ¬ checkpoint.Refuted)
      (copy : pending = checkpoint.forReplay
          ∧ checkpoint.stageVersion = checkpoint.stage.stageVersion
        ∨ pending = checkpoint.forUpgrade)
      (committed : before.db.replaceFrom pending = .ok after) :
      Move before { before with db := after }
  | start {before : Snapshot} {stage : SimpleStage} {fresh : String} {now : Nat}
      {base after : Database} {stored : StageCheckpoint}
      (standing : Standing before.db identity stage)
      (ready : ∀ checkpoint, before.db.get identity stage = some checkpoint →
        checkpoint.status = .pending
          ∨ env.recovery = none ∧ checkpoint.status ≠ .succeeded)
      (cleared : base =
        if (before.db.get identity stage).map (·.status) = some .pending then before.db
        else before.db.deleteFrom identity stage)
      (committed : base.markRunning identity stage
          (stageInputs env before.db identity stage (before.db.get identity stage))
          (selectAttemptId stage (before.db.get identity stage)
            (before.db.preceding identity stage) fresh)
          (inheritSource (before.db.get identity stage)
            (before.db.preceding identity stage)) now =
        .ok (stored, after)) :
      Move before
        { db := after
          trace := before.trace ++ [.started stage (before.db.get identity stage)] }
  | invoke {before : Snapshot} {checkpoint : StageCheckpoint}
      (current : before.db.get identity checkpoint.stage = some checkpoint)
      (running : checkpoint.status = .running) :
      Move before { before with trace := before.trace ++ [.invoked checkpoint.stage] }
  | complete {before : Snapshot} {checkpoint stored : StageCheckpoint} {result : StageResult}
      {now : Nat} {after : Database}
      (standing : Standing before.db identity checkpoint.stage)
      (current : before.db.get identity checkpoint.stage = some checkpoint)
      (running : checkpoint.status = .running)
      (committed : before.db.complete checkpoint result now = .ok (stored, after)) :
      Move before { before with db := after }
  | fail {before : Snapshot} {checkpoint stored : StageCheckpoint} {failure : StageFailure}
      {status : StageStatus} {now : Nat} {after : Database}
      (current : before.db.get identity checkpoint.stage = some checkpoint)
      (settles : checkpoint.status = .running
        ∨ checkpoint.status = .succeeded ∧ checkpoint.Stops
          ∧ failure.code ∈ evidenceErrors ∧ failure.retryable = false
          ∧ checkpoint.RestsOnEvidence)
      (committed : before.db.markFailure checkpoint failure status now =
        .ok (stored, after)) :
      Move before { before with db := after }
  | exhaust {before : Snapshot} {failed stored : StageCheckpoint} {now : Nat}
      {after : Database}
      (current : before.db.get identity failed.stage = some failed)
      (isFailed : failed.Failed)
      (retryable : failed.retryable = true)
      (committed : before.db.markRecoveryExhausted failed now = .ok (stored, after)) :
      Move before { before with db := after }
  | stop {before : Snapshot} {failed stored : StageCheckpoint}
      {resolution : RecoveryResolution} {now : Nat} {after : Database}
      (current : before.db.get identity failed.stage = some failed)
      (isFailed : failed.Failed)
      (committed : before.db.recordRecoveryStop failed resolution now =
        .ok (stored, after)) :
      Move before { before with db := after }
  | decide {before : Snapshot} {failed : StageCheckpoint}
      {resolution : RecoveryResolution} {after : Database}
      (current : before.db.get identity failed.stage = some failed)
      (isFailed : failed.Failed)
      (committed : before.db.recordRecoveryDecision failed resolution = .ok after) :
      Move before { before with db := after }
  | giveUp {before : Snapshot} {failed : StageCheckpoint} {after : Database}
      (current : before.db.get identity failed.stage = some failed)
      (isFailed : failed.Failed)
      (committed : before.db.saveCheckpoint { failed with retryable := false } = .ok after) :
      Move before { before with db := after }
  | promoteInitial {before : Snapshot} {blocked stored : StageCheckpoint}
      {artifacts : SimpleArtifactRepository} {now : Nat} {after : Database}
      (owned : blocked.identity = identity)
      (committed : before.db.promoteInitialEnvironmentInconclusive blocked artifacts now =
        .ok (stored, after)) :
      Move before { before with db := after }
  | promotePoc {before : Snapshot} {exhausted stored : StageCheckpoint}
      {artifacts : SimpleArtifactRepository} {now : Nat} {after : Database}
      (owned : exhausted.identity = identity)
      (committed : before.db.promoteInconclusiveExecution exhausted artifacts now =
        .ok (stored, after)) :
      Move before { before with db := after }
  | repair {before : Snapshot} {candidate : StageCheckpoint}
      {activityRefs : List StoredDataRef} {now : Nat} {after : Database}
      (unconfigured : env.recovery = none)
      (current : before.db.get identity pocCandidateDone = some candidate)
      (succeeded : candidate.status = .succeeded)
      (incomplete : ∀ execution, before.db.get identity pocExecutionDone = some execution →
        execution.status ≠ .succeeded)
      (committed : before.db.replaceFrom
          (repairSeed identity candidate (before.db.get identity pocExecutionDone)
            activityRefs now) =
        .ok after) :
      Move before { before with db := after }

/-- A sequence of moves. -/
abbrev Moves : Snapshot → Snapshot → Prop := Relation.ReflTransGen (Move env identity)

/-- A sequence of moves whose last one starts a new pass. -/
def Restarted (before after : Snapshot) : Prop :=
  ∃ last : Snapshot, Moves env identity before last
    ∧ Restart env identity last.db after.db ∧ last.trace = after.trace

theorem Restarted.moves {before after : Snapshot}
    (restarted : Restarted env identity before after) : Moves env identity before after := by
  obtain ⟨last, moves, restarts, same⟩ := restarted
  have move : Move env identity last { last with db := after.db } := .restart restarts
  rw [same] at move
  exact moves.tail move

end Moves

/-- The number of handler invocations in a trace. -/
def invocations (trace : List TraceEvent) : Nat :=
  trace.countP fun event =>
    match event with
    | .invoked _ => true
    | .started _ _ => false

@[simp] theorem invocations_started (trace : List TraceEvent) (stage : SimpleStage)
    (existing : Option StageCheckpoint) :
    invocations (trace ++ [.started stage existing]) = invocations trace := by
  simp [invocations]

@[simp] theorem invocations_invoked (trace : List TraceEvent) (stage : SimpleStage) :
    invocations (trace ++ [.invoked stage]) = invocations trace + 1 := by
  simp [invocations]

end Sastsimi.Runtime
