import Sastsimi.Runtime.Store

/-!
# What each store operation does

One inversion theorem for each transaction of the checkpoint store: when it commits, which
checkpoint it stores, what it deletes and which events it appends.  Later developments use
these and do not unfold the operations.
-/

namespace Sastsimi.Runtime

open SimpleStage Lib

variable [Platform]

/-! ## Reading -/

section Reading

variable {db : Database} {identity : CheckpointIdentity} {stage other : SimpleStage}
  {checkpoint : StageCheckpoint}

theorem Database.get_eq_some :
    db.get identity stage = some checkpoint ↔
      db.checkpoints (identity.key stage) = some checkpoint
        ∧ checkpoint.identity = identity := by
  unfold Database.get
  split
  · simp_all
  · split
    · simp only [Option.some.injEq, reduceCtorEq, false_iff, not_and, *]
      rintro rfl
      assumption
    · simp only [Option.some.injEq, *]
      constructor
      · rintro rfl
        exact ⟨rfl, not_not.1 ‹_›⟩
      · exact And.left

/-- A stored row carries the stage and the identity it was read under. -/
theorem Database.stage_of_get (stored : db.get identity stage = some checkpoint) :
    checkpoint.stage = stage := by
  obtain ⟨row, _⟩ := Database.get_eq_some.1 stored
  have keyed := db.keyed _ _ row
  simp only [CheckpointIdentity.key, CheckpointKey.mk.injEq] at keyed
  exact keyed.2.2

theorem Database.identity_of_get (stored : db.get identity stage = some checkpoint) :
    checkpoint.identity = identity :=
  (Database.get_eq_some.1 stored).2

omit [Platform] in
@[simp] theorem CheckpointIdentity.key_inj :
    identity.key stage = identity.key other ↔ stage = other := by
  simp [CheckpointIdentity.key]

@[simp] theorem Database.get_withActivity (activity : List AgentActivityEvent) :
    ({ db with activity } : Database).get identity stage = db.get identity stage :=
  rfl

theorem Database.get_upsertCheckpoint (owned : checkpoint.identity = identity) :
    (db.upsertCheckpoint checkpoint).get identity stage =
      if stage = checkpoint.stage then some checkpoint else db.get identity stage := by
  subst owned
  unfold Database.get Database.upsertCheckpoint
  simp only [Function.update_apply, CheckpointIdentity.key_inj]
  by_cases same : stage = checkpoint.stage <;> simp [same]

@[simp] theorem Database.get_deleteFrom :
    (db.deleteFrom identity stage).get identity other =
      if stage.index ≤ other.index then none else db.get identity other := by
  unfold Database.get Database.deleteFrom
  by_cases later : stage.index ≤ other.index <;> simp [CheckpointIdentity.key, later]

/-- A stored checkpoint is reusable on its own inputs exactly when it succeeded at the current
stage version. -/
theorem Database.reusable_own_inputs (stored : db.get identity stage = some checkpoint) :
    db.reusable identity stage checkpoint.inputRefs = true ↔
      checkpoint.status = .succeeded ∧ checkpoint.stageVersion = stage.stageVersion := by
  simp [Database.reusable, stored, checkpoint.inputHashExact]

theorem Database.inputRefsFor_of_get (stored : db.get identity stage = some checkpoint) :
    db.inputRefsFor identity stage = checkpoint.inputRefs := by
  simp [Database.inputRefsFor, stored]

end Reading

/-! ## Writing -/

section Writing

variable {db after : Database} {checkpoint stored : StageCheckpoint}
  {identity : CheckpointIdentity} {stage : SimpleStage} {now : Nat}

/-- The tables after one checkpoint was stored with new activity. -/
def Stored (db : Database) (checkpoint : StageCheckpoint)
    (events : List AgentActivityEvent) (after : Database) : Prop :=
  ∃ activity, appendEvents db.activity events = .ok activity
    ∧ after = { db.upsertCheckpoint checkpoint with activity }

theorem Database.write_ok {events : List AgentActivityEvent}
    (committed : db.write checkpoint events = .ok after) :
    Stored db checkpoint events after := by
  unfold Database.write at committed
  cases appended : appendEvents db.activity events with
  | error reason => simp [appended, bind, Except.bind] at committed
  | ok activity =>
      refine ⟨activity, appended, ?_⟩
      simpa [appended, bind, Except.bind, pure, Except.pure, eq_comm] using committed

theorem Stored.get {events : List AgentActivityEvent}
    (stores : Stored db checkpoint events after) (owned : checkpoint.identity = identity) :
    after.get identity stage =
      if stage = checkpoint.stage then some checkpoint else db.get identity stage := by
  obtain ⟨activity, -, rfl⟩ := stores
  rw [Database.get_withActivity, Database.get_upsertCheckpoint owned]

theorem Database.saveCheckpoint_ok (committed : db.saveCheckpoint checkpoint = .ok after) :
    ∃ events, Stored db checkpoint events after := by
  unfold Database.saveCheckpoint at committed
  split at committed
  · obtain ⟨event, -, written⟩ := except_bind_ok committed
    exact ⟨_, Database.write_ok written⟩
  · split at committed
    · obtain ⟨event, -, written⟩ := except_bind_ok committed
      exact ⟨_, Database.write_ok written⟩
    · exact ⟨_, Database.write_ok committed⟩

omit [Platform] in
/-- An appended event is stored already, or is the last one of the log. -/
theorem appendEvent_ok {activity appended : List AgentActivityEvent} {event : AgentActivityEvent}
    (appends : appendEvent activity event = .ok appended) :
    appended = activity ∧ event ∈ activity ∨ appended = activity ++ [event] := by
  unfold appendEvent at appends
  split at appends
  · rename_i current found
    split at appends
    · rename_i same
      cases appends
      exact .inl ⟨rfl, same ▸ List.mem_of_find?_eq_some found⟩
    · cases appends
  · split at appends
    · cases appends
    · cases appends
      exact .inr rfl

theorem lifecycleEvent_ok {kind : ActivityKind} {sequence : Nat} {status : StageStatus}
    {summaryKo : String} {outputRefs : List StoredDataRef} {errorCode : Option String}
    {event : AgentActivityEvent}
    (made : lifecycleEvent checkpoint kind sequence status summaryKo outputRefs errorCode =
      .ok event) :
    event = lifecycleRecord checkpoint kind sequence status summaryKo outputRefs errorCode
      ∧ validPublicEvent event = true := by
  unfold lifecycleEvent at made
  split at made
  · cases made
    exact ⟨rfl, ‹_›⟩
  · cases made

/-- The start event of an attempt. -/
def startedEvent (checkpoint : StageCheckpoint) : Except PyError AgentActivityEvent :=
  lifecycleEvent checkpoint .stageStarted (stageSequence checkpoint.stage 1) .running
    "단계 실행을 시작했습니다." [] none

theorem Database.markRunning_ok {inputRefs : List StoredDataRef} {attemptId : String}
    {inheritFrom : Option StageCheckpoint}
    (committed : db.markRunning identity stage inputRefs attemptId inheritFrom now =
      .ok (stored, after)) :
    stored = db.runningCheckpoint identity stage inputRefs attemptId inheritFrom now
      ∧ ∃ event, startedEvent stored = .ok event ∧ Stored db stored [event] after := by
  unfold Database.markRunning at committed
  obtain ⟨event, made, rest⟩ := except_bind_ok committed
  obtain ⟨tables, written, returned⟩ := except_bind_ok rest
  simp only [pure, Except.pure, Except.ok.injEq, Prod.mk.injEq] at returned
  obtain ⟨rfl, rfl⟩ := returned
  exact ⟨rfl, event, made, Database.write_ok written⟩

@[simp] theorem StageCheckpoint.completed_identity {result : StageResult} :
    (checkpoint.completed result now).identity = checkpoint.identity := by
  rw [StageCheckpoint.completed]
  split <;> rfl

@[simp] theorem StageCheckpoint.completed_stage {result : StageResult} :
    (checkpoint.completed result now).stage = checkpoint.stage := by
  rw [StageCheckpoint.completed]
  split <;> rfl

@[simp] theorem StageCheckpoint.completed_stageVersion {result : StageResult} :
    (checkpoint.completed result now).stageVersion = checkpoint.stageVersion := by
  rw [StageCheckpoint.completed]
  split <;> rfl

@[simp] theorem StageCheckpoint.completed_inputRefs {result : StageResult} :
    (checkpoint.completed result now).inputRefs = checkpoint.inputRefs := by
  rw [StageCheckpoint.completed]
  split <;> rfl

@[simp] theorem StageCheckpoint.completed_attemptId {result : StageResult} :
    (checkpoint.completed result now).attemptId = checkpoint.attemptId := by
  rw [StageCheckpoint.completed]
  split <;> rfl

@[simp] theorem StageCheckpoint.completed_gateRevisionCount {result : StageResult} :
    (checkpoint.completed result now).gateRevisionCount = checkpoint.gateRevisionCount := by
  rw [StageCheckpoint.completed]
  split <;> rfl

@[simp] theorem StageCheckpoint.completed_pocStopDecisionRef {result : StageResult} :
    (checkpoint.completed result now).pocStopDecisionRef = checkpoint.pocStopDecisionRef := by
  rw [StageCheckpoint.completed]
  split <;> rfl

@[simp] theorem StageCheckpoint.completed_status {result : StageResult} :
    (checkpoint.completed result now).status = .succeeded := by
  rw [StageCheckpoint.completed]
  split <;> rfl

theorem Database.complete_ok {result : StageResult}
    (committed : db.complete checkpoint result now = .ok (stored, after)) :
    stored = checkpoint.completed result now
      ∧ ∃ event, Stored db stored (result.activityEvents ++ [event]) after := by
  unfold Database.complete at committed
  obtain ⟨event, -, rest⟩ := except_bind_ok committed
  obtain ⟨tables, written, returned⟩ := except_bind_ok rest
  simp only [pure, Except.pure, Except.ok.injEq, Prod.mk.injEq] at returned
  obtain ⟨rfl, rfl⟩ := returned
  exact ⟨rfl, event, Database.write_ok written⟩

/-- The event that records a failure. -/
def failureEvent (failed : StageCheckpoint) (failure : StageFailure) :
    Except PyError AgentActivityEvent :=
  lifecycleEvent failed
    (if failed.status = .blocked then ActivityKind.stageBlocked else .stageFailed)
    (stageSequence failed.stage 99) failed.status "단계가 완료되지 않아 중단했습니다."
    failure.evidenceRefs (some failure.code)

theorem Database.markFailure_ok {failure : StageFailure} {status : StageStatus}
    (committed : db.markFailure checkpoint failure status now = .ok (stored, after)) :
    (status = .blocked ∨ status = .failed)
      ∧ stored = checkpoint.withFailure failure status now
      ∧ ∃ event, failureEvent stored failure = .ok event ∧ Stored db stored [event] after := by
  unfold Database.markFailure at committed
  obtain ⟨_, allowed, rest⟩ := except_bind_ok committed
  obtain ⟨event, made, rest⟩ := except_bind_ok rest
  obtain ⟨tables, written, returned⟩ := except_bind_ok rest
  simp only [pure, Except.pure, Except.ok.injEq, Prod.mk.injEq] at returned
  obtain ⟨rfl, rfl⟩ := returned
  refine ⟨?_, rfl, event, made, Database.write_ok written⟩
  rw [raiseIf_ok] at allowed
  cases status <;> simp_all

theorem Database.markRecoveryExhausted_ok
    (committed : db.markRecoveryExhausted checkpoint now = .ok (stored, after)) :
    stored =
        { checkpoint with
          status := .blocked
          errorCode := some "RECOVERY_EXHAUSTED"
          retryable := false
          updatedAt := now }
      ∧ ∃ event : AgentActivityEvent,
          event.kind = .stageBlocked ∧ Stored db stored [event] after := by
  unfold Database.markRecoveryExhausted at committed
  obtain ⟨event, made, rest⟩ := except_bind_ok committed
  obtain ⟨tables, written, returned⟩ := except_bind_ok rest
  simp only [pure, Except.pure, Except.ok.injEq, Prod.mk.injEq] at returned
  obtain ⟨rfl, rfl⟩ := returned
  refine ⟨rfl, event, ?_, Database.write_ok written⟩
  rw [(lifecycleEvent_ok made).1, lifecycleRecord]

end Writing

/-! ## Deleting and reseeding -/

section Reseeding

variable {db after : Database} {failed pending gate stored : StageCheckpoint}
  {resolution : RecoveryResolution} {restartStage stage other : SimpleStage} {now : Nat}
  {identity : CheckpointIdentity}

/-- The tables after the stages from `pending` on were replaced by it. -/
def Reseeded (db : Database) (pending : StageCheckpoint) (after : Database) : Prop :=
  ∃ activity,
    after = { (db.deleteFrom pending.identity pending.stage).upsertCheckpoint pending with
      activity }

theorem Reseeded.get (reseeds : Reseeded db pending after)
    (owned : pending.identity = identity) :
    after.get identity stage =
      if stage = pending.stage then some pending
      else if pending.stage.index ≤ stage.index then none else db.get identity stage := by
  obtain ⟨activity, rfl⟩ := reseeds
  rw [Database.get_withActivity, Database.get_upsertCheckpoint owned, owned,
    Database.get_deleteFrom]

theorem Database.replaceFrom_ok (committed : db.replaceFrom pending = .ok after) :
    pending.status = .pending
      ∧ after = (db.deleteFrom pending.identity pending.stage).upsertCheckpoint pending := by
  unfold Database.replaceFrom at committed
  split at committed
  · cases committed
  · simp_all

theorem Database.prepareRecovery_ok
    (committed : db.prepareRecovery failed resolution restartStage now =
      .ok (stored, after)) :
    (failed.status = .blocked ∨ failed.status = .failed)
      ∧ resolution.action ≠ .stop
      ∧ restartStage.index ≤ failed.stage.index
      ∧ stored = failed.recoverySeed resolution restartStage
          (db.get failed.identity restartStage) now
      ∧ ∃ event activity, db.recoveryEvent failed resolution = .ok event
          ∧ appendEvent db.activity event = .ok activity
          ∧ after = { (db.deleteFrom failed.identity restartStage).upsertCheckpoint stored with
              activity } := by
  unfold Database.prepareRecovery at committed
  obtain ⟨_, isFailed, rest⟩ := except_bind_ok committed
  obtain ⟨_, notStop, rest⟩ := except_bind_ok rest
  obtain ⟨_, notLater, rest⟩ := except_bind_ok rest
  obtain ⟨event, made, rest⟩ := except_bind_ok rest
  obtain ⟨activity, appended, returned⟩ := except_bind_ok rest
  simp only [pure, Except.pure, Except.ok.injEq, Prod.mk.injEq] at returned
  obtain ⟨rfl, rfl⟩ := returned
  rw [raiseIf_ok] at isFailed notStop notLater
  refine ⟨?_, notStop, Nat.not_lt.1 notLater, rfl, event, activity, made, appended, rfl⟩
  cases shown : failed.status <;> simp_all

theorem Database.recordRecoveryDecision_ok
    (committed : db.recordRecoveryDecision failed resolution = .ok after) :
    ∃ event activity, db.recoveryEvent failed resolution = .ok event
      ∧ appendEvent db.activity event = .ok activity
      ∧ after = { db.upsertCheckpoint failed with activity } := by
  unfold Database.recordRecoveryDecision at committed
  obtain ⟨event, made, rest⟩ := except_bind_ok committed
  obtain ⟨activity, appended, returned⟩ := except_bind_ok rest
  simp only [pure, Except.pure, Except.ok.injEq] at returned
  exact ⟨event, activity, made, appended, returned.symm⟩

theorem Database.recordRecoveryStop_ok
    (committed : db.recordRecoveryStop failed resolution now = .ok (stored, after)) :
    stored = { failed with retryable := false, updatedAt := now }
      ∧ db.recordRecoveryDecision stored resolution = .ok after := by
  unfold Database.recordRecoveryStop at committed
  obtain ⟨-, -, rest⟩ := except_bind_ok committed
  obtain ⟨tables, recorded, returned⟩ := except_bind_ok rest
  simp only [pure, Except.pure, Except.ok.injEq, Prod.mk.injEq] at returned
  obtain ⟨rfl, rfl⟩ := returned
  exact ⟨rfl, recorded⟩

/-- A Gate revision taken on the stored Gate reseeds the candidate. -/
theorem Database.prepareGateRevision_ok
    (committed : db.prepareGateRevision gate now = .ok (stored, after))
    (current : db.get gate.identity techGateDone = some gate) :
    gate.gateDecision = some .revise
      ∧ gate.gateRevisionCount < 2
      ∧ ∃ candidate execution : StageCheckpoint,
          db.checkpoints (gate.identity.key pocCandidateDone) = some candidate
          ∧ db.checkpoints (gate.identity.key pocExecutionDone) = some execution
          ∧ candidate.status = .succeeded
          ∧ execution.status = .succeeded
          ∧ stored = revisionSeed gate candidate execution now
          ∧ after = (db.deleteFrom gate.identity pocCandidateDone).upsertCheckpoint stored := by
  have row := (Database.get_eq_some.1 current).1
  unfold Database.prepareGateRevision at committed
  split at committed
  · cases committed
  · rename_i preparable
    simp only [not_or, Nat.not_le] at preparable
    refine ⟨not_not.1 preparable.2.2.2.1, preparable.2.2.2.2.2, ?_⟩
    simp only [row, ne_eq, not_true_eq_false, if_false] at committed
    split at committed
    · rename_i candidate execution candidateRow executionRow
      split at committed
      · cases committed
      · rename_i candidateSucceeded
        split at committed
        · rename_i execution
          split at committed
          · cases committed
          · rename_i executionSucceeded
            simp only [Except.ok.injEq, Prod.mk.injEq] at committed
            obtain ⟨rfl, rfl⟩ := committed
            exact ⟨_, _, ‹_›, ‹_›, not_not.1 candidateSucceeded,
              not_not.1 executionSucceeded, rfl, rfl⟩
        · cases committed
    · cases committed

end Reseeding

/-! ## Promotions -/

section Promotions

variable {db after : Database} {blocked exhausted stored : StageCheckpoint}
  {artifacts : SimpleArtifactRepository} {now : Nat}

theorem Database.promoteInitialEnvironmentInconclusive_ok
    (committed : db.promoteInitialEnvironmentInconclusive blocked artifacts now =
      .ok (stored, after)) :
    db.checkpoints (blocked.identity.key blocked.stage) = some blocked
      ∧ blocked.stage = verificationInitialDone
      ∧ blocked.status = .blocked
      ∧ (∃ block,
          stored =
            { blocked with
              status := .succeeded
              outputRefs := (blocked.outputRefs ++ [block]).eraseDups
              environmentBlockRef := some block
              verdict := some .hold
              errorCode := none
              retryable := false
              updatedAt := now })
      ∧ terminalInitialOutcome (some stored) ≠ none
      ∧ ∃ events, Stored db stored events after := by
  unfold Database.promoteInitialEnvironmentInconclusive at committed
  obtain ⟨_, allowed, rest⟩ := except_bind_ok committed
  obtain ⟨built, -, rest⟩ := except_bind_ok rest
  obtain ⟨block, -, rest⟩ := except_bind_ok rest
  obtain ⟨verified, evidence, rest⟩ := except_bind_ok rest
  obtain ⟨outcome, found, rest⟩ := except_bind_ok rest
  obtain ⟨_, fresh, rest⟩ := except_bind_ok rest
  obtain ⟨event, -, rest⟩ := except_bind_ok rest
  obtain ⟨tables, written, returned⟩ := except_bind_ok rest
  simp only [pure, Except.pure, Except.ok.injEq, Prod.mk.injEq] at returned
  obtain ⟨rfl, rfl⟩ := returned
  simp only [raiseIf_ok, not_or, not_not, ne_eq] at allowed fresh
  rw [required_ok] at found
  refine ⟨fresh, allowed.1, allowed.2.2.1, ⟨block, rfl⟩, ?_, _, Database.write_ok written⟩
  intro missing
  rw [SimpleArtifactRepository.verifiedTerminalInitialOutcome, missing, found] at evidence
  cases evidence

theorem Database.promoteInconclusiveExecution_ok
    (committed : db.promoteInconclusiveExecution exhausted artifacts now =
      .ok (stored, after)) :
    db.checkpoints (exhausted.identity.key exhausted.stage) = some exhausted
      ∧ exhausted.stage = pocExecutionDone
      ∧ exhausted.status = .blocked
      ∧ (∃ stop,
          stored =
            { exhausted with
              status := .succeeded
              verdict := some .hold
              errorCode := none
              retryable := false
              pocStopDecisionRef := stop
              updatedAt := now })
      ∧ terminalPocOutcome (some stored) ≠ none
      ∧ ∃ events, Stored db stored events after := by
  unfold Database.promoteInconclusiveExecution at committed
  obtain ⟨_, allowed, rest⟩ := except_bind_ok committed
  obtain ⟨_, fresh, rest⟩ := except_bind_ok rest
  obtain ⟨_, verified, rest⟩ := except_bind_ok rest
  obtain ⟨event, -, rest⟩ := except_bind_ok rest
  obtain ⟨tables, written, returned⟩ := except_bind_ok rest
  simp only [pure, Except.pure, Except.ok.injEq, Prod.mk.injEq] at returned
  obtain ⟨rfl, rfl⟩ := returned
  simp only [raiseIf_ok, not_or] at allowed fresh verified
  obtain ⟨isExecution, version, isBlocked, cause, outputs, validated⟩ := allowed
  rw [← not_or] at cause
  rw [not_not] at isExecution version isBlocked cause outputs validated fresh
  refine ⟨fresh, isExecution, isBlocked, ⟨_, rfl⟩, ?_, _, Database.write_ok written⟩
  have stopRecorded :
      maxRecoveryAttempts ≤ exhausted.attemptNumber
        ∨ (if StoppedInconclusive exhausted artifacts then
            db.verifiedInconclusiveStop exhausted artifacts else none) ≠ none := by
    rcases cause with ⟨-, attempts⟩ | stopped
    · exact .inl attempts
    · exact .inr fun missing => verified ⟨stopped, missing⟩
  rw [terminalPocOutcome, if_pos]
  · exact Option.some_ne_none _
  · exact ⟨isExecution, rfl, version, rfl, stopRecorded, validated,
      Nat.le_of_eq outputs.symm⟩

end Promotions

end Sastsimi.Runtime
