import Sastsimi.Runtime.Termination

/-!
# The attempt of a PoC pair

The PoC candidate and its execution belong to one attempt.  An execution that is started where
none is stored joins its candidate; one that is started over a stored execution draws a fresh
identifier and leaves the candidate on the old one.
-/

namespace Sastsimi.Runtime

open SimpleStage Lib

variable [Platform] {env : RunnerEnv} {identity : CheckpointIdentity} {db after : Database}

/-- A stored execution with an attempt has a successful candidate of the same attempt. -/
def SharesAttempt (db : Database) (identity : CheckpointIdentity) : Prop :=
  ∀ execution attempt, db.get identity pocExecutionDone = some execution →
    execution.attemptId = some attempt →
    ∃ candidate, db.get identity pocCandidateDone = some candidate
      ∧ candidate.status = .succeeded ∧ candidate.attemptId = some attempt

/-- Every PoC execution was started where none was stored. -/
def ExecutionsFresh (trace : List TraceEvent) : Prop :=
  ∀ existing, .started pocExecutionDone existing ∈ trace → existing = none

/-- The event starts no execution over a stored one. -/
def TraceEvent.startsFresh : TraceEvent → Bool
  | .started stage existing => stage ≠ pocExecutionDone || existing.isNone
  | .invoked _ => true

theorem executionsFresh_iff {trace : List TraceEvent} :
    (trace.all TraceEvent.startsFresh) = true ↔ ExecutionsFresh trace := by
  rw [List.all_eq_true]
  constructor
  · intro all existing member
    have fresh := all _ member
    simpa [TraceEvent.startsFresh] using fresh
  · intro fresh event member
    cases event with
    | invoked => rfl
    | started stage existing =>
        by_cases isExecution : stage = pocExecutionDone
        · subst isExecution
          rw [fresh existing member]
          rfl
        · simp [TraceEvent.startsFresh, isExecution]

instance (trace : List TraceEvent) : Decidable (ExecutionsFresh trace) :=
  decidable_of_iff _ executionsFresh_iff

/-! ## The invariant -/

/-- Attempts are known, and a stored execution shares the attempt of its candidate. -/
structure Paired (db : Database) (identity : CheckpointIdentity) : Prop where
  frontier : Frontier db identity
  identified : ∀ stage checkpoint, db.get identity stage = some checkpoint →
    checkpoint.status ≠ .pending → checkpoint.attemptId ≠ none
  paired : ∀ execution attempt, db.get identity pocExecutionDone = some execution →
    execution.attemptId = some attempt →
    ∃ candidate, db.get identity pocCandidateDone = some candidate
      ∧ candidate.attemptId = some attempt

/-- The candidate below a stored execution was walked past. -/
theorem Paired.sharesAttempt (paired : Paired db identity) : SharesAttempt db identity := by
  intro execution attempt stored known
  obtain ⟨candidate, candidateStored, same⟩ := paired.paired execution attempt stored known
  have passed := paired.frontier.passed candidateStored stored (by decide)
  exact ⟨candidate, candidateStored, passed.1, same⟩

/-- An execution that is started where none is stored joins the attempt of its candidate. -/
theorem selectAttemptId_joins (paired : Paired db identity)
    (standing : Standing db identity pocExecutionDone)
    (missing : db.get identity pocExecutionDone = none) (fresh : String) :
    ∃ candidate, db.get identity pocCandidateDone = some candidate
      ∧ candidate.attemptId =
        some (selectAttemptId pocExecutionDone (db.get identity pocExecutionDone)
          (db.preceding identity pocExecutionDone) fresh) := by
  obtain ⟨candidate, stored, succeeded, -⟩ :=
    (standing.walked pocCandidateDone (by decide) (by decide)).resolve_left
      fun skipped => absurd skipped.1 (by decide)
  have sameStage := Database.stage_of_get stored
  have between : ∀ other : SimpleStage, candidate.stage.index < other.index →
      other.index < pocExecutionDone.index → db.get identity other = none := by
    intro other above below
    rw [sameStage] at above
    cases other <;> exact absurd (And.intro above below) (by decide)
  have preceding : db.preceding identity pocExecutionDone = some candidate :=
    preceding_eq (sameStage ▸ stored) (by rw [sameStage]; decide) between
  have known := paired.identified _ _ stored (by simp [succeeded])
  obtain ⟨attempt, recorded⟩ := Option.ne_none_iff_exists'.1 known
  refine ⟨candidate, stored, ?_⟩
  rw [missing, preceding, recorded]
  simp [selectAttemptId, sameStage, recorded]

/-- What a move may store at the execution stage. -/
theorem Change.paired {stored : StageCheckpoint} {events : List TraceEvent}
    (paired : Paired db identity) (fresh : ExecutionsFresh events)
    (change : Change env identity db events stored) (isExecution : stored.stage = pocExecutionDone)
    {attempt : String} (known : stored.attemptId = some attempt) :
    ∃ candidate, db.get identity pocCandidateDone = some candidate
      ∧ candidate.attemptId = some attempt := by
  cases change with
  | restart change => cases change <;> cases known
  | edit current settled unpassed same =>
      rw [same.stage] at isExecution
      rw [same.attemptId] at known
      exact paired.paired _ attempt (isExecution ▸ current) known
  | @complete checkpoint result now standing current running =>
      rw [StageCheckpoint.completed_stage] at isExecution
      rw [StageCheckpoint.completed_attemptId] at known
      exact paired.paired _ attempt (isExecution ▸ current) known
  | replay standing current unsettled revivable copy =>
      rcases copy with ⟨rfl, -⟩ | rfl <;> cases known
  | @start stage fresh_ now base standing startable cleared =>
      have sameStage : stage = pocExecutionDone := isExecution
      subst sameStage
      have missing : db.get identity pocExecutionDone = none := fresh _ (by simp)
      cases known
      exact selectAttemptId_joins paired standing missing fresh_
  | repair => cases known

/-- A checkpoint that is not pending has an attempt. -/
theorem Change.identified {stored : StageCheckpoint} {events : List TraceEvent}
    (paired : Paired db identity) (change : Change env identity db events stored)
    (settled : stored.status ≠ .pending) : stored.attemptId ≠ none := by
  cases change with
  | restart change => cases change <;> exact absurd rfl settled
  | edit current settledBefore unpassed same =>
      rw [same.attemptId]
      exact paired.identified _ _ current settledBefore
  | @complete checkpoint result now standing current running =>
      rw [StageCheckpoint.completed_attemptId]
      exact paired.identified _ _ current (by simp [running])
  | replay standing current unsettled revivable copy =>
      rcases copy with ⟨rfl, -⟩ | rfl <;> exact absurd rfl settled
  | start => exact Option.some_ne_none _
  | repair => exact absurd rfl settled

theorem Paired.settle {stored : StageCheckpoint} {events : List TraceEvent}
    (paired : Paired db identity) (fresh : ExecutionsFresh events)
    (change : Change env identity db events stored)
    (settles : Settles db after identity stored) (frontier : Frontier after identity) :
    Paired after identity := by
  constructor
  · exact frontier
  · intro stage checkpoint found notPending
    rw [settles] at found
    split at found
    · cases found
      exact change.identified paired notPending
    · split at found
      · cases found
      · exact paired.identified stage checkpoint found notPending
  · intro execution attempt found known
    rw [settles] at found
    by_cases isExecution : pocExecutionDone = stored.stage
    · rw [if_pos isExecution] at found
      cases found
      obtain ⟨candidate, current, same⟩ := change.paired paired fresh isExecution.symm known
      refine ⟨candidate, ?_, same⟩
      rw [settles, ← isExecution, if_neg (by decide), if_neg (by decide)]
      exact current
    · rw [if_neg isExecution] at found
      split at found
      · cases found
      · rename_i below
        obtain ⟨candidate, current, same⟩ := paired.paired execution attempt found known
        have lower : pocCandidateDone.index < stored.stage.index :=
          Nat.lt_trans (by decide) (Nat.not_le.1 below)
        have different : pocCandidateDone ≠ stored.stage := fun equal =>
          Nat.lt_irrefl _ (equal ▸ lower)
        refine ⟨candidate, ?_, same⟩
        rw [settles, if_neg different, if_neg (Nat.not_le.2 lower)]
        exact current

/-- The step lemma: a move that starts no execution over a stored one keeps the pair. -/
theorem Paired.move {before after : Snapshot} (paired : Paired before.db identity)
    (move : Move env identity before after) (fresh : ExecutionsFresh after.trace) :
    Paired after.db identity := by
  have frontier := paired.frontier.move move
  obtain ⟨events, traced, effect⟩ := move.effect
  have freshEvents : ExecutionsFresh events := by
    intro existing member
    apply fresh
    rw [traced]
    exact List.mem_append_right _ member
  cases effect with
  | unchanged same =>
      constructor
      · exact frontier
      · intro stage checkpoint stored
        rw [same] at stored
        exact paired.identified stage checkpoint stored
      · intro execution attempt stored
        rw [same] at stored ⊢
        exact paired.paired execution attempt stored
  | @shrinks stage _ _ shrinks =>
      constructor
      · exact frontier
      · intro stage checkpoint stored
        rw [shrinks] at stored
        split at stored
        · cases stored
        · exact paired.identified stage checkpoint stored
      · intro execution attempt stored
        rw [shrinks] at stored
        split at stored
        · cases stored
        · rename_i below
          have lower : ¬ stage.index ≤ pocCandidateDone.index := fun above =>
            below (Nat.le_trans above (by decide))
          rw [shrinks, if_neg lower]
          exact paired.paired execution attempt stored
  | settles change _ settles => exact paired.settle freshEvents change settles frontier
  | updates change current unpassed updates =>
      have settles := updates.settles fun other => paired.frontier.none_above current unpassed
      exact paired.settle freshEvents change settles frontier

/-! ## Runs -/

theorem Moves.trace_prefix {before after : Snapshot} (moves : Moves env identity before after) :
    before.trace <+: after.trace := by
  induction moves with
  | refl => exact List.prefix_rfl
  | tail _ move ih =>
      obtain ⟨events, traced, -⟩ := move.effect
      rw [traced]
      exact ih.trans (List.prefix_append _ _)

theorem ExecutionsFresh.of_prefix {left right : List TraceEvent}
    (fresh : ExecutionsFresh right) (starts : left <+: right) : ExecutionsFresh left :=
  fun existing member => fresh existing (starts.subset member)

/-- The run lemma over moves. -/
theorem Paired.moves {before after : Snapshot} (paired : Paired before.db identity)
    (moves : Moves env identity before after) (fresh : ExecutionsFresh after.trace) :
    Paired after.db identity := by
  induction moves with
  | refl => exact paired
  | tail _ move ih =>
      have earlier := Moves.trace_prefix (.single move)
      exact (ih (fresh.of_prefix earlier)).move move fresh

theorem Reachable.paired {world : World} (reached : Reachable identity world)
    (fresh : ExecutionsFresh world.trace) : Paired world.db identity := by
  induction reached with
  | seeded isFirst pending only =>
      have frontier := Frontier.seeded isFirst pending only
      constructor
      · exact frontier
      · intro stage checkpoint stored notPending
        rw [only stage] at stored
        split at stored
        · cases stored
          exact absurd pending notPending
        · cases stored
      · intro execution attempt stored
        rw [only, isFirst] at stored
        cases stored
  | @resumed world env passes _ ih =>
      have moves : Moves env identity world.toSnapshot _ :=
        resumeHypothesis_moves env passes world
      exact (ih (fresh.of_prefix moves.trace_prefix)).moves moves fresh

/-- Calls that start no execution over a stored one keep candidate and execution on one
attempt. -/
theorem sharesAttempt_of_executionsFresh {world : World} (reached : Reachable identity world)
    (fresh : ExecutionsFresh world.trace) : SharesAttempt world.db identity :=
  (reached.paired fresh).sharesAttempt

end Sastsimi.Runtime

namespace Sastsimi.Runtime.Concrete

open SimpleStage Lib

/-- All stages up to the candidate succeed, and the execution ends as given. -/
def pocHandlers (execution : SimpleStageHandler) (stage : SimpleStage) :
    Option SimpleStageHandler :=
  if stage = pocExecutionDone then some execution
  else if stage.index < pocExecutionDone.index then some (succeeding stage.value)
  else none

/-- The first execution times out, its retry is cancelled. -/
def retriedExecution : RunnerEnv :=
  runner
    (pocHandlers fun _ checkpoint _ =>
      if checkpoint.attemptNumber = 1 then
        .stageBlocked { code := "TIMEOUT", retryable := true }
      else .cancelled)
    (some alwaysRetry)

/-- Retrying the execution alone leaves the candidate on the attempt before. -/
theorem retriedExecution_splits_attempt :
    ¬ ∀ world : World, Reachable hypothesis world → SharesAttempt world.db hypothesis := by
  intro shares
  have reached := Reachable.resumed retriedExecution 3 registration_reachable
  have executionAttempt :
      ((resumeHypothesis retriedExecution 3 hypothesis registration).2.db.get hypothesis
        pocExecutionDone).bind (·.attemptId) = some "21" := by
    decide +kernel
  have candidateAttempt :
      ((resumeHypothesis retriedExecution 3 hypothesis registration).2.db.get hypothesis
        pocCandidateDone).bind (·.attemptId) = some "9" := by
    decide +kernel
  obtain ⟨execution, stored, known⟩ := Option.bind_eq_some_iff.1 executionAttempt
  obtain ⟨candidate, candidateStored, -, same⟩ := shares _ reached execution _ stored known
  rw [candidateStored, Option.bind_some, same] at candidateAttempt
  exact absurd candidateAttempt (by decide)

/-- The first execution is cancelled. -/
def cancelledExecution : RunnerEnv :=
  runner (pocHandlers fun _ _ _ => .cancelled) (some alwaysRetry)

/-- The first execution belongs to the attempt of its candidate. -/
theorem cancelledExecution_sharesAttempt :
    SharesAttempt (resumeHypothesis cancelledExecution 3 hypothesis registration).2.db
      hypothesis := by
  have fresh : ExecutionsFresh
      (resumeHypothesis cancelledExecution 3 hypothesis registration).2.trace := by
    decide +kernel
  exact sharesAttempt_of_executionsFresh
    (.resumed cancelledExecution 3 registration_reachable) fresh

end Sastsimi.Runtime.Concrete
