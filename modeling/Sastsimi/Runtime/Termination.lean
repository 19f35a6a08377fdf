import Sastsimi.Lib.Ranking
import Sastsimi.Runtime.Frontier

/-!
# Termination of a call with a recovery coordinator

The loop starts a new pass after every recovery and every Gate revision.  From the first new
pass on, the last stored checkpoint carries a rank that no move raises and every restart
lowers: a Gate revision uses up one of the allowed revisions, a recovery uses up the attempts
of its lineage, and a lineage ends only by walking past the stage it came from.
-/

namespace Sastsimi.Runtime

open SimpleStage Lib

variable [Platform] {env : RunnerEnv} {identity : CheckpointIdentity} {db after : Database}

/-! ## The front -/

/-- The last stored checkpoint, at which the loop stands. -/
structure AtFront (db : Database) (identity : CheckpointIdentity) (last : StageCheckpoint) :
    Prop where
  current : db.get identity last.stage = some last
  standing : Standing db identity last.stage
  noneAbove : ∀ other : SimpleStage, last.stage.index < other.index →
    db.get identity other = none
  version : last.stageVersion = last.stage.stageVersion
  origin : last.recoveryLineageId = none → last.recoveryOriginStage = none

/-- A standing checkpoint that settles becomes the front. -/
theorem Settles.atFront {stored : StageCheckpoint} (settles : Settles db after identity stored)
    (standing : Standing db identity stored.stage)
    (version : stored.stageVersion = stored.stage.stageVersion)
    (origin : stored.recoveryLineageId = none → stored.recoveryOriginStage = none) :
    AtFront after identity stored := by
  constructor
  · rw [settles, if_pos rfl]
  · exact standing.congr settles.agreesBefore
  · intro other above
    have different : other ≠ stored.stage := fun same =>
      Nat.lt_irrefl _ (same ▸ above)
    rw [settles, if_neg different, if_pos (Nat.le_of_lt above)]
  · exact version
  · exact origin

theorem AtFront.passed {last : StageCheckpoint} (front : AtFront db identity last)
    {stage : SimpleStage} (standing : Standing db identity stage)
    (before : stage.index < last.stage.index) : Passed db identity stage :=
  (front.standing.walked stage standing.hypothesisStage before).resolve_left standing.kept

/-- Where the loop stands at an unfinished or stopping checkpoint, it stands at the front. -/
theorem AtFront.eq_of_open {last checkpoint : StageCheckpoint} (front : AtFront db identity last)
    (standing : Standing db identity checkpoint.stage)
    (current : db.get identity checkpoint.stage = some checkpoint)
    (unpassed : checkpoint.status ≠ .succeeded ∨ checkpoint.Stops) : checkpoint = last := by
  rcases Nat.lt_trichotomy checkpoint.stage.index last.stage.index with before | same | above
  · obtain ⟨passed, stored, succeeded, -, goesOn⟩ := front.passed standing before
    rw [current] at stored
    cases stored
    rcases unpassed with unfinished | stops
    · exact absurd succeeded unfinished
    · exact absurd stops goesOn
  · rw [SimpleStage.index_inj] at same
    rw [same, front.current] at current
    cases current
    rfl
  · rw [front.noneAbove _ above] at current
    cases current

/-- A stage the loop does not run: one before the hypothesis, or one a final `HOLD` skips. -/
def Unvisited (db : Database) (identity : CheckpointIdentity) (stage : SimpleStage) : Prop :=
  stage.index < proConDone.index ∨ HoldSkipped db identity stage

/-- A row of a stage the loop does not run may change below the front. -/
theorem AtFront.unvisited {last stored : StageCheckpoint} (front : AtFront db identity last)
    (updates : Updates db after identity stored)
    (unvisited : Unvisited db identity stored.stage)
    (before : stored.stage.index < last.stage.index) : AtFront after identity last := by
  have others : ∀ other : SimpleStage, other ≠ stored.stage →
      after.get identity other = db.get identity other := by
    intro other different
    rw [updates, if_neg different]
  have final : after.get identity verificationFinalDone =
      db.get identity verificationFinalDone := by
    apply others
    intro same
    rw [← same] at unvisited
    rcases unvisited with early | skipped
    · exact absurd early (by decide)
    · exact absurd skipped.1 (by decide)
  have differs : last.stage ≠ stored.stage := fun same =>
    Nat.lt_irrefl _ (same ▸ before)
  constructor
  · exact (others _ differs).trans front.current
  · constructor
    · exact front.standing.hypothesisStage
    · intro earlier hypothesisStage below
      by_cases same : earlier = stored.stage
      · rcases unvisited with early | skipped
        · exact absurd (same ▸ hypothesisStage) (Nat.not_le.2 early)
        · exact .inl (same ▸ skipped.congr final)
      · rcases front.standing.walked earlier hypothesisStage below with skips | passed
        · exact .inl (skips.congr final)
        · obtain ⟨checkpoint, current, facts⟩ := passed
          exact .inr ⟨checkpoint, (others earlier same).trans current, facts⟩
    · exact fun skips => front.standing.kept (skips.congr final.symm)
  · intro other above
    have different : other ≠ stored.stage := by
      intro same
      rw [same] at above
      exact Nat.lt_asymm above before
    rw [others other different]
    exact front.noneAbove other above
  · exact front.version
  · exact front.origin

/-- Replacing an unfinished or stopping row replaces the front, or a row the loop does not
visit. -/
theorem AtFront.updates {last previous stored : StageCheckpoint}
    (front : AtFront db identity last)
    (current : db.get identity stored.stage = some previous)
    (unpassed : previous.status ≠ .succeeded ∨ previous.Stops)
    (updates : Updates db after identity stored) :
    previous = last ∧ Settles db after identity stored
      ∨ Unvisited db identity stored.stage ∧ AtFront after identity last := by
  rcases Nat.lt_trichotomy stored.stage.index last.stage.index with before | same | above
  · right
    have unvisited : Unvisited db identity stored.stage := by
      by_contra visited
      rw [Unvisited, not_or, Nat.not_lt] at visited
      obtain ⟨passed, found, succeeded, -, goesOn⟩ :=
        (front.standing.walked _ visited.1 before).resolve_left visited.2
      rw [current] at found
      cases found
      rcases unpassed with unfinished | stops
      · exact unfinished succeeded
      · exact goesOn stops
    exact ⟨unvisited, front.unvisited updates unvisited before⟩
  · left
    rw [SimpleStage.index_inj] at same
    rw [same, front.current] at current
    cases current
    exact ⟨rfl, updates.settles fun other above => front.noneAbove other (same ▸ above)⟩
  · rw [front.noneAbove _ above] at current
    cases current

/-! ## The rank of the front -/

/-- The Gate revisions `prepare_gate_revision` allows. -/
def allowedGateRevisions : Nat := 2

/-- What one stage is worth: more than all attempts of one recovery lineage. -/
def stageWorth : Nat := 2 * (maxRecoveryAttempts + 1)

/-- What one Gate revision is worth: more than all stages. -/
def revisionWorth : Nat := stageWorth * stageOrder.length + 1

/-- The attempts left to a recovery lineage, an attempt not begun counting as two. -/
def StageCheckpoint.attemptRank (checkpoint : StageCheckpoint) : Nat :=
  if maxRecoveryAttempts ≤ checkpoint.attemptNumber then 0
  else
    2 * (maxRecoveryAttempts - checkpoint.attemptNumber)
      + if checkpoint.status = .pending then 0 else 1

/-- The position of the first stage the checkpoint has not walked past. -/
def StageCheckpoint.reached (checkpoint : StageCheckpoint) : Nat :=
  if checkpoint.Closed then checkpoint.stage.index + 1 else checkpoint.stage.index

/-- The stages left to walk past: those after the origin of the recovery lineage, or without a
lineage those the checkpoint has not reached. -/
def StageCheckpoint.walkRank (checkpoint : StageCheckpoint) : Nat :=
  match checkpoint.recoveryLineageId, checkpoint.recoveryOriginStage with
  | some _, some origin =>
      stageWorth * (stageOrder.length - (origin.index + 1)) + checkpoint.attemptRank
  | _, _ => stageWorth * (stageOrder.length - checkpoint.reached)

/-- The rank of the last stored checkpoint. -/
def StageCheckpoint.rank (checkpoint : StageCheckpoint) : Nat :=
  (allowedGateRevisions - checkpoint.gateRevisionCount) * revisionWorth + checkpoint.walkRank

/-- The largest rank. -/
def rankBound : Nat := allowedGateRevisions * revisionWorth + stageWorth * stageOrder.length

theorem StageCheckpoint.attemptRank_lt (checkpoint : StageCheckpoint) :
    checkpoint.attemptRank < stageWorth := by
  unfold StageCheckpoint.attemptRank stageWorth
  split
  · decide
  · split <;> omega

theorem StageCheckpoint.walkRank_le (checkpoint : StageCheckpoint) :
    checkpoint.walkRank ≤ stageWorth * stageOrder.length := by
  have attempts := checkpoint.attemptRank_lt
  have worth : stageWorth = 8 := rfl
  have stages : stageOrder.length = 14 := rfl
  unfold StageCheckpoint.walkRank
  split
  · rw [worth] at attempts ⊢
    rw [stages]
    omega
  · exact Nat.mul_le_mul_left _ (Nat.sub_le _ _)

theorem StageCheckpoint.rank_le (checkpoint : StageCheckpoint) :
    checkpoint.rank ≤ rankBound := by
  have revisions : (allowedGateRevisions - checkpoint.gateRevisionCount) * revisionWorth ≤
      allowedGateRevisions * revisionWorth :=
    Nat.mul_le_mul_right _ (Nat.sub_le _ _)
  exact Nat.add_le_add revisions checkpoint.walkRank_le

/-! ## Ranks of the checkpoints that moves store -/

section Ranks

variable {last stored : StageCheckpoint}

theorem StageCheckpoint.walkRank_noOrigin (noOrigin : stored.recoveryOriginStage = none) :
    stored.walkRank = stageWorth * (stageOrder.length - stored.reached) := by
  unfold StageCheckpoint.walkRank
  rw [noOrigin]
  cases stored.recoveryLineageId <;> rfl

theorem StageCheckpoint.reached_open (isOpen : ¬ stored.Closed) :
    stored.reached = stored.stage.index :=
  if_neg isOpen

theorem StageCheckpoint.le_reached {stage : SimpleStage} (same : stored.stage = stage) :
    stage.index ≤ stored.reached := by
  rw [StageCheckpoint.reached, same]
  split
  · exact Nat.le_succ _
  · exact Nat.le_refl _

theorem StageCheckpoint.not_closed_of_unfinished {checkpoint : StageCheckpoint}
    (unfinished : checkpoint.status = .pending ∨ checkpoint.status = .running) :
    ¬ checkpoint.Closed := by
  intro closed
  rcases closed with succeeded | refuted
  · rcases unfinished with pending | running <;> simp_all
  · rcases refuted.1 with blocked | failed <;> simp_all

theorem StageCheckpoint.walkRank_lineage {lineage : String} {origin : SimpleStage}
    (someLineage : stored.recoveryLineageId = some lineage)
    (someOrigin : stored.recoveryOriginStage = some origin) :
    stored.walkRank =
      stageWorth * (stageOrder.length - (origin.index + 1)) + stored.attemptRank := by
  rw [StageCheckpoint.walkRank, someLineage, someOrigin]

omit [Platform] in
/-- Walking from one stage to the next pays for all attempts of a lineage. -/
theorem walkRank_step (stage : SimpleStage) {attempts : Nat} (bounded : attempts < stageWorth) :
    stageWorth * (stageOrder.length - (stage.index + 1)) + attempts <
      stageWorth * (stageOrder.length - stage.index) := by
  have below := stage.index_le
  have worth : stageWorth = 8 := rfl
  have stages : stageOrder.length = 14 := rfl
  rw [worth] at bounded ⊢
  rw [stages]
  omega

theorem StageCheckpoint.rank_lt_of_walkRank
    (revisions : stored.gateRevisionCount = last.gateRevisionCount)
    (walk : stored.walkRank < last.walkRank) : stored.rank < last.rank := by
  unfold StageCheckpoint.rank
  rw [revisions]
  exact Nat.add_lt_add_left walk _

theorem StageCheckpoint.rank_le_of_walkRank
    (revisions : stored.gateRevisionCount = last.gateRevisionCount)
    (walk : stored.walkRank ≤ last.walkRank) : stored.rank ≤ last.rank := by
  unfold StageCheckpoint.rank
  rw [revisions]
  exact Nat.add_le_add_left walk _

theorem StageCheckpoint.attemptRank_pending {previous : StageCheckpoint}
    (bounded : previous.attemptNumber < maxRecoveryAttempts)
    (settled : previous.status ≠ .pending) (isPending : stored.status = .pending)
    (same : stored.attemptNumber = previous.attemptNumber) :
    stored.attemptRank < previous.attemptRank := by
  unfold StageCheckpoint.attemptRank
  rw [same, if_neg (Nat.not_le.2 bounded), if_neg (Nat.not_le.2 bounded), if_pos isPending,
    if_neg settled]
  exact Nat.lt_succ_self _

/-- A recovery uses up attempts of its lineage, or begins one at the failed stage. -/
theorem recoverySeed_rank_lt {failed restart : StageCheckpoint}
    {resolution : RecoveryResolution} {now : Nat} (isFailed : failed.Failed)
    (retryable : failed.retryable = true)
    (bounded : failed.attemptNumber < maxRecoveryAttempts)
    (origin : failed.recoveryLineageId = none → failed.recoveryOriginStage = none) :
    (failed.recoverySeed resolution restart.stage (some restart) now).rank < failed.rank := by
  obtain ⟨settled, -, unfinished⟩ := isFailed.unsettled
  have isOpen : ¬ failed.Closed := by
    intro closed
    rcases closed with succeeded | refuted
    · exact unfinished succeeded
    · rw [refuted.2.1] at retryable
      cases retryable
  have revisions : (failed.recoverySeed resolution restart.stage (some restart)
      now).gateRevisionCount = failed.gateRevisionCount := rfl
  apply StageCheckpoint.rank_lt_of_walkRank revisions
  cases recorded : failed.recoveryOriginStage with
  | none =>
      have seedOrigin : (failed.recoverySeed resolution restart.stage (some restart)
          now).recoveryOriginStage = some failed.stage := by
        rw [StageCheckpoint.recoverySeed, recorded]
        rfl
      rw [StageCheckpoint.walkRank_lineage rfl seedOrigin,
        StageCheckpoint.walkRank_noOrigin recorded, StageCheckpoint.reached_open isOpen]
      exact walkRank_step failed.stage (StageCheckpoint.attemptRank_lt _)
  | some stage =>
      have seedOrigin : (failed.recoverySeed resolution restart.stage (some restart)
          now).recoveryOriginStage = some stage := by
        rw [StageCheckpoint.recoverySeed, recorded]
        rfl
      cases lineage : failed.recoveryLineageId with
      | none =>
          rw [origin lineage] at recorded
          cases recorded
      | some lineageId =>
          rw [StageCheckpoint.walkRank_lineage rfl seedOrigin,
            StageCheckpoint.walkRank_lineage lineage recorded]
          apply Nat.add_lt_add_left
          exact StageCheckpoint.attemptRank_pending bounded settled rfl rfl

/-- A Gate revision uses up one of the allowed revisions. -/
theorem revisionSeed_rank_lt {gate candidate execution : StageCheckpoint} {now : Nat}
    (bounded : gate.gateRevisionCount < 2) :
    (Database.revisionSeed gate candidate execution now).rank < gate.rank := by
  have walk : (Database.revisionSeed gate candidate execution now).walkRank < revisionWorth :=
    Nat.lt_succ_of_le (StageCheckpoint.walkRank_le _)
  have count : (Database.revisionSeed gate candidate execution now).gateRevisionCount =
      gate.gateRevisionCount + 1 := rfl
  have allowed : allowedGateRevisions - gate.gateRevisionCount =
      allowedGateRevisions - (gate.gateRevisionCount + 1) + 1 := by
    rw [allowedGateRevisions]
    omega
  unfold StageCheckpoint.rank
  rw [count, allowed, Nat.succ_mul]
  omega

/-- A checkpoint that starts a new pass is ranked below the front it replaces. -/
theorem RestartChange.rank_lt (front : AtFront db identity last)
    (change : RestartChange env identity db stored) : stored.rank < last.rank := by
  cases change with
  | recover configured standing current isFailed retryable restartStanding bounded =>
      have isLast := front.eq_of_open standing current (.inl isFailed.unsettled.2.2)
      rw [isLast] at bounded isFailed retryable ⊢
      exact recoverySeed_rank_lt isFailed retryable bounded front.origin
  | @revise gate candidate execution now standing current stops bounded candidateStored =>
      have sameStage := Database.stage_of_get current
      have isLast := front.eq_of_open (sameStage ▸ standing) (sameStage ▸ current) (.inr stops)
      rw [isLast] at bounded ⊢
      exact revisionSeed_rank_lt bounded

/-- A checkpoint that starts a new pass is a front. -/
theorem RestartChange.atFront (change : RestartChange env identity db stored)
    (settles : Settles db after identity stored) : AtFront after identity stored := by
  have standing := change.standing
  cases change with
  | recover => exact settles.atFront standing rfl (by simp [StageCheckpoint.recoverySeed])
  | revise => exact settles.atFront standing rfl fun _ => rfl

/-- A checkpoint that carries the lineage of another on, no further from its end. -/
structure CarriesOn (last stored : StageCheckpoint) : Prop where
  gateRevisionCount : stored.gateRevisionCount = last.gateRevisionCount
  recoveryLineageId : stored.recoveryLineageId = last.recoveryLineageId
  recoveryOriginStage : stored.recoveryOriginStage = last.recoveryOriginStage
  attempts : last.recoveryLineageId ≠ none → stored.attemptRank ≤ last.attemptRank
  reached : last.reached ≤ stored.reached

theorem CarriesOn.rank_le (carries : CarriesOn last stored) : stored.rank ≤ last.rank := by
  apply StageCheckpoint.rank_le_of_walkRank carries.gateRevisionCount
  unfold StageCheckpoint.walkRank
  rw [carries.recoveryLineageId, carries.recoveryOriginStage]
  split
  · rename_i lineage origin someLineage someOrigin
    apply Nat.add_le_add_left
    exact carries.attempts (by simp [someLineage])
  · apply Nat.mul_le_mul_left
    exact Nat.sub_le_sub_left carries.reached _

theorem StageCheckpoint.attemptRank_le (same : stored.attemptNumber = last.attemptNumber)
    (pending : last.status = .pending → stored.status = .pending) :
    stored.attemptRank ≤ last.attemptRank := by
  unfold StageCheckpoint.attemptRank
  rw [same]
  split
  · exact Nat.le_refl _
  · apply Nat.add_le_add_left
    by_cases isPending : last.status = .pending
    · exact Nat.le_of_eq (by rw [if_pos isPending, if_pos (pending isPending)])
    · rw [if_neg isPending]
      split <;> decide

theorem StageCheckpoint.attemptRank_begin
    (next : stored.attemptNumber = last.attemptNumber + 1)
    (isPending : last.status = .pending) : stored.attemptRank ≤ last.attemptRank := by
  have attempts : maxRecoveryAttempts = 3 := rfl
  unfold StageCheckpoint.attemptRank
  rw [next, if_pos isPending, attempts]
  split
  · exact Nat.zero_le _
  · split <;> split <;> omega

theorem SameAttempt.carriesOn (same : SameAttempt last stored)
    (settled : last.status ≠ .pending) (closed : last.Closed → stored.Closed) :
    CarriesOn last stored := by
  constructor
  · exact same.gateRevisionCount
  · exact same.recoveryLineageId
  · exact same.recoveryOriginStage
  · exact fun _ => StageCheckpoint.attemptRank_le same.attemptNumber
      fun pending => absurd pending settled
  · unfold StageCheckpoint.reached
    rw [same.stage]
    by_cases isClosed : last.Closed
    · exact Nat.le_of_eq (by rw [if_pos isClosed, if_pos (closed isClosed)])
    · rw [if_neg isClosed]
      split
      · exact Nat.le_succ _
      · exact Nat.le_refl _

/-- Completing a running stage ends the lineage that began there. -/
theorem completed_rank_le {result : StageResult} {now : Nat}
    (running : last.status = .running)
    (origin : last.recoveryLineageId = none → last.recoveryOriginStage = none) :
    (last.completed result now).rank ≤ last.rank := by
  have isOpen := StageCheckpoint.not_closed_of_unfinished (.inr running)
  by_cases ends : last.recoveryOriginStage = some last.stage
  · have facts : (last.completed result now).gateRevisionCount = last.gateRevisionCount
        ∧ (last.completed result now).recoveryOriginStage = none
        ∧ (last.completed result now).stage = last.stage
        ∧ (last.completed result now).Closed := by
      rw [StageCheckpoint.completed, if_pos ends]
      exact ⟨rfl, rfl, rfl, .inl rfl⟩
    obtain ⟨revisions, noOrigin, sameStage, closed⟩ := facts
    apply StageCheckpoint.rank_le_of_walkRank revisions
    rw [StageCheckpoint.walkRank_noOrigin noOrigin, StageCheckpoint.reached, if_pos closed,
      sameStage]
    cases lineage : last.recoveryLineageId with
    | none =>
        rw [origin lineage] at ends
        cases ends
    | some lineageId =>
        rw [StageCheckpoint.walkRank_lineage lineage ends]
        exact Nat.le_add_right _ _
  · have same : SameAttempt last (last.completed result now) := by
      rw [StageCheckpoint.completed, if_neg ends]
      constructor <;> first | rfl | exact .inr rfl
    have carries : CarriesOn last (last.completed result now) :=
      same.carriesOn (by simp [running]) fun closed => absurd closed isOpen
    exact carries.rank_le

/-- A pending front begins its next attempt. -/
theorem runningCheckpoint_again {inputRefs : List StoredDataRef} {attemptId : String}
    {inheritFrom : Option StageCheckpoint} {now : Nat}
    (current : db.get identity last.stage = some last) (pending : last.status = .pending) :
    CarriesOn last
      (db.runningCheckpoint identity last.stage inputRefs attemptId inheritFrom now) := by
  constructor
  · simp [Database.runningCheckpoint, current]
  · simp [Database.runningCheckpoint, current]
  · simp [Database.runningCheckpoint, current]
  · intro _
    apply StageCheckpoint.attemptRank_begin _ pending
    simp [Database.runningCheckpoint, current]
  · rw [StageCheckpoint.reached_open (StageCheckpoint.not_closed_of_unfinished (.inl pending))]
    exact StageCheckpoint.le_reached rfl

/-- The stage after a successful front begins its first attempt. -/
theorem runningCheckpoint_next {stage : SimpleStage} {inputRefs : List StoredDataRef}
    {attemptId : String} {now : Nat} (missing : db.get identity stage = none)
    (before : last.stage.index < stage.index) (succeeded : last.status = .succeeded) :
    CarriesOn last (db.runningCheckpoint identity stage inputRefs attemptId (some last) now) := by
  constructor
  · simp [Database.runningCheckpoint, missing]
  · simp [Database.runningCheckpoint, missing]
  · simp [Database.runningCheckpoint, missing]
  · intro lineage
    apply StageCheckpoint.attemptRank_le
    · simp [Database.runningCheckpoint, missing, lineage]
    · intro pending
      rw [succeeded] at pending
      cases pending
  · have closed : last.Closed := .inl succeeded
    rw [StageCheckpoint.reached, if_pos closed]
    exact Nat.le_trans before (StageCheckpoint.le_reached rfl)

end Ranks

/-! ## Moves keep the rank below -/

section Moves

variable {last stored : StageCheckpoint}

theorem AtFront.congr (front : AtFront db identity last)
    (same : ∀ stage, after.get identity stage = db.get identity stage) :
    AtFront after identity last := by
  constructor
  · exact (same _).trans front.current
  · exact front.standing.congr fun other _ => same other
  · exact fun other above => (same other).trans (front.noneAbove other above)
  · exact front.version
  · exact front.origin

/-- With a recovery coordinator the loop invalidates nothing at the front or below it. -/
theorem AtFront.shrinks_nothing (front : AtFront db identity last)
    (configured : env.recovery ≠ none) {stage : SimpleStage}
    (standing : Standing db identity stage)
    (dropped : ∀ checkpoint, db.get identity stage = some checkpoint →
      checkpoint.stageVersion ≠ stage.stageVersion
        ∨ env.recovery = none ∧ checkpoint.status ≠ .pending
          ∧ checkpoint.status ≠ .succeeded)
    (shrinks : Shrinks db after identity stage) (other : SimpleStage) :
    after.get identity other = db.get identity other := by
  have stale : ∀ checkpoint, db.get identity stage = some checkpoint →
      checkpoint.stageVersion ≠ stage.stageVersion := by
    intro checkpoint stored
    exact (dropped checkpoint stored).resolve_right fun unset => configured unset.1
  have above : last.stage.index < stage.index := by
    rcases Nat.lt_trichotomy stage.index last.stage.index with before | same | above
    · obtain ⟨checkpoint, stored, -, version, -⟩ := front.passed standing before
      exact absurd version (stale checkpoint stored)
    · rw [SimpleStage.index_inj] at same
      rw [same] at stale
      exact absurd front.version (stale last front.current)
    · exact above
  rw [shrinks]
  split
  · exact (front.noneAbove other (Nat.lt_of_lt_of_le above ‹_›)).symm
  · rfl

/-- Every checkpoint a move stores at the front keeps the rank below. -/
theorem Change.front (front : AtFront db identity last) (configured : env.recovery ≠ none)
    {events : List TraceEvent} (change : Change env identity db events stored)
    (standing : Standing db identity stored.stage) :
    stored.stageVersion = stored.stage.stageVersion
      ∧ (stored.recoveryLineageId = none → stored.recoveryOriginStage = none)
      ∧ stored.rank ≤ last.rank := by
  cases change with
  | restart change =>
      refine ⟨?_, ?_, Nat.le_of_lt (change.rank_lt front)⟩
      · cases change <;> rfl
      · cases change with
        | recover => simp [StageCheckpoint.recoverySeed]
        | revise => exact fun _ => rfl
  | edit current settled unpassed same status closed =>
      have isLast := front.eq_of_open (same.stage ▸ standing) current unpassed
      rw [isLast] at same closed settled
      refine ⟨?_, ?_, (same.carriesOn settled closed).rank_le⟩
      · rw [same.stageVersion, same.stage]
        exact front.version
      · rw [same.recoveryLineageId, same.recoveryOriginStage]
        exact front.origin
  | @complete checkpoint result now standingHere current running =>
      have isLast := front.eq_of_open standingHere current (.inl (by simp [running]))
      rw [isLast] at running ⊢
      refine ⟨?_, ?_, completed_rank_le running front.origin⟩
      · rw [StageCheckpoint.completed_stageVersion, StageCheckpoint.completed_stage]
        exact front.version
      · rw [StageCheckpoint.completed]
        split
        · exact fun _ => rfl
        · exact front.origin
  | @replay checkpoint _ standingHere current unsettled revivable copy =>
      have isLast := front.eq_of_open standingHere current (.inl unsettled.2)
      rw [isLast] at copy unsettled revivable
      have isOpen : ¬ last.Closed := fun closed => closed.elim unsettled.2 revivable
      have facts : stored.stageVersion = stored.stage.stageVersion
          ∧ stored.recoveryLineageId = last.recoveryLineageId
          ∧ stored.recoveryOriginStage = last.recoveryOriginStage
          ∧ CarriesOn last stored := by
        rcases copy with ⟨rfl, version⟩ | rfl
        · refine ⟨version, rfl, rfl, rfl, rfl, rfl, fun _ => ?_, ?_⟩
          · exact StageCheckpoint.attemptRank_le rfl fun _ => rfl
          · rw [StageCheckpoint.reached_open isOpen]
            exact StageCheckpoint.le_reached rfl
        · refine ⟨rfl, rfl, rfl, rfl, rfl, rfl, fun _ => ?_, ?_⟩
          · exact StageCheckpoint.attemptRank_le rfl fun _ => rfl
          · rw [StageCheckpoint.reached_open isOpen]
            exact StageCheckpoint.le_reached rfl
      obtain ⟨version, lineage, origin, carries⟩ := facts
      rw [lineage, origin]
      exact ⟨version, front.origin, carries.rank_le⟩
  | @start stage fresh now base standingHere startable cleared =>
      have carries : CarriesOn last
          (base.runningCheckpoint identity stage
            (stageInputs env db identity stage (db.get identity stage))
            (selectAttemptId stage (db.get identity stage) (db.preceding identity stage) fresh)
            (inheritSource (db.get identity stage) (db.preceding identity stage)) now) := by
        cases found : db.get identity stage with
        | some checkpoint =>
            have pending : checkpoint.status = .pending :=
              (startable checkpoint found).resolve_right fun unset => configured unset.1
            have sameStage := Database.stage_of_get found
            subst sameStage
            have isLast := front.eq_of_open standingHere found (.inl (by simp [pending]))
            subst isLast
            rw [found, Option.map_some, pending, if_pos rfl] at cleared
            subst cleared
            exact runningCheckpoint_again front.current pending
        | none =>
            have above : last.stage.index < stage.index := by
              rcases Nat.lt_trichotomy stage.index last.stage.index with before | same | above
              · obtain ⟨checkpoint, stored, -⟩ := front.passed standingHere before
                rw [found] at stored
                cases stored
              · rw [SimpleStage.index_inj] at same
                rw [same, front.current] at found
                cases found
              · exact above
            obtain ⟨passed, stored, succeeded, -⟩ :=
              (standingHere.walked last.stage front.standing.hypothesisStage above).resolve_left
                front.standing.kept
            rw [front.current] at stored
            cases stored
            have preceding : db.preceding identity stage = some last :=
              preceding_eq front.current above fun other higher _ => front.noneAbove other higher
            have missing : base.get identity stage = none := by
              rw [cleared, found, Option.map_none, if_neg (by simp), Database.get_deleteFrom,
                if_pos (Nat.le_refl _)]
            rw [preceding]
            exact runningCheckpoint_next missing above succeeded
      refine ⟨rfl, ?_, carries.rank_le⟩
      rw [carries.recoveryLineageId, carries.recoveryOriginStage]
      exact front.origin
  | repair unconfigured => exact absurd unconfigured configured

/-- Every move keeps a front, and never raises its rank. -/
theorem Move.front {before after : Snapshot} (front : AtFront before.db identity last)
    (configured : env.recovery ≠ none) (move : Move env identity before after) :
    ∃ next, AtFront after.db identity next ∧ next.rank ≤ last.rank := by
  obtain ⟨events, -, effect⟩ := move.effect
  have settled : ∀ {stored : StageCheckpoint}, Change env identity before.db events stored →
      Standing before.db identity stored.stage →
      Settles before.db after.db identity stored →
      ∃ next, AtFront after.db identity next ∧ next.rank ≤ last.rank := by
    intro stored change standing settles
    obtain ⟨version, origin, below⟩ := change.front front configured standing
    exact ⟨stored, settles.atFront standing version origin, below⟩
  cases effect with
  | unchanged same => exact ⟨last, front.congr same, Nat.le_refl _⟩
  | shrinks standing dropped shrinks =>
      have same := front.shrinks_nothing configured standing dropped shrinks
      exact ⟨last, front.congr same, Nat.le_refl _⟩
  | settles change visits settles => exact settled change (visits configured) settles
  | @updates previous stored change current unpassed updates =>
      rcases front.updates current unpassed updates with replaced | unvisited
      · obtain ⟨rfl, settles⟩ := replaced
        have sameStage := Database.stage_of_get current
        exact settled change (sameStage ▸ front.standing) settles
      · exact ⟨last, unvisited.2, Nat.le_refl _⟩

/-- Every restart makes a front of a lower rank. -/
theorem Restart.front {before after : Database} (front : AtFront before identity last)
    (restarts : Restart env identity before after) :
    ∃ next, AtFront after identity next ∧ next.rank < last.rank := by
  obtain ⟨stored, change, settles⟩ := restarts.effect
  exact ⟨stored, change.atFront settles, change.rank_lt front⟩

end Moves

/-! ## Passes -/

/-- The rank of the front of a snapshot. -/
def FrontRanked (identity : CheckpointIdentity) (snapshot : Snapshot) (rank : Nat) : Prop :=
  ∃ last, AtFront snapshot.db identity last ∧ last.rank = rank

/-- Moves and restarts are ranked. -/
theorem moves_ranking (configured : env.recovery ≠ none) :
    Ranking (Move env identity)
      (fun before after => Restart env identity before.db after.db)
      (FrontRanked identity) := by
  constructor
  · intro before after rank ranked move
    obtain ⟨last, front, rfl⟩ := ranked
    obtain ⟨next, nextFront, below⟩ := move.front front configured
    exact ⟨next.rank, below, next, nextFront, rfl⟩
  · intro before after rank ranked restarts
    obtain ⟨last, front, rfl⟩ := ranked
    obtain ⟨next, nextFront, below⟩ := restarts.front front
    exact ⟨next.rank, below, next, nextFront, rfl⟩

theorem PassChain.rounds {passes : Nat} {before after : Snapshot}
    (chain : PassChain env identity passes before after) :
    Rounds (Move env identity) (fun before after => Restart env identity before.db after.db)
      passes before after := by
  induction chain with
  | nil => exact .nil
  | cons restarted _ _ ih =>
      obtain ⟨last, moves, restarts, -⟩ := restarted
      exact .cons moves restarts ih

/-- However the tables start, no call prepares more than this many passes. -/
theorem PassChain.length_le {passes : Nat} {before after : Snapshot}
    (configured : env.recovery ≠ none)
    (chain : PassChain env identity passes before after) : passes ≤ rankBound + 1 := by
  cases chain with
  | nil => exact Nat.zero_le _
  | cons restarted _ rest =>
      obtain ⟨last, moves, restarts, -⟩ := restarted
      obtain ⟨stored, change, settles⟩ := restarts.effect
      have front := change.atFront settles
      have ranked : FrontRanked identity _ stored.rank := ⟨stored, front, rfl⟩
      have bounded := (moves_ranking configured).rounds_le ranked rest.rounds
      exact Nat.succ_le_succ (Nat.le_trans bounded stored.rank_le)

theorem PassChain.invocations_le {passes : Nat} {before after : Snapshot}
    (chain : PassChain env identity passes before after) :
    invocations after.trace ≤ invocations before.trace + passes * hypothesisStages.length := by
  induction chain with
  | nil => exact Nat.le_add_right _ _
  | cons _ bounded _ ih =>
      rw [Nat.succ_mul]
      omega

/-! ## The call -/

/-- More passes than any call prepares. -/
def passBound : Nat := rankBound + 2

/-- A call whose passes are not used up does not depend on their number. -/
theorem runPasses_stable {passes more : Nat} {world : World}
    (finished : (runPasses env identity passes world).1 ≠ .ok none) (enough : passes ≤ more) :
    runPasses env identity more world = runPasses env identity passes world := by
  induction passes generalizing more world with
  | zero => exact absurd rfl finished
  | succ passes ih =>
      obtain ⟨more, rfl⟩ := Nat.exists_eq_add_of_le' (Nat.le_trans (Nat.succ_pos _) enough)
      rcases pass : stagePass env identity hypothesisStages world with ⟨result, after⟩
      cases result with
      | error reason =>
          rw [runPasses, runPasses, Prog.bind_error pass, Prog.bind_error pass]
      | ok step =>
          rw [runPasses, Prog.bind_ok pass] at finished
          rw [runPasses, runPasses, Prog.bind_ok pass, Prog.bind_ok pass]
          cases step with
          | next => rfl
          | finished outcome => rfl
          | restart => exact ih finished (Nat.le_of_succ_le_succ enough)

theorem resumeFromRecords_stable {passes more : Nat} {world : World}
    (finished : (resumeFromRecords env passes identity world).1 ≠ .ok none)
    (enough : passes ≤ more) :
    resumeFromRecords env more identity world =
      resumeFromRecords env passes identity world := by
  rcases recorded : recordedPocTerminal env identity world with ⟨result, after⟩
  cases result with
  | error reason =>
      rw [resumeFromRecords, resumeFromRecords, Prog.bind_error recorded,
        Prog.bind_error recorded]
  | ok found =>
      rw [resumeFromRecords, Prog.bind_ok recorded] at finished
      rw [resumeFromRecords, resumeFromRecords, Prog.bind_ok recorded, Prog.bind_ok recorded]
      cases found with
      | some outcome => rfl
      | none => exact runPasses_stable finished enough

/-- With a recovery coordinator a call never repairs a PoC pair. -/
theorem resumeHypothesis_configured {passes : Nat} (configured : env.recovery ≠ none) :
    resumeHypothesis env passes identity = resumeFromRecords env passes identity := by
  have isSome : ¬ env.recovery.isNone = true := by
    rw [Option.isNone_iff_eq_none]
    exact configured
  unfold resumeHypothesis
  rw [if_neg isSome]

/-- A call that may prepare enough passes ends within them. -/
theorem resumeFromRecords_ends {world : World} (configured : env.recovery ≠ none) :
    (resumeFromRecords env passBound identity world).1 ≠ .ok none
      ∧ invocations (resumeFromRecords env passBound identity world).2.trace
        ≤ invocations world.trace + passBound * hypothesisStages.length := by
  have reached : ∀ {after : Snapshot},
      AfterPasses env identity passBound world.toSnapshot after →
      invocations after.trace
        ≤ invocations world.trace + passBound * hypothesisStages.length := by
    intro after reached
    obtain ⟨passes, between, -, chain, advance⟩ := reached
    have prepared := chain.length_le configured
    have calls := chain.invocations_le
    have last := advance.2
    have total : (passes + 1) * hypothesisStages.length ≤
        passBound * hypothesisStages.length :=
      Nat.mul_le_mul_right _ (Nat.succ_le_succ prepared)
    rw [Nat.succ_mul] at total
    omega
  have spec : Prog.wp (resumeFromRecords env passBound identity)
      (fun outcome after => Ended env identity passBound world.toSnapshot outcome
        after.toSnapshot)
      (fun _ after => AfterPasses env identity passBound world.toSnapshot after.toSnapshot)
      world := spec_resumeFromRecords world rfl
  unfold Prog.wp at spec
  rcases run : resumeFromRecords env passBound identity world with ⟨result, after⟩
  rw [run] at spec
  cases result with
  | error reason => exact ⟨by simp, reached spec⟩
  | ok outcome =>
      cases outcome with
      | none =>
          have bounded := PassChain.length_le configured spec
          exact absurd bounded (Nat.not_succ_le_self _)
      | some outcome => exact ⟨by simp, reached spec.1⟩

/-- With a recovery coordinator every call ends, whatever is stored, whatever the handlers do
and whatever the coordinator decides: more passes than the bound change nothing, and the
handler calls are bounded by the stages, the attempts and the Gate revisions. -/
theorem resumeHypothesis_terminates (configured : env.recovery ≠ none)
    (identity : CheckpointIdentity) (world : World) :
    ∃ result after,
      (∀ passes, passBound ≤ passes →
        resumeHypothesis env passes identity world = (result, after))
      ∧ result ≠ .ok none
      ∧ invocations after.trace
        ≤ invocations world.trace + passBound * hypothesisStages.length := by
  have ends : (resumeFromRecords env passBound identity world).1 ≠ .ok none ∧ _ :=
    resumeFromRecords_ends configured
  refine ⟨_, _, fun passes enough => ?_, ends.1, ends.2⟩
  rw [resumeHypothesis_configured configured]
  exact resumeFromRecords_stable ends.1 enough

end Sastsimi.Runtime

namespace Sastsimi.Runtime.Concrete

open SimpleStage Lib

/-- A coordinator that always retries the failed stage. -/
def alwaysRetry : Nat → StageCheckpoint → StageFailure → Option RecoveryResolution :=
  fun _ _ _ => some ⟨.retryStage, artifact "decision"⟩

/-- The first stage fails whenever it is called, and every failure is retried. -/
def failingRun : RunnerEnv :=
  runner (fun _ => some fun _ _ _ => .stageFailed { code := "TIMEOUT", retryable := true })
    (some alwaysRetry)

/-- A handler that never succeeds does not keep the call from ending. -/
theorem failingRun_terminates :
    ∃ result after,
      (∀ passes, passBound ≤ passes →
        resumeHypothesis failingRun passes hypothesis registration = (result, after))
      ∧ result ≠ .ok none
      ∧ invocations after.trace
        ≤ invocations registration.trace + passBound * hypothesisStages.length :=
  resumeHypothesis_terminates (Option.some_ne_none alwaysRetry) hypothesis registration

end Sastsimi.Runtime.Concrete
