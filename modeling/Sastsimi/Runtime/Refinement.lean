import Sastsimi.Runtime.SnapshotSpec

/-!
# Every call of the runner is a sequence of moves

The specification of each runner program: from the assertion that holds where the loop calls
it, the snapshot it leaves behind, also when it raises or the process dies, is reached by
moves.  What a returned outcome says about the tables is part of the same specification.
-/

namespace Sastsimi.Runtime

open SimpleStage Lib

variable [Platform] {env : RunnerEnv} {identity : CheckpointIdentity} {start : Snapshot}

/-! ## Terminal evidence -/

theorem stage_of_terminalInitialOutcome {checkpoint : StageCheckpoint}
    (terminal : terminalInitialOutcome (some checkpoint) ≠ none) :
    checkpoint.stage = verificationInitialDone ∧ checkpoint.status = .succeeded := by
  rw [terminalInitialOutcome] at terminal
  split at terminal
  · rename_i facts
    exact ⟨facts.1, facts.2.1⟩
  · exact absurd rfl terminal

theorem stage_of_terminalPocOutcome {checkpoint : StageCheckpoint}
    (terminal : terminalPocOutcome (some checkpoint) ≠ none) :
    checkpoint.stage = pocExecutionDone ∧ checkpoint.status = .succeeded := by
  rw [terminalPocOutcome] at terminal
  split at terminal
  · rename_i facts
    exact ⟨facts.1, facts.2.1⟩
  · exact absurd rfl terminal

theorem stage_of_terminalGateOutcome {checkpoint : StageCheckpoint}
    (terminal : terminalGateOutcome (some checkpoint) ≠ none) :
    checkpoint.stage = techGateDone ∧ checkpoint.status = .succeeded := by
  rw [terminalGateOutcome] at terminal
  split at terminal
  · exact absurd rfl terminal
  · rename_i facts
    simp only [not_or, not_not] at facts
    exact ⟨facts.1, facts.2.1⟩

/-- Marking a terminal success as failed evidence is a move. -/
theorem Quiet.evidenceFailure {checkpoint stored : StageCheckpoint} {failure : StageFailure}
    {now : Nat} {after : Database}
    (current : start.db.get identity checkpoint.stage = some checkpoint)
    (succeeded : checkpoint.status = .succeeded) (rests : checkpoint.RestsOnEvidence)
    (evidence : failure.code ∈ evidenceErrors ∧ failure.retryable = false)
    (committed : start.db.markFailure checkpoint failure .blocked now = .ok (stored, after)) :
    Quiet env identity start { start with db := after } :=
  Quiet.single
    (.fail current (.inr ⟨succeeded, rests.stops, evidence.1, evidence.2, rests⟩) committed)

theorem spec_verifiedInitialTerminal {checkpoint : StageCheckpoint}
    (current : start.db.get identity checkpoint.stage = some checkpoint)
    (terminal : terminalInitialOutcome (some checkpoint) ≠ none) :
    Spec (verifiedInitialTerminal env checkpoint) (Returned env identity start)
      (Quiet env identity start) start := by
  obtain ⟨isInitial, succeeded⟩ := stage_of_terminalInitialOutcome terminal
  have finished : Returned env identity start
      { currentStage := checkpoint.stage, status := .succeeded } start :=
    ⟨.refl, fun _ => .inl ⟨checkpoint, isInitial ▸ current, terminal⟩⟩
  unfold verifiedInitialTerminal
  split
  · exact Spec.pure finished
  · refine Spec.bind (Spec.tick .refl fun moment => ?_)
    split
    · exact Spec.pure finished
    · refine Spec.ite (fun _ => ?_) fun _ => Spec.exit .refl
      refine Spec.bind (Spec.transact .refl fun now stored after committed => ?_)
      refine Spec.pure (.of_status ?_ (by simp))
      exact .evidenceFailure current succeeded (.inl terminal) ⟨by simp [evidenceErrors], rfl⟩ committed

theorem spec_verifiedPocTerminal {checkpoint : StageCheckpoint}
    (current : start.db.get identity checkpoint.stage = some checkpoint)
    (succeeded : checkpoint.status = .succeeded)
    (terminal : terminalPocOutcome (some checkpoint) ≠ none
      ∨ checkpoint.pocStopDecisionRef ≠ none) :
    Spec (verifiedPocTerminal env checkpoint) (Returned env identity start)
      (Quiet env identity start) start := by
  have rests : checkpoint.RestsOnEvidence := .inr terminal
  unfold verifiedPocTerminal
  refine Spec.bind (Spec.tick .refl fun moment => ?_)
  dsimp only
  split
  · rename_i outcome verified
    refine Spec.pure ⟨.refl, fun _ => .inr (.inl ⟨checkpoint, ?_, ?_⟩)⟩
    all_goals
      have proved : terminalPocOutcome (some checkpoint) ≠ none := by
        intro missing
        rcases terminal with terminal | stop
        · exact terminal missing
        · split at verified
          · cases verified
          · obtain ⟨ref, recorded⟩ := Option.ne_none_iff_exists'.1 stop
            simp [SimpleArtifactRepository.verifiedTerminalPocOutcome, missing, recorded]
              at verified
    · rw [← (stage_of_terminalPocOutcome proved).1]
      exact current
    · exact proved
  · refine Spec.ite (fun _ => ?_) fun _ => Spec.exit .refl
    refine Spec.bind (Spec.transact .refl fun now stored after committed => ?_)
    refine Spec.pure (.of_status ?_ (by simp))
    refine .evidenceFailure current succeeded rests ⟨?_, rfl⟩ committed
    dsimp only
    split <;> decide

/-! ## Promotions -/

/-- A promotion either leaves everything alone or returns an outcome. -/
def Promoted (env : RunnerEnv) (identity : CheckpointIdentity) (before : Snapshot)
    (promoted : Option RunOutcome) (after : Snapshot) : Prop :=
  match promoted with
  | none => after = before
  | some outcome => Returned env identity before outcome after

theorem spec_promoteInitialEnvironmentInconclusive {checkpoint : StageCheckpoint}
    (owned : checkpoint.identity = identity) :
    Spec (promoteInitialEnvironmentInconclusive env checkpoint) (Promoted env identity start)
      (Quiet env identity start) start := by
  unfold promoteInitialEnvironmentInconclusive
  split
  · exact Spec.pure rfl
  · refine Spec.ite (fun _ => Spec.pure rfl) fun _ => ?_
    refine Spec.bind (Spec.tick .refl fun moment => Spec.bind ?_)
    refine Spec.attempt .refl (Spec.pure rfl) fun now stored after committed => ?_
    have quiet : Quiet env identity start { start with db := after } :=
      .single (.promoteInitial owned committed)
    obtain ⟨-, -, -, ⟨block, shape⟩, terminal, events, stores⟩ :=
      Database.promoteInitialEnvironmentInconclusive_ok committed
    have storedIdentity : stored.identity = identity := by rw [shape]; exact owned
    have current : after.get identity stored.stage = some stored := by
      rw [stores.get storedIdentity, if_pos rfl]
    refine Spec.bind (Spec.mono (spec_verifiedInitialTerminal current terminal) ?_ ?_)
    · intro outcome final returned
      exact Spec.pure (returned.after_quiet quiet)
    · intro final reached
      exact quiet.trans reached

theorem spec_promoteStoppedInconclusivePoc {checkpoint : StageCheckpoint}
    (owned : checkpoint.identity = identity) :
    Spec (promoteStoppedInconclusivePoc env checkpoint) (Promoted env identity start)
      (Quiet env identity start) start := by
  unfold promoteStoppedInconclusivePoc
  split
  · exact Spec.pure rfl
  · refine Spec.ite (fun _ => Spec.pure rfl) fun _ => ?_
    refine Spec.bind (Spec.tick .refl fun moment => ?_)
    refine Spec.attempt .refl rfl fun now stored after committed => ?_
    refine ⟨.single (.promotePoc owned committed), fun _ => .inr (.inl ⟨stored, ?_, ?_⟩)⟩
    all_goals
      obtain ⟨-, -, -, ⟨stop, shape⟩, terminal, events, stores⟩ :=
        Database.promoteInconclusiveExecution_ok committed
    · have storedIdentity : stored.identity = identity := by rw [shape]; exact owned
      rw [stores.get storedIdentity, if_pos (stage_of_terminalPocOutcome terminal).1.symm]
    · exact terminal

theorem spec_hasPriorPocRecoveryDecision {checkpoint : StageCheckpoint} :
    Spec (hasPriorPocRecoveryDecision env checkpoint)
      (fun decided after => after = start
        ∧ (decided = true → checkpoint.status = .blocked))
      (Quiet env identity start) start := by
  unfold hasPriorPocRecoveryDecision
  refine Spec.ite (fun _ => Spec.pure ⟨rfl, by simp⟩) fun considered => ?_
  simp only [not_or, not_not] at considered
  split
  · exact Spec.pure ⟨rfl, by simp⟩
  · refine Spec.bind (Spec.tick .refl fun moment => ?_)
    exact Spec.bind (Spec.tables (Spec.pure ⟨rfl, fun _ => considered.2.1⟩))

/-! ## Recovery -/

/-- A recovery either prepared a new pass or returned an outcome. -/
def Recovered (env : RunnerEnv) (identity : CheckpointIdentity) (before : Snapshot)
    (recovered : Option RunOutcome) (after : Snapshot) : Prop :=
  match recovered with
  | none => QuietRestart env identity before after
  | some outcome => Returned env identity before outcome after

theorem Recovered.after_quiet {before between after : Snapshot}
    {recovered : Option RunOutcome} (first : Quiet env identity before between)
    (second : Recovered env identity between recovered after) :
    Recovered env identity before recovered after := by
  cases recovered with
  | none => exact QuietRestart.after_quiet first second
  | some outcome => exact Returned.after_quiet first second

theorem spec_recoverFailed {failed : StageCheckpoint} {failure : StageFailure}
    {originalStatus : StageStatus}
    (standing : Standing start.db identity failed.stage)
    (current : start.db.get identity failed.stage = some failed)
    (isFailed : failed.Failed) (openStatus : originalStatus ≠ .succeeded)
    (carried : failed.retryable = failure.retryable) :
    Spec (recoverFailed env failed failure originalStatus) (Recovered env identity start)
      (Quiet env identity start) start := by
  have owned := Database.identity_of_get current
  unfold recoverFailed
  dsimp only
  split
  · exact Spec.pure (Returned.of_status .refl openStatus)
  · rename_i coordinator configured
    refine Spec.ite (fun _ => Spec.pure (Returned.of_status .refl openStatus))
      fun retryable => ?_
    have retryable : failed.retryable = true := carried.trans (not_not.1 retryable)
    refine Spec.ite (fun _ => ?_) fun bounded => ?_
    · refine Spec.bind (Spec.transact .refl fun now stored after committed => ?_)
      exact Spec.pure (Returned.of_status (.single (.exhaust current isFailed retryable committed))
        (by simp))
    · refine Spec.bind (Spec.tick .refl fun moment => ?_)
      split
      · exact Spec.exit .refl
      · rename_i resolution decided
        refine Spec.ite (fun _ => ?_) fun _ => ?_
        · refine Spec.bind (Spec.transact .refl fun now stored after committed => ?_)
          have quiet : Quiet env identity start { start with db := after } :=
            .single (.stop current isFailed committed)
          have storedIdentity : stored.identity = identity := by
            rw [(Database.recordRecoveryStop_ok committed).1]
            exact owned
          refine Spec.bind (Spec.mono
            (spec_promoteInitialEnvironmentInconclusive storedIdentity) ?_ fun _ => quiet.trans)
          intro promoted final found
          cases promoted with
          | some outcome => exact Spec.pure (Returned.after_quiet quiet found)
          | none =>
              cases found
              refine Spec.bind (Spec.mono
                (spec_promoteStoppedInconclusivePoc storedIdentity) ?_ fun _ => quiet.trans)
              intro promoted final found
              cases promoted with
              | some outcome => exact Spec.pure (Returned.after_quiet quiet found)
              | none =>
                  cases found
                  exact Spec.pure (Returned.of_status quiet openStatus)
        · split
          · refine Spec.bind (Spec.transactUnit .refl fun now after committed => ?_)
            exact Spec.pure
              (Returned.of_status (.single (.decide current isFailed committed)) openStatus)
          · rename_i restartStage target
            refine Spec.bind (Spec.transact .refl fun now stored after committed => ?_)
            refine Spec.pure (QuietRestart.single
              (.recover ?_ standing current retryable (Nat.not_le.1 bounded) target committed))
            rw [configured]
            exact Option.some_ne_none _

theorem spec_recoverOrStop {checkpoint : StageCheckpoint} {failure : StageFailure}
    {status : StageStatus}
    (standing : Standing start.db identity checkpoint.stage)
    (current : start.db.get identity checkpoint.stage = some checkpoint)
    (running : checkpoint.status = .running) :
    Spec (recoverOrStop env checkpoint failure status) (Recovered env identity start)
      (Quiet env identity start) start := by
  refine Spec.bind (Spec.transact .refl fun now stored after committed => ?_)
  have quiet : Quiet env identity start { start with db := after } :=
    .single (.fail current (.inl running) committed)
  obtain ⟨failing, shape, event, -, stores⟩ := Database.markFailure_ok committed
  have ownedHere := Database.identity_of_get current
  have owned : stored.identity = identity := by rw [shape]; exact ownedHere
  have sameStage : stored.stage = checkpoint.stage := by rw [shape]; rfl
  have isFailed : stored.Failed := by rw [shape]; exact failing
  have openStatus : status ≠ .succeeded := by
    rintro rfl
    simp at failing
  have carried : stored.retryable = failure.retryable := by rw [shape]; rfl
  refine Spec.mono (spec_recoverFailed ?_ ?_ isFailed openStatus carried)
    (fun recovered final found => found.after_quiet quiet) fun _ => quiet.trans
  · exact Standing.congr (stores.agreesBefore owned) (sameStage ▸ standing)
  · exact (stores.get owned).trans (if_pos rfl)

/-- A blocked initial stage that waits for its base image keeps an older stage version. -/
def StageCheckpoint.AwaitsBaseImage (checkpoint : StageCheckpoint) : Prop :=
  checkpoint.stage = verificationInitialDone
    ∧ checkpoint.status = .blocked
    ∧ checkpoint.errorCode = some "POC_OFFLINE_BASE_IMAGE_UNAVAILABLE"

theorem spec_confirmedCodexCleanupAllowsReplay {checkpoint : StageCheckpoint} :
    Spec (confirmedCodexCleanupAllowsReplay env checkpoint)
      (fun cleaned after => after = start
        ∧ (cleaned = true → ¬ checkpoint.AwaitsBaseImage ∧ ¬ checkpoint.Refuted))
      (Quiet env identity start) start := by
  unfold confirmedCodexCleanupAllowsReplay
  split
  · exact Spec.pure ⟨rfl, by simp⟩
  · refine Spec.bind (Spec.tick .refl fun moment => ?_)
    refine Spec.ite (fun _ => Spec.pure ⟨rfl, by simp⟩) fun _ => ?_
    refine Spec.pure ⟨rfl, ?_⟩
    intro cleaned
    have interrupted : checkpoint.status = .running
        ∨ checkpoint.errorCode = some "CODEX_PROCESS_CLEANUP_UNCONFIRMED"
        ∨ checkpoint.errorCode = some "CODEX_CALL_IN_FLIGHT_UNRESOLVED" := by
      by_contra other
      simp only [not_or] at other
      obtain ⟨settled, unconfirmed, unresolved⟩ := other
      rw [if_neg settled, if_neg unconfirmed, if_neg unresolved] at cleaned
      revert cleaned
      cases env.unresolvedCodexCall moment with
      | error reason => simp [Except.toOption]
      | ok call => cases call <;> simp [Except.toOption]
    constructor
    · rintro ⟨-, blocked, waits⟩
      rw [blocked, waits] at interrupted
      exact absurd interrupted (by decide)
    · intro refuted
      rcases interrupted with running | unconfirmed | unresolved
      · rcases refuted.1 with blocked | failed <;> simp_all
      · exact StageCheckpoint.not_refuted unconfirmed (by decide) refuted
      · exact StageCheckpoint.not_refuted unresolved (by decide) refuted

/-- `_recover_existing` lets the loop go on, prepares a new pass, or returns. -/
def Resumed (env : RunnerEnv) (identity : CheckpointIdentity) (checkpoint : StageCheckpoint)
    (before : Snapshot) (resumption : Resumption) (after : Snapshot) : Prop :=
  match resumption with
  | .proceed =>
      Quiet env identity before after
        ∧ AgreesBefore before.db after.db identity checkpoint.stage
        ∧ (after = before
            ∧ (checkpoint.status = .pending ∨ checkpoint.status = .succeeded)
          ∨ ∃ pending, after.db.get identity checkpoint.stage = some pending
            ∧ pending.status = .pending)
  | .restart => QuietRestart env identity before after
  | .finished outcome => Returned env identity before outcome after

/-- Replacing a checkpoint by its replay copy lets the loop go on at its stage. -/
theorem Resumed.replay {checkpoint pending : StageCheckpoint} {after : Database}
    (standing : Standing start.db identity checkpoint.stage)
    (current : start.db.get identity checkpoint.stage = some checkpoint)
    (unsettled : checkpoint.status ≠ .pending ∧ checkpoint.status ≠ .succeeded)
    (revivable : ¬ checkpoint.Refuted)
    (copy : pending = checkpoint.forReplay
        ∧ checkpoint.stageVersion = checkpoint.stage.stageVersion
      ∨ pending = checkpoint.forUpgrade)
    (committed : start.db.replaceFrom pending = .ok after) :
    Resumed env identity checkpoint start .proceed { start with db := after } := by
  have move : Move env identity start { start with db := after } :=
    .replay standing current unsettled revivable copy committed
  have ownedHere := Database.identity_of_get current
  have owned : pending.identity = identity := by
    rcases copy with ⟨rfl, -⟩ | rfl <;> exact ownedHere
  have sameStage : pending.stage = checkpoint.stage := by
    rcases copy with ⟨rfl, -⟩ | rfl <;> rfl
  obtain ⟨isPending, shape⟩ := Database.replaceFrom_ok committed
  have reseeds : Reseeded start.db pending after := ⟨_, shape⟩
  refine ⟨.single move, sameStage ▸ reseeds.agreesBefore owned, .inr ⟨pending, ?_, isPending⟩⟩
  exact (reseeds.get owned).trans (if_pos sameStage.symm)

theorem spec_codexCallUnresolved :
    Spec (codexCallUnresolved env) (fun _ after => after = start) (Quiet env identity start)
      start := by
  refine Spec.bind (Spec.tick .refl fun moment => ?_)
  split
  · exact Spec.pure rfl
  · exact Spec.exit .refl

theorem spec_replayUnlessUnresolved {checkpoint : StageCheckpoint}
    (standing : Standing start.db identity checkpoint.stage)
    (current : start.db.get identity checkpoint.stage = some checkpoint)
    (unsettled : checkpoint.status ≠ .pending ∧ checkpoint.status ≠ .succeeded)
    (revivable : ¬ checkpoint.Refuted)
    (version : checkpoint.stageVersion = checkpoint.stage.stageVersion) :
    Spec (replayUnlessUnresolved env checkpoint) (Resumed env identity checkpoint start)
      (Quiet env identity start) start := by
  have finished : Resumed env identity checkpoint start (.finished checkpoint.outcome) start :=
    Returned.of_status .refl unsettled.2
  refine Spec.ite (fun _ => Spec.pure finished) fun _ => ?_
  refine Spec.bind (Spec.mono spec_codexCallUnresolved ?_ fun _ => id)
  rintro unresolved after rfl
  refine Spec.ite (fun _ => Spec.pure finished) fun _ => ?_
  refine Spec.bind (Spec.transactUnit .refl fun now after committed => Spec.pure ?_)
  exact .replay standing current unsettled revivable (.inl ⟨rfl, version⟩) committed

/-- A correctable environment error is not refuted evidence. -/
theorem not_refuted_of_correctable {checkpoint : StageCheckpoint}
    (correctable : correctableEnvironmentError checkpoint.errorCode = true) :
    ¬ checkpoint.Refuted := by
  simp only [correctableEnvironmentError, Bool.or_eq_true, decide_eq_true_eq] at correctable
  rcases correctable with (unsupported | invalid) | unsafe_
  · exact StageCheckpoint.not_refuted unsupported (by decide)
  · exact StageCheckpoint.not_refuted invalid (by decide)
  · exact StageCheckpoint.not_refuted unsafe_ (by decide)

theorem spec_offlineBaseReady {ready : Nat → Except PyError Bool} :
    Spec (offlineBaseReady env ready) (fun _ after => after = start)
      (Quiet env identity start) start := by
  refine Spec.bind (Spec.tick .refl fun moment => ?_)
  dsimp only
  split
  · exact Spec.pure rfl
  · exact Spec.exit .refl
  · exact Spec.pure rfl

theorem spec_recoverStoredFailure {checkpoint : StageCheckpoint}
    (standing : Standing start.db identity checkpoint.stage)
    (current : start.db.get identity checkpoint.stage = some checkpoint)
    (isFailed : checkpoint.Failed)
    (version : checkpoint.stageVersion = checkpoint.stage.stageVersion
      ∨ checkpoint.AwaitsBaseImage) :
    Spec (recoverStoredFailure env checkpoint) (Resumed env identity checkpoint start)
      (Quiet env identity start) start := by
  have unsettled : checkpoint.status ≠ .pending ∧ checkpoint.status ≠ .succeeded := by
    rcases isFailed with failed | failed <;> simp [failed]
  have finished : Resumed env identity checkpoint start (.finished checkpoint.outcome) start :=
    Returned.of_status .refl unsettled.2
  refine Spec.ite (fun waiting => ?_) fun notWaiting => ?_
  · split
    · exact Spec.pure finished
    · refine Spec.ite (fun _ => Spec.pure finished) fun _ => ?_
      refine Spec.bind (Spec.mono spec_offlineBaseReady ?_ fun _ => id)
      rintro available after rfl
      refine Spec.ite (fun _ => Spec.pure finished) fun _ => ?_
      refine Spec.bind (Spec.transactUnit .refl fun now after committed => Spec.pure ?_)
      exact .replay standing current unsettled
        (StageCheckpoint.not_refuted waiting.2.2 (by decide)) (.inr rfl) committed
  · have version := version.resolve_right notWaiting
    refine Spec.ite (fun environment => ?_) fun _ => ?_
    · exact spec_replayUnlessUnresolved standing current unsettled
        (not_refuted_of_correctable environment.2.2) version
    refine Spec.ite (fun anchor => ?_) fun _ => ?_
    · exact spec_replayUnlessUnresolved standing current unsettled
        (StageCheckpoint.not_refuted anchor.2.2.1 (by decide)) version
    refine Spec.ite (fun invalid => ?_) fun _ => ?_
    · refine Spec.ite (fun _ => ?_) fun _ => ?_
      · refine Spec.ite (fun _ => ?_) fun _ => Spec.pure finished
        refine Spec.bind (Spec.transactUnit .refl fun now after committed => Spec.pure ?_)
        exact Returned.of_status (.single (.giveUp current isFailed committed)) unsettled.2
      · refine Spec.bind (Spec.transactUnit .refl fun now after committed => Spec.pure ?_)
        exact .replay standing current unsettled
          (StageCheckpoint.not_refuted invalid.2.1 (by decide)) (.inl ⟨rfl, version⟩) committed
    · refine Spec.ite (fun _ => Spec.pure finished) fun retryable => ?_
      refine Spec.bind (Spec.mono (spec_recoverFailed standing current isFailed unsettled.2
        (not_not.1 retryable)) ?_ fun _ => id)
      intro recovered after found
      cases recovered with
      | none => exact Spec.pure found
      | some outcome => exact Spec.pure found

theorem spec_recoverExisting {checkpoint : StageCheckpoint}
    (standing : Standing start.db identity checkpoint.stage)
    (current : start.db.get identity checkpoint.stage = some checkpoint)
    (version : checkpoint.stageVersion = checkpoint.stage.stageVersion
      ∨ checkpoint.AwaitsBaseImage) :
    Spec (recoverExisting env checkpoint) (Resumed env identity checkpoint start)
      (Quiet env identity start) start := by
  have owned := Database.identity_of_get current
  refine Spec.ite
    (fun pending => Spec.pure ⟨.refl, .refl, .inl ⟨rfl, .inl pending⟩⟩) fun notPending => ?_
  refine Spec.ite (fun succeeded => Spec.pure ⟨.refl, .refl, .inl ⟨rfl, .inr succeeded⟩⟩)
    fun notSucceeded => ?_
  refine Spec.bind (Spec.mono (spec_promoteInitialEnvironmentInconclusive owned) ?_
    fun _ => id)
  intro promoted after found
  cases promoted with
  | some outcome => exact Spec.pure found
  | none =>
  cases found
  refine Spec.bind (Spec.mono (spec_promoteStoppedInconclusivePoc owned) ?_ fun _ => id)
  intro promoted after found
  cases promoted with
  | some outcome => exact Spec.pure found
  | none =>
  cases found
  refine Spec.bind (Spec.mono spec_hasPriorPocRecoveryDecision ?_ fun _ => id)
  rintro decided after ⟨rfl, -⟩
  refine Spec.ite (fun _ => Spec.pure (Returned.of_status .refl notSucceeded)) fun _ => ?_
  refine Spec.bind (Spec.mono spec_confirmedCodexCleanupAllowsReplay ?_ fun _ => id)
  rintro cleaned after ⟨rfl, notWaiting⟩
  refine Spec.ite (fun allowed => ?_) fun _ => ?_
  · refine Spec.bind (Spec.transactUnit .refl fun now after committed => Spec.pure ?_)
    exact .replay standing current ⟨notPending, notSucceeded⟩ (notWaiting allowed).2
      (.inl ⟨rfl, version.resolve_right (notWaiting allowed).1⟩) committed
  · refine Spec.ite (fun running => ?_) fun notRunning => ?_
    · refine Spec.bind (Spec.mono (spec_recoverOrStop standing current running) ?_ fun _ => id)
      intro recovered after found
      cases recovered with
      | none => exact Spec.pure found
      | some outcome => exact Spec.pure found
    · refine spec_recoverStoredFailure standing current ?_ version
      unfold StageCheckpoint.Failed
      cases shown : checkpoint.status <;> simp_all

/-! ## Stage versions -/

/-- What the loop knows about the checkpoint it goes on with at a stage. -/
def Kept (db : Database) (identity : CheckpointIdentity) (stage : SimpleStage)
    (current : Option StageCheckpoint) : Prop :=
  db.get identity stage = current
    ∧ ∀ checkpoint, current = some checkpoint →
      checkpoint.stageVersion = stage.stageVersion ∨ checkpoint.AwaitsBaseImage

/-- The stale stage-version branch returns a failure or goes on at the stage. -/
def VersionResolved (env : RunnerEnv) (identity : CheckpointIdentity) (stage : SimpleStage)
    (before : Snapshot) (resolved : RunOutcome ⊕ Option StageCheckpoint) (after : Snapshot) :
    Prop :=
  match resolved with
  | .inl outcome => Returned env identity before outcome after
  | .inr current =>
      Quiet env identity before after
        ∧ AgreesBefore before.db after.db identity stage
        ∧ Kept after.db identity stage current

theorem VersionResolved.upgrade {checkpoint : StageCheckpoint} {after : Database}
    (standing : Standing start.db identity checkpoint.stage)
    (current : start.db.get identity checkpoint.stage = some checkpoint)
    (unsettled : checkpoint.status ≠ .pending ∧ checkpoint.status ≠ .succeeded)
    (revivable : ¬ checkpoint.Refuted)
    (committed : start.db.replaceFrom checkpoint.forUpgrade = .ok after) :
    VersionResolved env identity checkpoint.stage start (.inr (some checkpoint.forUpgrade))
      { start with db := after } := by
  have move : Move env identity start { start with db := after } :=
    .replay standing current unsettled revivable (.inr rfl) committed
  have ownedHere := Database.identity_of_get current
  have owned : checkpoint.forUpgrade.identity = identity := ownedHere
  have reseeds : Reseeded start.db checkpoint.forUpgrade after :=
    ⟨_, (Database.replaceFrom_ok committed).2⟩
  refine ⟨.single move, reseeds.agreesBefore owned, ?_, ?_⟩
  · exact (reseeds.get owned).trans (if_pos rfl)
  · rintro _ ⟨⟩
    exact .inl rfl

theorem spec_resolveStageVersion {existing : StageCheckpoint}
    (standing : Standing start.db identity existing.stage)
    (current : start.db.get identity existing.stage = some existing) :
    Spec (resolveStageVersion env identity existing.stage existing)
      (VersionResolved env identity existing.stage start) (Quiet env identity start) start := by
  refine Spec.ite (fun version => ?_) fun stale => ?_
  · refine Spec.pure ⟨.refl, .refl, current, ?_⟩
    rintro _ ⟨⟩
    exact .inl version
  refine Spec.ite (fun exhausted => ?_) fun _ => ?_
  · exact Spec.pure (Returned.of_status .refl (by simp [StageCheckpoint.outcome, exhausted.2.1]))
  refine Spec.ite (fun waits => ?_) fun _ => ?_
  · refine Spec.pure ⟨.refl, .refl, current, ?_⟩
    rintro _ ⟨⟩
    exact .inr waits
  refine Spec.ite (fun correctable => ?_) fun _ => ?_
  · have blocked := correctable.2.1
    have finished : VersionResolved env identity existing.stage start
        (.inl existing.outcome) start :=
      Returned.of_status .refl (by simp [StageCheckpoint.outcome, blocked])
    refine Spec.ite (fun _ => Spec.pure finished) fun _ => ?_
    refine Spec.bind (Spec.mono spec_codexCallUnresolved ?_ fun _ => id)
    rintro unresolved after rfl
    refine Spec.ite (fun _ => Spec.pure finished) fun _ => ?_
    refine Spec.bind (Spec.transactUnit .refl fun now after committed => Spec.pure ?_)
    exact .upgrade standing current (by simp [blocked])
      (not_refuted_of_correctable correctable.2.2) committed
  refine Spec.ite (fun invalid => ?_) fun _ => ?_
  · refine Spec.bind (Spec.transactUnit .refl fun now after committed => Spec.pure ?_)
    refine .upgrade standing current ?_
      (StageCheckpoint.not_refuted invalid.2.2.1 (by decide)) committed
    rcases invalid.2.1 with blocked | failed <;> simp [*]
  · refine Spec.bind (Spec.transactUnit .refl fun now after committed => Spec.pure ?_)
    have fresh : start.db.reusable identity existing.stage existing.inputRefs ≠ true := by
      rw [Ne, Database.reusable_own_inputs current]
      exact fun settled => stale settled.2
    rw [Except.ok.injEq, Database.invalidateFrom, if_neg fresh] at committed
    cases committed
    have move : Move env identity start
        { start with db := start.db.deleteFrom identity existing.stage } :=
      .invalidate standing fun checkpoint found => by
        rw [current] at found
        cases found
        exact .inl stale
    refine ⟨.single move, agreesBefore_deleteFrom, ?_, fun _ missing => by cases missing⟩
    simp

/-! ## Settling a success -/

/-- What the loop does after a success it does not return. -/
def Settled (env : RunnerEnv) (identity : CheckpointIdentity) (stage : SimpleStage)
    (before : Snapshot) (step : StageStep) (after : Snapshot) : Prop :=
  match step with
  | .next => after = before ∧ Passed before.db identity stage
  | .restart => QuietRestart env identity before after
  | .finished outcome => Returned env identity before outcome after

theorem spec_gateAction {checkpoint : StageCheckpoint}
    (standing : Standing start.db identity checkpoint.stage)
    (current : start.db.get identity checkpoint.stage = some checkpoint)
    (succeeded : checkpoint.status = .succeeded)
    (version : checkpoint.stageVersion = checkpoint.stage.stageVersion)
    (notInitial : terminalInitialOutcome (some checkpoint) = none)
    (notPoc : terminalPocOutcome (some checkpoint) = none ∧ checkpoint.pocStopDecisionRef = none)
    (notFalse : ¬ (checkpoint.stage = verificationFinalDone
      ∧ checkpoint.verdict = some .isFalse)) :
    Spec (gateAction env checkpoint) (Settled env identity checkpoint.stage start)
      (Quiet env identity start) start := by
  refine Spec.ite (fun terminal => ?_) fun notTerminal => ?_
  · refine Spec.pure ⟨.refl, fun _ => ?_⟩
    have isGate := (stage_of_terminalGateOutcome terminal).1
    exact .inr (.inr (.inr (.inl ⟨checkpoint, isGate ▸ current, terminal⟩)))
  · refine Spec.ite (fun revise => ?_) fun notRevise => ?_
    · refine Spec.bind (Spec.transact .refl fun now stored after committed => Spec.pure ?_)
      have isGate := revise.1
      exact QuietRestart.single
        (.revise (isGate ▸ standing) (isGate ▸ current) committed)
    · refine Spec.pure ⟨rfl, checkpoint, current, succeeded, version, ?_⟩
      rintro (initial | poc | stop | isFalse | gate | revises)
      · exact initial notInitial
      · exact poc notPoc.1
      · exact stop notPoc.2
      · exact notFalse isFalse
      · exact notTerminal gate
      · exact notRevise ⟨revises.1, succeeded, revises.1 ▸ version, revises.2⟩

theorem spec_concludeReusable {checkpoint : StageCheckpoint}
    (standing : Standing start.db identity checkpoint.stage)
    (current : start.db.get identity checkpoint.stage = some checkpoint)
    (succeeded : checkpoint.status = .succeeded)
    (version : checkpoint.stageVersion = checkpoint.stage.stageVersion) :
    Spec (concludeReusable env checkpoint.stage checkpoint)
      (Settled env identity checkpoint.stage start) (Quiet env identity start) start := by
  refine Spec.ite (fun terminal => ?_) fun notInitial => ?_
  · exact Spec.bind (Spec.mono (spec_verifiedInitialTerminal current terminal)
      (fun outcome after returned => Spec.pure returned) fun _ => id)
  refine Spec.ite (fun terminal => ?_) fun notPoc => ?_
  · exact Spec.bind (Spec.mono (spec_verifiedPocTerminal current succeeded terminal)
      (fun outcome after returned => Spec.pure returned) fun _ => id)
  refine Spec.ite (fun isFalse => ?_) fun notFalse => ?_
  · refine Spec.pure ⟨.refl, fun _ => .inr (.inr (.inl ⟨checkpoint, ?_⟩))⟩
    exact ⟨isFalse.1 ▸ current, succeeded, isFalse.1 ▸ version, .inl isFalse.2⟩
  · simp only [not_or, not_not, ne_eq] at notInitial notPoc
    exact spec_gateAction standing current succeeded version notInitial notPoc notFalse

/-- The final verification a later stage was walked past to. -/
theorem passed_final (walked : Walked start.db identity chainingDone.index) :
    Passed start.db identity verificationFinalDone := by
  rcases walked verificationFinalDone (by decide) (by decide) with skipped | passed
  · exact absurd skipped.1 (by decide)
  · exact passed

theorem spec_concludeCompleted {checkpoint : StageCheckpoint}
    {final : Option StageCheckpoint}
    (standing : Standing start.db identity checkpoint.stage)
    (current : start.db.get identity checkpoint.stage = some checkpoint)
    (succeeded : checkpoint.status = .succeeded)
    (version : checkpoint.stageVersion = checkpoint.stage.stageVersion)
    (finalRead : checkpoint.stage = chainingDone →
      final = start.db.get identity verificationFinalDone) :
    Spec (concludeCompleted env checkpoint.stage final checkpoint)
      (Settled env identity checkpoint.stage start) (Quiet env identity start) start := by
  refine Spec.ite (fun terminal => ?_) fun notInitial => ?_
  · exact Spec.bind (Spec.mono (spec_verifiedInitialTerminal current terminal)
      (fun outcome after returned => Spec.pure returned) fun _ => id)
  refine Spec.ite (fun terminal => ?_) fun notPoc => ?_
  · exact Spec.bind (Spec.mono (spec_verifiedPocTerminal current succeeded terminal)
      (fun outcome after returned => Spec.pure returned) fun _ => id)
  refine Spec.ite (fun isFalse => ?_) fun notFalse => ?_
  · refine Spec.pure ⟨.refl, fun _ => .inr (.inr (.inl ⟨checkpoint, ?_⟩))⟩
    exact ⟨isFalse.1 ▸ current, succeeded, isFalse.1 ▸ version, .inl isFalse.2⟩
  refine Spec.ite (fun held => ?_) fun _ => ?_
  · refine Spec.pure ⟨.refl, fun _ => .inr (.inr (.inl ?_))⟩
    obtain ⟨isChaining, hold⟩ := held
    obtain ⟨stored, storedFinal, finalSucceeded, finalVersion, -⟩ :=
      passed_final (isChaining ▸ standing.walked)
    rw [finalRead isChaining, storedFinal] at hold
    exact ⟨stored, storedFinal, finalSucceeded, finalVersion,
      .inr ⟨hold, checkpoint, isChaining ▸ current, succeeded, isChaining ▸ version⟩⟩
  · simp only [not_or, not_not, ne_eq] at notInitial notPoc
    exact spec_gateAction standing current succeeded version notInitial notPoc notFalse

/-! ## One stage -/

/-- Moves with at most this many handler invocations. -/
def Advance (env : RunnerEnv) (identity : CheckpointIdentity) (calls : Nat)
    (before after : Snapshot) : Prop :=
  Moves env identity before after
    ∧ invocations after.trace ≤ invocations before.trace + calls

theorem Quiet.advance {before after : Snapshot} {calls : Nat}
    (quiet : Quiet env identity before after) : Advance env identity calls before after :=
  ⟨quiet.1, by rw [quiet.2]; exact Nat.le_add_right _ _⟩

theorem Quiet.advanceNone {before after : Snapshot}
    (quiet : Quiet env identity before after) : Advance env identity 0 before after :=
  quiet.advance

theorem Advance.trans {before between after : Snapshot} {first second : Nat}
    (left : Advance env identity first before between)
    (right : Advance env identity second between after) :
    Advance env identity (first + second) before after :=
  ⟨left.1.trans right.1, by have := left.2; have := right.2; omega⟩

theorem Advance.then_quiet {before between after : Snapshot} {calls : Nat}
    (left : Advance env identity calls before between)
    (right : Quiet env identity between after) : Advance env identity calls before after :=
  left.trans right.advanceNone

/-- A part of a pass walked up to a position, prepared a new pass, or returned. -/
def Stepped (env : RunnerEnv) (identity : CheckpointIdentity) (position calls : Nat)
    (before : Snapshot) (step : StageStep) (after : Snapshot) : Prop :=
  Advance env identity calls before after
    ∧ match step with
      | .next => Walked after.db identity position
      | .restart => Restarted env identity before after
      | .finished outcome => outcome.status = .succeeded → TerminalAt after.db identity

theorem Restarted.after_moves {before between after : Snapshot}
    (first : Moves env identity before between)
    (second : Restarted env identity between after) : Restarted env identity before after := by
  obtain ⟨last, moves, restarts, same⟩ := second
  exact ⟨last, first.trans moves, restarts, same⟩

theorem Stepped.after_advance {before between after : Snapshot} {position first second : Nat}
    {step : StageStep} (left : Advance env identity first before between)
    (right : Stepped env identity position second between step after) :
    Stepped env identity position (first + second) before step after := by
  refine ⟨left.trans right.1, ?_⟩
  cases step with
  | next => exact right.2
  | restart => exact right.2.after_moves left.1
  | finished outcome => exact right.2

theorem Settled.stepped {stage : SimpleStage} {before after : Snapshot} {step : StageStep}
    (settled : Settled env identity stage before step after)
    (walked : Walked before.db identity stage.index) :
    Stepped env identity (stage.index + 1) 0 before step after := by
  cases step with
  | next =>
      obtain ⟨rfl, passed⟩ := settled
      exact ⟨Quiet.refl.advance, walked.step (.inr passed)⟩
  | restart =>
      obtain ⟨restarted, trace⟩ := settled
      exact ⟨Quiet.advance ⟨restarted.moves, trace⟩, restarted⟩
  | finished outcome => exact ⟨settled.1.advance, settled.2⟩

theorem Recovered.stepped {position : Nat} {before after : Snapshot}
    {recovered : Option RunOutcome}
    (found : Recovered env identity before recovered after) :
    Stepped env identity position 0 before
      (match recovered with
        | none => .restart
        | some outcome => .finished outcome) after := by
  cases recovered with
  | none => exact ⟨Quiet.advance ⟨found.1.moves, found.2⟩, found.1⟩
  | some outcome => exact ⟨found.1.advance, found.2⟩

theorem spec_afterFailure {recovered : Run (Option RunOutcome)} {position : Nat}
    (spec : Spec recovered (Recovered env identity start) (Quiet env identity start) start) :
    Spec (afterFailure recovered) (Stepped env identity position 0 start)
      (Quiet env identity start) start := by
  refine Spec.bind (Spec.mono spec ?_ fun _ => id)
  intro outcome after found
  cases outcome with
  | none => exact Spec.pure found.stepped
  | some outcome => exact Spec.pure found.stepped

theorem spec_invokeHandler {checkpoint : StageCheckpoint} {final : Option StageCheckpoint}
    {prior : List (SimpleStage × StageCheckpoint)}
    (standing : Standing start.db identity checkpoint.stage)
    (current : start.db.get identity checkpoint.stage = some checkpoint)
    (running : checkpoint.status = .running)
    (version : checkpoint.stageVersion = checkpoint.stage.stageVersion)
    (finalRead : checkpoint.stage = chainingDone →
      final = start.db.get identity verificationFinalDone) :
    Spec (invokeHandler env checkpoint.stage final checkpoint prior)
      (Stepped env identity (checkpoint.stage.index + 1) 1 start)
      (Advance env identity 1 start) start := by
  unfold invokeHandler
  split
  · refine Spec.bind (Spec.transact Quiet.refl.advance fun now stored after committed => ?_)
    have quiet : Quiet env identity start { start with db := after } :=
      .single (.fail current (.inl running) committed)
    exact Spec.pure ⟨quiet.advance, by simp⟩
  · rename_i handler configured
    refine Spec.bind (Spec.tick Quiet.refl.advance fun moment => Spec.bind (Spec.traced ?_))
    have invoked : Advance env identity 1 start
        { start with trace := start.trace ++ [.invoked checkpoint.stage] } :=
      ⟨.single (.invoke current running), by simp⟩
    have failing : ∀ (failure : StageFailure) (status : StageStatus),
        Spec (afterFailure (recoverOrStop env checkpoint failure status))
          (Stepped env identity (checkpoint.stage.index + 1) 1 start)
          (Advance env identity 1 start)
          { start with trace := start.trace ++ [.invoked checkpoint.stage] } := by
      intro failure status
      exact Spec.mono (spec_afterFailure (spec_recoverOrStop standing current running))
        (fun _ _ stepped => stepped.after_advance invoked) fun _ => invoked.then_quiet
    split
    · refine Spec.bind (Spec.transact invoked fun now stored after committed => ?_)
      refine Spec.exit (invoked.then_quiet ?_)
      exact .single (.fail current (.inl running) committed)
    · exact failing _ _
    · exact failing _ _
    · exact failing _ _
    · refine Spec.bind (Spec.transact invoked fun now stored after committed => ?_)
      obtain ⟨shape, event, stores⟩ := Database.complete_ok committed
      have ownedHere := Database.identity_of_get current
      have owned : stored.identity = identity := by simp [shape, ownedHere]
      have sameStage : stored.stage = checkpoint.stage := by simp [shape]
      have succeeded : stored.status = .succeeded := by simp [shape]
      have sameVersion : stored.stageVersion = checkpoint.stageVersion := by simp [shape]
      have agrees := stores.agreesBefore owned
      have completed : Advance env identity 1 start
          { db := after, trace := start.trace ++ [.invoked checkpoint.stage] } :=
        invoked.then_quiet (.single (.complete standing current running committed))
      have standingAfter : Standing after identity stored.stage :=
        Standing.congr agrees (sameStage ▸ standing)
      have finalAgain : stored.stage = chainingDone →
          final = after.get identity verificationFinalDone := by
        intro isChaining
        rw [finalRead (sameStage ▸ isChaining)]
        exact (agrees verificationFinalDone (by rw [isChaining]; decide)).symm
      have concludes :
          Spec (concludeCompleted env stored.stage final stored)
            (Settled env identity stored.stage
              { db := after, trace := start.trace ++ [.invoked checkpoint.stage] })
            (Quiet env identity
              { db := after, trace := start.trace ++ [.invoked checkpoint.stage] })
            { db := after, trace := start.trace ++ [.invoked checkpoint.stage] } :=
        spec_concludeCompleted standingAfter ((stores.get owned).trans (if_pos rfl)) succeeded
          (by rw [sameVersion, version, sameStage]) finalAgain
      rw [sameStage] at concludes standingAfter
      exact Spec.mono concludes
        (fun _ _ settled => (settled.stepped standingAfter.walked).after_advance completed)
        fun _ => completed.then_quiet

/-- The final verification the iteration read is the stored one where it matters. -/
def FinalRead (db : Database) (identity : CheckpointIdentity) (stage : SimpleStage)
    (final : Option StageCheckpoint) : Prop :=
  stage = chainingDone → final = db.get identity verificationFinalDone

theorem FinalRead.congr {db after : Database} {stage : SimpleStage}
    {final : Option StageCheckpoint} (agrees : AgreesBefore db after identity stage)
    (finalRead : FinalRead db identity stage final) : FinalRead after identity stage final := by
  intro isChaining
  rw [finalRead isChaining]
  exact (agrees verificationFinalDone (by rw [isChaining]; decide)).symm

/-- The stored checkpoint a stage may be started over. -/
def Startable (env : RunnerEnv) (checkpoint : StageCheckpoint) : Prop :=
  checkpoint.status = .pending ∨ env.recovery = none ∧ checkpoint.status ≠ .succeeded

theorem spec_startStage {stage : SimpleStage} {final : Option StageCheckpoint}
    (standing : Standing start.db identity stage)
    (finalRead : FinalRead start.db identity stage final)
    (startable : ∀ checkpoint, start.db.get identity stage = some checkpoint →
      Startable env checkpoint)
    (fresh : start.db.reusable identity stage
      (stageInputs env start.db identity stage (start.db.get identity stage)) ≠ true) :
    Spec (startStage env identity stage final
        (stageInputs env start.db identity stage (start.db.get identity stage)))
      (Stepped env identity (stage.index + 1) 1 start) (Advance env identity 1 start) start := by
  refine Spec.bind (Spec.tables (Spec.bind (Spec.tick Quiet.refl.advance fun moment => ?_)))
  -- The move starts from here: the attempt is chosen over what is stored now.
  have launch : ∀ base : Snapshot, Quiet env identity start base →
      AgreesBefore start.db base.db identity stage →
      base.db = (if (start.db.get identity stage).map (·.status) = some .pending then start.db
        else start.db.deleteFrom identity stage) →
      Spec (do
          let checkpoint ← transact env fun now db =>
            db.markRunning identity stage
              (stageInputs env start.db identity stage (start.db.get identity stage))
              (selectAttemptId stage (start.db.get identity stage)
                (start.db.preceding identity stage) (env.uuid4 moment))
              (inheritSource (start.db.get identity stage)
                (start.db.preceding identity stage)) now
          Prog.change fun world =>
            world.traced (.started stage (start.db.get identity stage))
          invokeHandler env stage final checkpoint (start.db.prior identity stage))
        (Stepped env identity (stage.index + 1) 1 start) (Advance env identity 1 start) base := by
    intro base quiet agreesBase cleared
    refine Spec.bind (Spec.transact quiet.advance fun now stored after committed => ?_)
    refine Spec.bind (Spec.traced ?_)
    have move : Move env identity start
        { db := after
          trace := start.trace ++ [.started stage (start.db.get identity stage)] } :=
      .start standing startable cleared committed
    obtain ⟨shape, event, -, stores⟩ := Database.markRunning_ok committed
    have sameStage : stored.stage = stage := by rw [shape]; rfl
    have owned : stored.identity = identity := by rw [shape]; rfl
    have agrees : AgreesBefore start.db after identity stage :=
      agreesBase.trans (sameStage ▸ stores.agreesBefore owned)
    have started : Advance env identity 0 start
        { db := after
          trace := start.trace ++ [.started stage (start.db.get identity stage)] } :=
      ⟨.single move, by simp⟩
    have invokes : Spec (invokeHandler env stored.stage final stored
          (start.db.prior identity stage))
        (Stepped env identity (stored.stage.index + 1) 1
          { db := after
            trace := start.trace ++ [.started stage (start.db.get identity stage)] })
        (Advance env identity 1
          { db := after
            trace := start.trace ++ [.started stage (start.db.get identity stage)] })
        { db := after
          trace := start.trace ++ [.started stage (start.db.get identity stage)] } := by
      refine spec_invokeHandler ?_ ((stores.get owned).trans (if_pos rfl)) ?_ ?_ ?_
      · rw [sameStage]
        exact standing.congr agrees
      · rw [shape]; rfl
      · rw [shape]; rfl
      · rw [sameStage]
        exact finalRead.congr agrees
    rw [sameStage] at invokes
    rw [quiet.2]
    exact Spec.mono invokes
      (fun _ _ stepped => by simpa using stepped.after_advance started)
      fun _ advance => by simpa using started.trans advance
  refine Spec.ite (fun notPending => ?_) fun pending => ?_
  · refine Spec.bind (Spec.transactUnit Quiet.refl.advance fun now after committed => ?_)
    rw [Except.ok.injEq, Database.invalidateFrom, if_neg fresh] at committed
    cases committed
    have move : Move env identity start
        { start with db := start.db.deleteFrom identity stage } := by
      refine .invalidate standing fun checkpoint found => .inr ?_
      rcases startable checkpoint found with pending | failed
      · rw [found] at notPending
        simp [pending] at notPending
      · refine ⟨failed.1, ?_, failed.2⟩
        intro pending
        rw [found] at notPending
        simp [pending] at notPending
    exact launch _ (.single move) agreesBefore_deleteFrom (by rw [if_neg notPending])
  · exact launch start .refl .refl (by rw [if_pos (not_not.1 pending)])

theorem stageInputs_congr {db : Database} {stage : SimpleStage}
    {left right : Option StageCheckpoint} (same : left = none ↔ right = none) :
    stageInputs env db identity stage left = stageInputs env db identity stage right := by
  unfold stageInputs
  split
  · simp only [same]
  · rfl

theorem spec_reuseOrStart {stage : SimpleStage} {final existing : Option StageCheckpoint}
    (standing : Standing start.db identity stage)
    (finalRead : FinalRead start.db identity stage final)
    (known : existing = none ↔ start.db.get identity stage = none)
    (startable : ∀ checkpoint, start.db.get identity stage = some checkpoint →
      Startable env checkpoint
        ∨ checkpoint.status = .succeeded
          ∧ checkpoint.stageVersion = stage.stageVersion) :
    Spec (reuseOrStart env identity stage final existing)
      (Stepped env identity (stage.index + 1) 1 start) (Advance env identity 1 start) start := by
  refine Spec.bind (Spec.tables ?_)
  dsimp only
  rw [stageInputs_congr known]
  refine Spec.ite (fun reusable => ?_) fun fresh => ?_
  · split
    · rename_i checkpoint current
      have sameStage := Database.stage_of_get current
      have own : stageInputs env start.db identity stage (start.db.get identity stage) =
          checkpoint.inputRefs := by
        unfold stageInputs
        split <;> simp [current, Database.inputRefsFor_of_get current]
      rw [own, Database.reusable_own_inputs current] at reusable
      have concludes : Spec (concludeReusable env checkpoint.stage checkpoint)
          (Settled env identity checkpoint.stage start) (Quiet env identity start) start :=
        spec_concludeReusable (sameStage ▸ standing) (sameStage ▸ current) reusable.1
          (sameStage ▸ reusable.2)
      rw [sameStage] at concludes
      exact Spec.mono concludes
        (fun _ _ settled =>
          (settled.stepped standing.walked).after_advance Quiet.refl.advance)
        fun _ quiet => quiet.advance
    · exact Spec.exit Quiet.refl.advance
  · refine spec_startStage standing finalRead (fun checkpoint current => ?_) fresh
    rcases startable checkpoint current with startable | settled
    · exact startable
    · have own : stageInputs env start.db identity stage (start.db.get identity stage) =
          checkpoint.inputRefs := by
        unfold stageInputs
        split <;> simp [current, Database.inputRefsFor_of_get current]
      rw [own, Database.reusable_own_inputs current] at fresh
      exact absurd settled fresh

theorem Resumed.stepped_restart {checkpoint : StageCheckpoint} {after : Snapshot}
    {position : Nat} (resumed : Resumed env identity checkpoint start .restart after) :
    Stepped env identity position 1 start .restart after :=
  ⟨Quiet.advance ⟨resumed.1.moves, resumed.2⟩, resumed.1⟩

theorem spec_recoverOrRun {stage : SimpleStage} {final existing : Option StageCheckpoint}
    (standing : Standing start.db identity stage)
    (finalRead : FinalRead start.db identity stage final)
    (kept : Kept start.db identity stage existing) :
    Spec (recoverOrRun env identity stage final existing)
      (Stepped env identity (stage.index + 1) 1 start) (Advance env identity 1 start) start := by
  obtain ⟨current, versions⟩ := kept
  unfold recoverOrRun
  split
  · exact spec_reuseOrStart standing finalRead (by simp [current]) (by simp [current])
  · rename_i checkpoint
    have version := versions checkpoint rfl
    have sameStage := Database.stage_of_get current
    have settledVersion : checkpoint.status = .succeeded →
        checkpoint.stageVersion = stage.stageVersion := by
      intro succeeded
      refine version.resolve_right fun waits => ?_
      rw [waits.2.1] at succeeded
      cases succeeded
    refine Spec.ite (fun _ => ?_) fun notAsked => ?_
    · have resumes : Spec (recoverExisting env checkpoint)
          (Resumed env identity checkpoint start) (Quiet env identity start) start :=
        spec_recoverExisting (sameStage ▸ standing) (sameStage ▸ current) (sameStage ▸ version)
      refine Spec.bind (Spec.mono resumes ?_ fun _ quiet => quiet.advance)
      intro resumption after resumed
      cases resumption with
      | restart => exact Spec.pure resumed.stepped_restart
      | finished outcome => exact Spec.pure ⟨resumed.1.advance, resumed.2⟩
      | proceed =>
          obtain ⟨quiet, agrees, cases_⟩ := resumed
          rw [sameStage] at agrees cases_
          have next : Spec (reuseOrStart env identity stage final (some checkpoint))
              (Stepped env identity (stage.index + 1) 1 after)
              (Advance env identity 1 after) after := by
            refine spec_reuseOrStart (standing.congr agrees) (finalRead.congr agrees) ?_ ?_
            · rcases cases_ with ⟨rfl, -⟩ | ⟨pending, stored, -⟩
              · simp [current]
              · simp [stored]
            · intro stored found
              rcases cases_ with ⟨rfl, status⟩ | ⟨pending, storedPending, isPending⟩
              · rw [current] at found
                cases found
                rcases status with pending | succeeded
                · exact .inl (.inl pending)
                · exact .inr ⟨succeeded, settledVersion succeeded⟩
              · rw [storedPending] at found
                cases found
                exact .inl (.inl isPending)
          exact Spec.mono next
            (fun _ _ stepped => by
              simpa using stepped.after_advance quiet.advanceNone)
            fun _ advance => by simpa using quiet.advanceNone.trans advance
    · refine spec_reuseOrStart standing finalRead (by simp [current]) ?_
      intro stored found
      rw [current] at found
      cases found
      have unconfigured : env.recovery = none := by
        simp only [asksRecovery, Bool.or_eq_true, not_or] at notAsked
        simpa using notAsked.1
      by_cases succeeded : checkpoint.status = .succeeded
      · exact .inr ⟨succeeded, settledVersion succeeded⟩
      · exact .inl (.inr ⟨unconfigured, succeeded⟩)

/-- The loop's test for a final `HOLD` that skips the stage. -/
theorem holdSkipped_iff {db : Database} {stage : SimpleStage} :
    (((db.get identity verificationFinalDone).map fun checkpoint =>
        (checkpoint.status, checkpoint.verdict)) = some (.succeeded, some .hold)
      ∧ stage ∈ holdSkips) ↔ HoldSkipped db identity stage := by
  simp only [HoldSkipped, Option.map_eq_some_iff, Prod.mk.injEq]
  exact and_comm

theorem spec_stoppedPocOutcome {checkpoint : StageCheckpoint}
    (owned : checkpoint.identity = identity) (blocked : checkpoint.status = .blocked) :
    Spec (stoppedPocOutcome env checkpoint) (Returned env identity start)
      (Quiet env identity start) start := by
  refine Spec.bind (Spec.mono (spec_promoteStoppedInconclusivePoc owned) ?_ fun _ => id)
  intro promoted after found
  cases promoted with
  | some outcome => exact Spec.pure found
  | none =>
      cases found
      exact Spec.pure (Returned.of_status .refl (by simp [StageCheckpoint.outcome, blocked]))

theorem not_succeeded_of_terminalPocFailure {checkpoint : StageCheckpoint}
    (failure : terminalPocFailure env checkpoint = true) : checkpoint.status ≠ .succeeded := by
  intro succeeded
  simp [terminalPocFailure, succeeded] at failure

theorem spec_stageIteration {stage : SimpleStage}
    (hypothesisStage : proConDone.index ≤ stage.index)
    (walked : Walked start.db identity stage.index) :
    Spec (stageIteration env identity stage) (Stepped env identity (stage.index + 1) 1 start)
      (Advance env identity 1 start) start := by
  refine Spec.bind (Spec.tables ?_)
  dsimp only
  refine Spec.ite (fun skips => ?_) fun keeps => ?_
  · exact Spec.pure
      ⟨Quiet.refl.advance, walked.step (.inl (holdSkipped_iff.1 skips))⟩
  have standing : Standing start.db identity stage :=
    ⟨hypothesisStage, walked, fun skipped => keeps (holdSkipped_iff.2 skipped)⟩
  have finalRead : FinalRead start.db identity stage
      (start.db.get identity verificationFinalDone) := fun _ => rfl
  split
  · rename_i missing
    exact spec_recoverOrRun standing finalRead ⟨missing, by simp⟩
  rename_i existing current
  have sameStage := Database.stage_of_get current
  have owned := Database.identity_of_get current
  refine Spec.bind (Spec.mono spec_hasPriorPocRecoveryDecision ?_
    fun _ quiet => quiet.advance)
  rintro decided after ⟨rfl, blocked⟩
  refine Spec.ite (fun isDecided => ?_) fun _ => ?_
  · exact Spec.bind (Spec.mono (spec_stoppedPocOutcome owned (blocked isDecided))
      (fun outcome after returned => Spec.pure ⟨returned.1.advance, returned.2⟩)
      fun _ quiet => quiet.advance)
  refine Spec.ite (fun terminal => ?_) fun _ => ?_
  · exact Spec.pure ⟨Quiet.refl.advance, fun succeeded =>
      absurd succeeded (not_succeeded_of_terminalPocFailure terminal.2)⟩
  have resolves : Spec (resolveStageVersion env identity existing.stage existing)
      (VersionResolved env identity existing.stage after) (Quiet env identity after) after :=
    spec_resolveStageVersion (sameStage ▸ standing) (sameStage ▸ current)
  rw [sameStage] at resolves
  refine Spec.bind (Spec.mono resolves ?_ fun _ quiet => quiet.advance)
  intro resolved between found
  cases resolved with
  | inl outcome => exact Spec.pure ⟨found.1.advance, found.2⟩
  | inr kept =>
      obtain ⟨quiet, agrees, kept⟩ := found
      exact Spec.mono
        (spec_recoverOrRun (standing.congr agrees) (finalRead.congr agrees) kept)
        (fun _ _ stepped => by simpa using stepped.after_advance quiet.advanceNone)
        fun _ advance => by simpa using quiet.advanceNone.trans advance

/-! ## Passes -/

theorem spec_stagePass {stages : List SimpleStage} {position : Nat}
    (consecutive : stages.map SimpleStage.index = List.range' position stages.length)
    (hypothesisStage : proConDone.index ≤ position)
    (walked : Walked start.db identity position) :
    Spec (stagePass env identity stages)
      (Stepped env identity (position + stages.length) stages.length start)
      (Advance env identity stages.length start) start := by
  induction stages generalizing position start with
  | nil => exact Spec.pure ⟨Quiet.refl.advance, walked⟩
  | cons stage rest ih =>
      simp only [List.map_cons, List.length_cons, List.range'_succ, List.cons.injEq]
        at consecutive
      obtain ⟨rfl, consecutive⟩ := consecutive
      simp only [List.length_cons]
      rw [Nat.add_comm rest.length 1]
      refine Spec.bind (Spec.mono (spec_stageIteration hypothesisStage walked) ?_
        fun _ advance => ⟨advance.1, by have := advance.2; omega⟩)
      intro step after stepped
      cases step with
      | restart => exact Spec.pure ⟨⟨stepped.1.1, by have := stepped.1.2; omega⟩, stepped.2⟩
      | finished outcome =>
          exact Spec.pure ⟨⟨stepped.1.1, by have := stepped.1.2; omega⟩, stepped.2⟩
      | next =>
          refine Spec.mono (ih consecutive (by omega) stepped.2) ?_
            fun _ advance => stepped.1.trans advance
          intro step final found
          rw [← Nat.add_assoc]
          exact found.after_advance stepped.1

/-- A finished walk over all stages ends at the report or at a final `HOLD`. -/
theorem terminalAt_of_walked {db : Database}
    (walked : Walked db identity (reportDone.index + 1)) : TerminalAt db identity := by
  rcases walked reportDone (by decide) (by decide) with skipped | passed
  · obtain ⟨-, final, storedFinal, succeeded, hold⟩ := skipped
    obtain ⟨stored, finalAgain, -, version, -⟩ :=
      (walked verificationFinalDone (by decide) (by decide)).resolve_left
        fun skipped => absurd skipped.1 (by decide)
    rw [storedFinal] at finalAgain
    cases finalAgain
    obtain ⟨chain, storedChain, chainSucceeded, chainVersion, -⟩ :=
      (walked chainingDone (by decide) (by decide)).resolve_left
        fun skipped => absurd skipped.1 (by decide)
    exact .inr (.inr (.inl ⟨final, storedFinal, succeeded, version,
      .inr ⟨hold, chain, storedChain, chainSucceeded, chainVersion⟩⟩))
  · obtain ⟨report, stored, succeeded, version, -⟩ := passed
    exact .inr (.inr (.inr (.inr ⟨report, stored, succeeded, version⟩)))

/-- One pass over the stages of a hypothesis. -/
theorem spec_hypothesisPass :
    Spec (stagePass env identity hypothesisStages)
      (Stepped env identity (reportDone.index + 1) hypothesisStages.length start)
      (Advance env identity hypothesisStages.length start) start := by
  have consecutive :
      hypothesisStages.map SimpleStage.index =
        List.range' proConDone.index hypothesisStages.length := rfl
  refine spec_stagePass consecutive (Nat.le_refl _) fun earlier hypothesisStage before => ?_
  exact absurd hypothesisStage (Nat.not_le.2 before)

/-- Passes that each ended by preparing the next one. -/
inductive PassChain (env : RunnerEnv) (identity : CheckpointIdentity) :
    Nat → Snapshot → Snapshot → Prop where
  | nil {snapshot : Snapshot} : PassChain env identity 0 snapshot snapshot
  | cons {passes : Nat} {before between after : Snapshot}
      (restarted : Restarted env identity before between)
      (bounded : invocations between.trace ≤
        invocations before.trace + hypothesisStages.length)
      (rest : PassChain env identity passes between after) :
      PassChain env identity (passes + 1) before after

theorem PassChain.moves {passes : Nat} {before after : Snapshot}
    (chain : PassChain env identity passes before after) : Moves env identity before after := by
  induction chain with
  | nil => exact .refl
  | cons restarted _ _ ih => exact restarted.moves.trans ih

/-- Where the loop is after some passes: a chain of restarts, then one unfinished pass. -/
def AfterPasses (env : RunnerEnv) (identity : CheckpointIdentity) (limit : Nat)
    (before after : Snapshot) : Prop :=
  ∃ passes between, passes ≤ limit ∧ PassChain env identity passes before between
    ∧ Advance env identity hypothesisStages.length between after

/-- How a call ends: with an outcome, which the tables confirm when it is a success, or with
all of its passes used up. -/
def Ended (env : RunnerEnv) (identity : CheckpointIdentity) (passes : Nat)
    (before : Snapshot) (outcome : Option RunOutcome) (after : Snapshot) : Prop :=
  match outcome with
  | none => PassChain env identity passes before after
  | some outcome => AfterPasses env identity passes before after
      ∧ (outcome.status = .succeeded → TerminalAt after.db identity)

theorem AfterPasses.moves {passes : Nat} {before after : Snapshot}
    (reached : AfterPasses env identity passes before after) :
    Moves env identity before after := by
  obtain ⟨count, between, -, chain, advance⟩ := reached
  exact chain.moves.trans advance.1

/-- Moves without a handler call stay within the first pass. -/
theorem Quiet.afterPasses {passes : Nat} {before after : Snapshot}
    (quiet : Quiet env identity before after) :
    AfterPasses env identity passes before after :=
  ⟨0, before, Nat.zero_le _, .nil, quiet.advance⟩

theorem AfterPasses.cons {passes : Nat} {before between after : Snapshot}
    (restarted : Restarted env identity before between)
    (bounded : invocations between.trace ≤
      invocations before.trace + hypothesisStages.length)
    (rest : AfterPasses env identity passes between after) :
    AfterPasses env identity (passes + 1) before after := by
  obtain ⟨count, last, below, chain, advance⟩ := rest
  exact ⟨count + 1, last, Nat.succ_le_succ below, .cons restarted bounded chain, advance⟩

theorem spec_runPasses {passes : Nat} :
    Spec (runPasses env identity passes) (Ended env identity passes start)
      (AfterPasses env identity passes start) start := by
  induction passes generalizing start with
  | zero => exact Spec.pure .nil
  | succ passes ih =>
      have here : ∀ after, Advance env identity hypothesisStages.length start after →
          AfterPasses env identity (passes + 1) start after := fun after advance =>
        ⟨0, start, Nat.zero_le _, .nil, advance⟩
      apply Spec.bind (Spec.mono spec_hypothesisPass _ here)
      intro step between stepped
      cases step with
      | next => exact Spec.pure ⟨here _ stepped.1, fun _ => terminalAt_of_walked stepped.2⟩
      | finished outcome => exact Spec.pure ⟨here _ stepped.1, stepped.2⟩
      | restart =>
          apply Spec.mono ih _ fun _ => AfterPasses.cons stepped.2 stepped.1.2
          intro outcome after ended
          cases outcome with
          | none => exact .cons stepped.2 stepped.1.2 ended
          | some outcome => exact ⟨.cons stepped.2 stepped.1.2 ended.1, ended.2⟩

/-! ## The call -/

theorem spec_restartIncompletePair {candidate : StageCheckpoint}
    (unconfigured : env.recovery = none)
    (current : start.db.get identity pocCandidateDone = some candidate)
    (succeeded : candidate.status = .succeeded)
    (versions : ∀ execution, start.db.get identity pocExecutionDone = some execution →
      ¬ (execution.status = .succeeded
        ∧ execution.stageVersion ≠ pocExecutionDone.stageVersion)) :
    Spec (restartIncompletePair env identity candidate
        (start.db.get identity pocExecutionDone))
      (fun _ => Quiet env identity start) (Quiet env identity start) start := by
  refine Spec.bind (Spec.tables ?_)
  dsimp only
  refine Spec.ite (fun _ => Spec.pure .refl) fun notReusable => ?_
  refine Spec.transactUnit .refl fun now after committed => ?_
  have incomplete : ∀ execution, start.db.get identity pocExecutionDone = some execution →
      execution.status ≠ .succeeded := by
    intro execution stored executed
    apply notReusable
    have version := not_not.1 fun stale => versions execution stored ⟨executed, stale⟩
    have reusable : start.db.reusable identity pocExecutionDone
        (start.db.inputRefsFor identity pocExecutionDone) = true := by
      rw [Database.inputRefsFor_of_get stored, Database.reusable_own_inputs stored]
      exact ⟨executed, version⟩
    simp [stored, reusable]
  exact .single (.repair unconfigured current succeeded incomplete committed)

theorem spec_resetIncompletePocAttempt (unconfigured : env.recovery = none) :
    Spec (resetIncompletePocAttempt env identity) (fun _ => Quiet env identity start)
      (Quiet env identity start) start := by
  refine Spec.bind (Spec.tables ?_)
  split
  · exact Spec.pure .refl
  · rename_i candidate current
    refine Spec.ite (fun _ => Spec.pure .refl) fun succeeded => ?_
    have resets := spec_restartIncompletePair unconfigured current (not_not.1 succeeded)
    split
    · rename_i missing
      rw [missing] at resets
      exact resets (by simp)
    · rename_i execution stored
      refine Spec.ite (fun _ => Spec.pure .refl) fun versions => ?_
      refine Spec.ite (fun _ => Spec.pure .refl) fun _ => ?_
      refine Spec.bind (Spec.mono spec_hasPriorPocRecoveryDecision ?_ fun _ => id)
      rintro decided after ⟨rfl, -⟩
      refine Spec.ite (fun _ => Spec.pure .refl) fun _ => ?_
      rw [stored] at resets
      apply resets
      rintro _ ⟨⟩
      exact versions

theorem spec_recordedPocTerminal :
    Spec (recordedPocTerminal env identity) (Promoted env identity start)
      (Quiet env identity start) start := by
  refine Spec.bind (Spec.tables ?_)
  split
  · exact Spec.pure rfl
  · rename_i checkpoint current
    have sameStage := Database.stage_of_get current
    have owned := Database.identity_of_get current
    refine Spec.ite (fun terminal => ?_) fun _ => ?_
    · refine Spec.ite (fun _ => Spec.pure (Returned.of_status .refl (by simp))) fun _ => ?_
      exact Spec.bind (Spec.mono
        (spec_verifiedPocTerminal (sameStage ▸ current)
          (stage_of_terminalPocOutcome terminal).2 (.inl terminal))
        (fun outcome after returned => Spec.pure returned) fun _ => id)
    · refine Spec.bind (Spec.mono spec_hasPriorPocRecoveryDecision ?_ fun _ => id)
      rintro decided after ⟨rfl, blocked⟩
      refine Spec.ite (fun isDecided => ?_) fun _ => ?_
      · exact Spec.bind (Spec.mono (spec_stoppedPocOutcome owned (blocked isDecided))
          (fun outcome after returned => Spec.pure returned) fun _ => id)
      · refine Spec.ite (fun failure => ?_) fun _ => Spec.pure rfl
        exact Spec.pure
          (Returned.of_status .refl (not_succeeded_of_terminalPocFailure failure))

theorem spec_resumeFromRecords {passes : Nat} :
    Spec (resumeFromRecords env passes identity) (Ended env identity passes start)
      (AfterPasses env identity passes start) start := by
  apply Spec.bind (Spec.mono spec_recordedPocTerminal _ fun _ quiet => quiet.afterPasses)
  intro recorded after found
  cases recorded with
  | some outcome => exact Spec.pure ⟨found.1.afterPasses, found.2⟩
  | none =>
      cases found
      exact spec_runPasses

/-- Every call of the runner is a sequence of moves, however it ends, and a call that reports
success leaves tables that say so. -/
theorem spec_resumeHypothesis {passes : Nat} :
    Spec (resumeHypothesis env passes identity)
      (fun outcome after => Moves env identity start after
        ∧ ∀ reported, outcome = some reported →
          reported.status = .succeeded → TerminalAt after.db identity)
      (Moves env identity start) start := by
  have main : ∀ before : Snapshot, Quiet env identity start before →
      Spec (resumeFromRecords env passes identity)
        (fun outcome after => Moves env identity start after
          ∧ ∀ reported, outcome = some reported →
            reported.status = .succeeded → TerminalAt after.db identity)
        (Moves env identity start) before := by
    intro before quiet
    apply Spec.mono spec_resumeFromRecords _ fun _ reached => quiet.1.trans reached.moves
    intro outcome after ended
    cases outcome with
    | none => exact ⟨quiet.1.trans (PassChain.moves ended), by simp⟩
    | some outcome =>
        refine ⟨quiet.1.trans ended.1.moves, ?_⟩
        rintro _ ⟨⟩
        exact ended.2
  apply Spec.ite
  · intro unconfigured
    have resets : Spec (resetIncompletePocAttempt env identity)
        (fun _ => Quiet env identity start) (Quiet env identity start) start :=
      spec_resetIncompletePocAttempt (Option.isNone_iff_eq_none.1 unconfigured)
    exact Spec.bind (Spec.mono resets (fun _ before quiet => main before quiet)
      fun _ quiet => quiet.1)
  · exact fun _ => main start .refl

end Sastsimi.Runtime
