import Sastsimi.Lib.Program
import Sastsimi.Runtime.Store

/-!
# The stage runner

`SimpleRuntimeRunner.resume_hypothesis` as a program over the durable world.  Stage handlers,
the recovery coordinator, artifact contents, the Codex ledger, the clock and the death of the
process are answers of an arbitrary environment, read at a counter that advances with every
transaction and every call.  A process that dies at a transaction leaves it uncommitted.

The `while True` loop takes the number of passes it may make as an argument.
-/

namespace Sastsimi.Runtime

open SimpleStage Lib

variable [Platform]

/-! ## Environment -/

/-- How a stage handler ends. -/
inductive HandlerOutcome where
  | result (result : StageResult)
  | stageBlocked (failure : StageFailure)
  | stageFailed (failure : StageFailure)
  | cancelled
  /-- Any other exception, with its `code` attribute when that is a text. -/
  | error (code : Option String)

/-- A stage handler, called at a moment with its checkpoint and the prior ones. -/
def SimpleStageHandler : Type :=
  Nat → StageCheckpoint → List (SimpleStage × StageCheckpoint) → HandlerOutcome

/-- What a runner is configured with and what its surroundings answer. -/
structure RunnerEnv where
  handlers : SimpleStage → Option SimpleStageHandler
  /-- `RecoveryCoordinator.decide`; no answer when it raises. -/
  recovery : Option (Nat → StageCheckpoint → StageFailure → Option RecoveryResolution)
  policySnapshotRef : Option StoredDataRef
  codexInvalidOutputResume : Bool
  redactedAnchorResume : Bool
  cleanupArtifacts : Option (Nat → SimpleArtifactRepository)
  offlineBaseReady : Option (Nat → Except PyError Bool)
  uuid4 : Nat → String
  now : Nat → Nat
  /-- The process ends at this moment, before the transaction or call it was about to make. -/
  dies : Nat → Bool
  unresolvedCodexCall : Nat → Except PyError (Option String)
  hasCodexCleanupConfirmation : Nat → StageCheckpoint → Except PyError Bool
  confirmedCodexCallCovering : Nat → Nat → Except PyError Bool
  /-- Reading the activity of a stage raises at this moment. -/
  historyUnreadable : Nat → Bool

/-- What the runner did beyond the tables: it started an attempt of a stage over the checkpoint
stored there, or it invoked a stage handler. -/
inductive TraceEvent where
  | started (stage : SimpleStage) (existing : Option StageCheckpoint)
  | invoked (stage : SimpleStage)

/-- The durable tables and the trace of the runner. -/
structure Snapshot where
  db : Database
  trace : List TraceEvent := []

/-- A snapshot at a moment. -/
structure World extends Snapshot where
  moment : Nat := 0

/-- Extend the trace. -/
def World.traced (world : World) (event : TraceEvent) : World :=
  { world with trace := world.trace ++ [event] }

/-- How a call ends without an outcome. -/
inductive Halt where
  | raised (reason : PyError)
  | cancelled
  | recoveryRaised
  | died
  deriving DecidableEq, Repr

/-- A runner program. -/
abbrev Run : Type → Type := Prog World Halt

/-- Advance to the next moment; the process may end here. -/
def tick (env : RunnerEnv) : Run Nat := do
  let world ← Prog.look
  Prog.change fun world => { world with moment := world.moment + 1 }
  if env.dies world.moment then Prog.exit .died else pure world.moment

/-- Read the tables. -/
def tables : Run Database := do
  let world ← Prog.look
  pure world.db

/-- Commit one transaction at the current time, or roll it back and raise. -/
def transact {α : Type} (env : RunnerEnv)
    (operation : Nat → Database → Except PyError (α × Database)) : Run α := do
  let moment ← tick env
  let world ← Prog.look
  match operation (env.now moment) world.db with
  | .error reason => Prog.exit (.raised reason)
  | .ok (value, after) => do
      Prog.change fun world => { world with db := after }
      pure value

/-- A transaction without a value. -/
def transactUnit (env : RunnerEnv)
    (operation : Nat → Database → Except PyError Database) : Run Unit :=
  transact env fun now db => (operation now db).map fun after => ((), after)

/-- `RunOutcome`. -/
structure RunOutcome where
  currentStage : SimpleStage
  status : StageStatus
  errorCode : Option String := none
  attemptId : Option String := none
  deriving DecidableEq, Repr

/-- The outcome that reports a stored checkpoint. -/
def StageCheckpoint.outcome (checkpoint : StageCheckpoint) : RunOutcome :=
  { currentStage := checkpoint.stage
    status := checkpoint.status
    errorCode := checkpoint.errorCode
    attemptId := checkpoint.attemptId }

/-- How one stage of a pass ends: the loop goes on, restarts, or the call returns. -/
inductive StageStep where
  | next
  | restart
  | finished (outcome : RunOutcome)

/-- How `_recover_existing` ends: `False`, `None` or an outcome. -/
inductive Resumption where
  | proceed
  | restart
  | finished (outcome : RunOutcome)

/-! ## Terminal evidence -/

/-- `_verified_initial_terminal`. -/
def verifiedInitialTerminal (env : RunnerEnv) (checkpoint : StageCheckpoint) :
    Run RunOutcome :=
  let succeeded : RunOutcome := { currentStage := checkpoint.stage, status := .succeeded }
  match env.cleanupArtifacts with
  | none => pure succeeded
  | some artifacts => do
      let moment ← tick env
      match (artifacts moment).verifiedTerminalInitialOutcome checkpoint with
      | .ok _ => pure succeeded
      | .error reason =>
          if reason.isEvidenceError then do
            let failed ← transact env fun now db =>
              db.markFailure checkpoint
                { code := "INITIAL_VERIFICATION_EVIDENCE_INVALID"
                  retryable := false
                  evidenceRefs := checkpoint.outputRefs } .blocked now
            pure { failed.outcome with currentStage := checkpoint.stage, status := .blocked }
          else Prog.exit (.raised reason)

/-- `_verified_poc_terminal`. -/
def verifiedPocTerminal (env : RunnerEnv) (checkpoint : StageCheckpoint) : Run RunOutcome := do
  let errorCode :=
    if checkpoint.pocStopDecisionRef ≠ none then "POC_STOP_EVIDENCE_INVALID"
    else "POC_TERMINAL_EVIDENCE_INVALID"
  let moment ← tick env
  let verified : Except PyError (Option TerminalOutcome) :=
    match env.cleanupArtifacts with
    | none => .error (.valueError errorCode)
    | some artifacts => (artifacts moment).verifiedTerminalPocOutcome checkpoint
  match verified with
  | .ok _ => pure { currentStage := checkpoint.stage, status := .succeeded }
  | .error reason =>
      if reason.isEvidenceError then do
        let failed ← transact env fun now db =>
          db.markFailure checkpoint
            { code := errorCode, retryable := false, evidenceRefs := checkpoint.outputRefs }
            .blocked now
        pure { failed.outcome with currentStage := checkpoint.stage, status := .blocked }
      else Prog.exit (.raised reason)

/-- `except ValueError: return None` around a promotion. -/
def valueErrorIsNone {α : Type} (program : Run (Option α)) : Run (Option α) :=
  Prog.handling
    (fun halt =>
      match halt with
      | .raised reason => if reason.isValueError then some none else none
      | _ => none)
    program

/-- `_promote_initial_environment_inconclusive`. -/
def promoteInitialEnvironmentInconclusive (env : RunnerEnv) (checkpoint : StageCheckpoint) :
    Run (Option RunOutcome) :=
  match env.cleanupArtifacts with
  | none => pure none
  | some artifacts =>
      if checkpoint.stage ≠ verificationInitialDone
          ∨ checkpoint.status ≠ .blocked
          ∨ ¬ (checkpoint.errorCode = some "POC_AUTO_BUNDLE_DOWNLOAD_FAILED"
              ∨ checkpoint.errorCode = some "RECOVERY_EXHAUSTED") then
        pure none
      else do
        let moment ← tick env
        let completed ← valueErrorIsNone do
          let completed ← transact env fun now db =>
            db.promoteInitialEnvironmentInconclusive checkpoint (artifacts moment) now
          pure (some completed)
        match completed with
        | none => pure none
        | some completed => do
            let outcome ← verifiedInitialTerminal env completed
            pure (some outcome)

/-- `_promote_stopped_inconclusive_poc`. -/
def promoteStoppedInconclusivePoc (env : RunnerEnv) (checkpoint : StageCheckpoint) :
    Run (Option RunOutcome) :=
  match env.cleanupArtifacts with
  | none => pure none
  | some artifacts =>
      if checkpoint.stage ≠ pocExecutionDone
          ∨ checkpoint.status ≠ .blocked
          ∨ checkpoint.errorCode ≠ some "POC_INCONCLUSIVE" then
        pure none
      else do
        let moment ← tick env
        valueErrorIsNone do
          let _ ← transact env fun now db =>
            db.promoteInconclusiveExecution checkpoint (artifacts moment) now
          pure (some { currentStage := checkpoint.stage, status := .succeeded })

/-- `_has_prior_poc_recovery_decision`: unreadable history never authorizes a replay. -/
def hasPriorPocRecoveryDecision (env : RunnerEnv) (checkpoint : StageCheckpoint) : Run Bool :=
  if checkpoint.stage ≠ pocExecutionDone
      ∨ checkpoint.status ≠ .blocked
      ∨ checkpoint.errorCode ≠ some "POC_INCONCLUSIVE" then
    pure false
  else
    match checkpoint.attemptId with
    | none => pure false
    | some attempt => do
        let moment ← tick env
        let db ← tables
        pure (env.historyUnreadable moment
          || (db.stageActivity checkpoint.identity checkpoint.stage attempt).any fun event =>
              decide (event.kind = .decisionRecorded)
                && decide (event.errorCode = checkpoint.errorCode))

/-! ## Recovery -/

/-- `_recovery_restart_stage`. -/
def recoveryRestartStage (failedStage : SimpleStage) (action : RecoveryAction) :
    Option SimpleStage :=
  if action = .retryStage then some failedStage
  else if action = .rebuildEnvironment ∨ action = .replanEnvironment then
    if failedStage.index < verificationInitialDone.index then none
    else some verificationInitialDone
  else if action = .regenerateInput ∧ failedStage = pocExecutionDone then
    some pocCandidateDone
  else some failedStage

/-- The part of `_recover_or_stop` after the failure is stored; no outcome means restart. -/
def recoverFailed (env : RunnerEnv) (failed : StageCheckpoint) (failure : StageFailure)
    (originalStatus : StageStatus) : Run (Option RunOutcome) := do
  let stopped : RunOutcome :=
    { currentStage := failed.stage
      status := originalStatus
      errorCode := some failure.code
      attemptId := failed.attemptId }
  match env.recovery with
  | none => pure (some stopped)
  | some decide =>
      if ¬ failure.retryable then pure (some stopped)
      else if maxRecoveryAttempts ≤ failed.attemptNumber then do
        let exhausted ← transact env fun now db => db.markRecoveryExhausted failed now
        pure (some { exhausted.outcome with currentStage := failed.stage, status := .blocked })
      else do
        let moment ← tick env
        match decide moment failed failure with
        | none => Prog.exit .recoveryRaised
        | some resolution =>
            if resolution.action = .stop then do
              let stoppedCheckpoint ← transact env fun now db =>
                db.recordRecoveryStop failed resolution now
              let promotedInitial ←
                promoteInitialEnvironmentInconclusive env stoppedCheckpoint
              match promotedInitial with
              | some outcome => pure (some outcome)
              | none => do
                  let promoted ← promoteStoppedInconclusivePoc env stoppedCheckpoint
                  match promoted with
                  | some outcome => pure (some outcome)
                  | none => pure (some stopped)
            else
              match recoveryRestartStage failed.stage resolution.action with
              | none => do
                  transactUnit env fun _ db => db.recordRecoveryDecision failed resolution
                  pure (some stopped)
              | some restartStage => do
                  let _ ← transact env fun now db =>
                    db.prepareRecovery failed resolution restartStage now
                  pure none

/-- `_recover_or_stop` for a failure that is not stored yet. -/
def recoverOrStop (env : RunnerEnv) (checkpoint : StageCheckpoint) (failure : StageFailure)
    (originalStatus : StageStatus) : Run (Option RunOutcome) := do
  let failed ← transact env fun now db =>
    db.markFailure checkpoint failure originalStatus now
  recoverFailed env failed failure originalStatus

/-- The `PENDING` copy of a checkpoint that a replay starts from. -/
def StageCheckpoint.forReplay (checkpoint : StageCheckpoint) : StageCheckpoint :=
  { checkpoint with
    status := .pending
    outputRefs := []
    attemptId := none
    errorCode := none
    retryable := false }

/-- The replay copy that also moves to the current stage version. -/
def StageCheckpoint.forUpgrade (checkpoint : StageCheckpoint) : StageCheckpoint :=
  { checkpoint.forReplay with stageVersion := checkpoint.stage.stageVersion }

/-- `_confirmed_codex_cleanup_allows_replay`. -/
def confirmedCodexCleanupAllowsReplay (env : RunnerEnv) (checkpoint : StageCheckpoint) :
    Run Bool :=
  match env.cleanupArtifacts with
  | none => pure false
  | some artifacts => do
      let moment ← tick env
      if checkpoint.identity.hypothesisId = none
          ∨ (artifacts moment).identity ≠ checkpoint.identity then
        pure false
      else
        let answer : Except PyError Bool :=
          match env.unresolvedCodexCall moment with
          | .error reason => .error reason
          | .ok (some _) => .ok false
          | .ok none =>
              if checkpoint.status = .running then
                env.hasCodexCleanupConfirmation moment checkpoint
              else if checkpoint.errorCode = some "CODEX_PROCESS_CLEANUP_UNCONFIRMED" then
                env.hasCodexCleanupConfirmation moment checkpoint
              else if checkpoint.errorCode = some "CODEX_CALL_IN_FLIGHT_UNRESOLVED" then
                env.confirmedCodexCallCovering moment checkpoint.updatedAt
              else .ok false
        pure (answer.toOption.getD false)

/-- An unresolved Codex call is recorded for the analysis; reading the ledger may raise. -/
def codexCallUnresolved (env : RunnerEnv) : Run Bool := do
  let moment ← tick env
  match env.unresolvedCodexCall moment with
  | .ok call => pure call.isSome
  | .error reason => Prog.exit (.raised reason)

/-- The environment errors whose correction allows a bounded replay of the initial stage. -/
def correctableEnvironmentError (code : Option String) : Bool :=
  code = some "POC_OFFLINE_REQUIREMENT_UNSUPPORTED"
    || code = some "WHEEL_ARCHIVE_INVALID"
    || code = some "PINNED_CONTEXT_UNSAFE"

/-- Replay a failed checkpoint in place unless its attempts or an open Codex call forbid it. -/
def replayUnlessUnresolved (env : RunnerEnv) (checkpoint : StageCheckpoint) :
    Run Resumption :=
  if maxRecoveryAttempts ≤ checkpoint.attemptNumber then
    pure (.finished checkpoint.outcome)
  else do
    let unresolved ← codexCallUnresolved env
    if unresolved then pure (.finished checkpoint.outcome)
    else do
      transactUnit env fun _ db => db.replaceFrom checkpoint.forReplay
      pure .proceed

/-- Whether the offline base image is ready; every listed error counts as not ready. -/
def offlineBaseReady (env : RunnerEnv) (ready : Nat → Except PyError Bool) : Run Bool := do
  let moment ← tick env
  let answer : Except PyError Bool :=
    match env.unresolvedCodexCall moment with
    | .error reason => .error reason
    | .ok (some _) => .ok false
    | .ok none => ready moment
  match answer with
  | .ok value => pure value
  | .error (.lookupError message) => Prog.exit (.raised (.lookupError message))
  | .error _ => pure false

/-- The part of `_recover_existing` after the Codex cleanup check, for a stored failure. -/
def recoverStoredFailure (env : RunnerEnv) (checkpoint : StageCheckpoint) :
    Run Resumption := do
  if checkpoint.stage = verificationInitialDone
      ∧ checkpoint.status = .blocked
      ∧ checkpoint.errorCode = some "POC_OFFLINE_BASE_IMAGE_UNAVAILABLE" then
    match env.offlineBaseReady with
    | none => pure (.finished checkpoint.outcome)
    | some ready =>
        if maxRecoveryAttempts ≤ checkpoint.attemptNumber then
          pure (.finished checkpoint.outcome)
        else do
          let available ← offlineBaseReady env ready
          if ¬ available then pure (.finished checkpoint.outcome)
          else do
            transactUnit env fun _ db => db.replaceFrom checkpoint.forUpgrade
            pure .proceed
  else if checkpoint.stage = verificationInitialDone
      ∧ checkpoint.status = .blocked
      ∧ correctableEnvironmentError checkpoint.errorCode then
    replayUnlessUnresolved env checkpoint
  else if (checkpoint.stage = verificationInitialDone
        ∨ checkpoint.stage = verificationFinalDone)
      ∧ checkpoint.status = .failed
      ∧ checkpoint.errorCode = some "HYPOTHESIS_ANCHOR_INVALID"
      ∧ env.redactedAnchorResume then
    replayUnlessUnresolved env checkpoint
  else if (checkpoint.status = .blocked ∨ checkpoint.status = .failed)
      ∧ checkpoint.errorCode = some "INVALID_OUTPUT"
      ∧ env.codexInvalidOutputResume then
    if maxRecoveryAttempts ≤ checkpoint.attemptNumber then
      if checkpoint.retryable then do
        transactUnit env fun _ db => db.saveCheckpoint { checkpoint with retryable := false }
        pure (.finished checkpoint.outcome)
      else pure (.finished checkpoint.outcome)
    else do
      transactUnit env fun _ db => db.replaceFrom checkpoint.forReplay
      pure .proceed
  else if ¬ checkpoint.retryable then
    pure (.finished checkpoint.outcome)
  else do
    let outcome ← recoverFailed env checkpoint
      { code := (textOr checkpoint.errorCode none).getD "STAGE_RECOVERY_REQUIRED"
        retryable := true
        evidenceRefs := checkpoint.outputRefs } checkpoint.status
    match outcome with
    | none => pure .restart
    | some outcome => pure (.finished outcome)

/-- `_recover_existing`. -/
def recoverExisting (env : RunnerEnv) (checkpoint : StageCheckpoint) : Run Resumption :=
  if checkpoint.status = .pending then pure .proceed
  else if checkpoint.status = .succeeded then pure .proceed
  else do
    let promotedInitial ← promoteInitialEnvironmentInconclusive env checkpoint
    match promotedInitial with
    | some outcome => pure (.finished outcome)
    | none => do
        let promoted ← promoteStoppedInconclusivePoc env checkpoint
        match promoted with
        | some outcome => pure (.finished outcome)
        | none => do
            let decided ← hasPriorPocRecoveryDecision env checkpoint
            if decided then pure (.finished checkpoint.outcome)
            else do
              let cleaned ← confirmedCodexCleanupAllowsReplay env checkpoint
              if cleaned then do
                transactUnit env fun _ db => db.replaceFrom checkpoint.forReplay
                pure .proceed
              else if checkpoint.status = .running then do
                let outcome ← recoverOrStop env checkpoint
                  { code := "STAGE_INTERRUPTED", retryable := true } .blocked
                match outcome with
                | none => pure .restart
                | some outcome => pure (.finished outcome)
              else recoverStoredFailure env checkpoint

/-! ## One stage -/

/-- The stages a final `HOLD` skips. -/
def holdSkips : List SimpleStage :=
  [cweDone, techGateDone, scopeGateDone, findingDone, reportDone]

/-- A terminal PoC failure that no version bump may replay. -/
def terminalPocFailure (env : RunnerEnv) (checkpoint : StageCheckpoint) : Bool :=
  (checkpoint.status = .blocked || checkpoint.status = .failed)
    && !checkpoint.retryable
    && !(env.codexInvalidOutputResume
      && checkpoint.errorCode = some "INVALID_OUTPUT"
      && checkpoint.attemptNumber < maxRecoveryAttempts)

/-- What a recorded PoC decision returns: the promotion, or the stored status. -/
def stoppedPocOutcome (env : RunnerEnv) (checkpoint : StageCheckpoint) : Run RunOutcome := do
  let promoted ← promoteStoppedInconclusivePoc env checkpoint
  match promoted with
  | some outcome => pure outcome
  | none => pure checkpoint.outcome

/-- The stale stage-version branch of the loop: an outcome to return, or the checkpoint the
loop goes on with. -/
def resolveStageVersion (env : RunnerEnv) (identity : CheckpointIdentity)
    (stage : SimpleStage) (existing : StageCheckpoint) :
    Run (RunOutcome ⊕ Option StageCheckpoint) :=
  if existing.stageVersion = stage.stageVersion then pure (.inr (some existing))
  else if (stage = verificationInitialDone ∨ stage = verificationFinalDone)
      ∧ existing.status = .failed
      ∧ existing.errorCode = some "HYPOTHESIS_ANCHOR_INVALID"
      ∧ maxRecoveryAttempts ≤ existing.attemptNumber then
    pure (.inl existing.outcome)
  else if stage = verificationInitialDone
      ∧ existing.status = .blocked
      ∧ existing.errorCode = some "POC_OFFLINE_BASE_IMAGE_UNAVAILABLE" then
    pure (.inr (some existing))
  else if stage = verificationInitialDone
      ∧ existing.status = .blocked
      ∧ correctableEnvironmentError existing.errorCode then
    if maxRecoveryAttempts ≤ existing.attemptNumber then pure (.inl existing.outcome)
    else do
      let unresolved ← codexCallUnresolved env
      if unresolved then pure (.inl existing.outcome)
      else do
        transactUnit env fun _ db => db.replaceFrom existing.forUpgrade
        pure (.inr (some existing.forUpgrade))
  else if stage = pocExecutionDone
      ∧ (existing.status = .blocked ∨ existing.status = .failed)
      ∧ existing.errorCode = some "INVALID_OUTPUT"
      ∧ env.codexInvalidOutputResume
      ∧ existing.attemptNumber < maxRecoveryAttempts then do
    transactUnit env fun _ db => db.replaceFrom existing.forUpgrade
    pure (.inr (some existing.forUpgrade))
  else do
    transactUnit env fun _ db => .ok (db.invalidateFrom identity stage existing.inputRefs)
    pure (.inr none)

/-- `_gate_action`. -/
def gateAction (env : RunnerEnv) (checkpoint : StageCheckpoint) : Run StageStep :=
  if terminalGateOutcome (some checkpoint) ≠ none then
    pure (.finished { currentStage := techGateDone, status := .succeeded })
  else if checkpoint.stage = techGateDone
      ∧ checkpoint.status = .succeeded
      ∧ checkpoint.stageVersion = techGateDone.stageVersion
      ∧ checkpoint.gateDecision = some .revise then do
    let _ ← transact env fun now db => db.prepareGateRevision checkpoint now
    pure .restart
  else pure .next

/-- What the loop does with a reusable success. -/
def concludeReusable (env : RunnerEnv) (stage : SimpleStage) (reusable : StageCheckpoint) :
    Run StageStep :=
  if terminalInitialOutcome (some reusable) ≠ none then do
    let outcome ← verifiedInitialTerminal env reusable
    pure (.finished outcome)
  else if terminalPocOutcome (some reusable) ≠ none
      ∨ reusable.pocStopDecisionRef ≠ none then do
    let outcome ← verifiedPocTerminal env reusable
    pure (.finished outcome)
  else if stage = verificationFinalDone ∧ reusable.verdict = some .isFalse then
    pure (.finished { currentStage := stage, status := .succeeded })
  else gateAction env reusable

/-- What the loop does with a stage that has just succeeded. -/
def concludeCompleted (env : RunnerEnv) (stage : SimpleStage)
    (final : Option StageCheckpoint) (completed : StageCheckpoint) : Run StageStep :=
  if terminalInitialOutcome (some completed) ≠ none then do
    let outcome ← verifiedInitialTerminal env completed
    pure (.finished outcome)
  else if terminalPocOutcome (some completed) ≠ none
      ∨ completed.pocStopDecisionRef ≠ none then do
    let outcome ← verifiedPocTerminal env completed
    pure (.finished outcome)
  else if stage = verificationFinalDone ∧ completed.verdict = some .isFalse then
    pure (.finished { currentStage := stage, status := .succeeded })
  else if stage = chainingDone ∧ (final.bind (·.verdict)) = some .hold then
    pure (.finished { currentStage := stage, status := .succeeded })
  else gateAction env completed

/-- The failure an unexpected handler exception is recorded as. -/
def unexpectedFailure (code : Option String) : StageFailure :=
  { code :=
      String.ofList (((textOr code none).getD "STAGE_UNEXPECTED_ERROR").toList.take 160)
    retryable := true }

/-- A failed handler either restarts the loop or ends the call. -/
def afterFailure (recovered : Run (Option RunOutcome)) : Run StageStep := do
  let outcome ← recovered
  match outcome with
  | none => pure .restart
  | some outcome => pure (.finished outcome)

/-- Call the handler of a running stage and settle its outcome. -/
def invokeHandler (env : RunnerEnv) (stage : SimpleStage) (final : Option StageCheckpoint)
    (checkpoint : StageCheckpoint) (prior : List (SimpleStage × StageCheckpoint)) :
    Run StageStep :=
  match env.handlers stage with
  | none => do
      let _ ← transact env fun now db =>
        db.markFailure checkpoint { code := "STAGE_HANDLER_MISSING", retryable := false }
          .failed now
      pure (.finished
        { currentStage := stage
          status := .failed
          errorCode := some "STAGE_HANDLER_MISSING"
          attemptId := checkpoint.attemptId })
  | some handler => do
      let moment ← tick env
      Prog.change fun world => world.traced (.invoked stage)
      match handler moment checkpoint prior with
      | .cancelled => do
          let _ ← transact env fun now db =>
            db.markFailure checkpoint { code := "STAGE_CANCELLED", retryable := true }
              .blocked now
          Prog.exit .cancelled
      | .stageBlocked failure => afterFailure (recoverOrStop env checkpoint failure .blocked)
      | .stageFailed failure => afterFailure (recoverOrStop env checkpoint failure .failed)
      | .error code =>
          afterFailure (recoverOrStop env checkpoint (unexpectedFailure code) .blocked)
      | .result result => do
          let completed ← transact env fun now db => db.complete checkpoint result now
          concludeCompleted env stage final completed

/-- The checkpoint a new attempt of a stage inherits its environment and lineage from. -/
def inheritSource (existing preceding : Option StageCheckpoint) : Option StageCheckpoint :=
  match existing with
  | some checkpoint =>
      if checkpoint.recipeRef ≠ none ∧ checkpoint.imageDigest ≠ none then some checkpoint
      else preceding
  | none => preceding

/-- The attempt identifier of a new attempt: a first PoC execution joins its candidate. -/
def selectAttemptId (stage : SimpleStage) (existing preceding : Option StageCheckpoint)
    (fresh : String) : String :=
  match existing, preceding with
  | none, some candidate =>
      if stage = pocExecutionDone ∧ candidate.stage = pocCandidateDone then
        candidate.attemptId.getD fresh
      else fresh
  | _, _ => fresh

/-- Start the next attempt of a stage that is not reusable, and run it. -/
def startStage (env : RunnerEnv) (identity : CheckpointIdentity) (stage : SimpleStage)
    (final : Option StageCheckpoint) (inputRefs : List StoredDataRef) : Run StageStep := do
  let db ← tables
  let existing := db.get identity stage
  let prior := db.prior identity stage
  let preceding := prior.getLast?.map (·.2)
  let moment ← tick env
  let attemptId := selectAttemptId stage existing preceding (env.uuid4 moment)
  if existing.map (·.status) ≠ some .pending then
    transactUnit env fun _ db => .ok (db.invalidateFrom identity stage inputRefs)
  let checkpoint ← transact env fun now db =>
    db.markRunning identity stage inputRefs attemptId (inheritSource existing preceding) now
  Prog.change fun world => world.traced (.started stage existing)
  invokeHandler env stage final checkpoint prior

/-- The input references a stage is about to run on. -/
def stageInputs (env : RunnerEnv) (db : Database) (identity : CheckpointIdentity)
    (stage : SimpleStage) (existing : Option StageCheckpoint) : List StoredDataRef :=
  match env.policySnapshotRef with
  | some policy =>
      if stage = scopeGateDone ∧ existing = none then
        (db.inputRefsFor identity stage ++ [policy]).eraseDups
      else db.inputRefsFor identity stage
  | none => db.inputRefsFor identity stage

/-- Reuse a stored success of the stage or run the stage. -/
def reuseOrStart (env : RunnerEnv) (identity : CheckpointIdentity) (stage : SimpleStage)
    (final existing : Option StageCheckpoint) : Run StageStep := do
  let db ← tables
  let inputRefs := stageInputs env db identity stage existing
  if db.reusable identity stage inputRefs then
    match db.get identity stage with
    | some reusable => concludeReusable env stage reusable
    | none => Prog.exit (.raised (.lookupError "Missing SimpleRuntime checkpoint"))
  else startStage env identity stage final inputRefs

/-- Whether the loop asks `_recover_existing` about a stored checkpoint. -/
def asksRecovery (env : RunnerEnv) (existing : StageCheckpoint) : Bool :=
  env.recovery.isSome
    || (existing.status = .blocked || existing.status = .failed)
      && (!existing.retryable
        || env.codexInvalidOutputResume && existing.errorCode = some "INVALID_OUTPUT")

/-- Recover a stored checkpoint where needed, then reuse or start the stage. -/
def recoverOrRun (env : RunnerEnv) (identity : CheckpointIdentity) (stage : SimpleStage)
    (final existing : Option StageCheckpoint) : Run StageStep :=
  match existing with
  | none => reuseOrStart env identity stage final none
  | some checkpoint =>
      if asksRecovery env checkpoint then do
        let resumption ← recoverExisting env checkpoint
        match resumption with
        | .proceed => reuseOrStart env identity stage final existing
        | .restart => pure .restart
        | .finished outcome => pure (.finished outcome)
      else reuseOrStart env identity stage final existing

/-- One iteration of the stage loop. -/
def stageIteration (env : RunnerEnv) (identity : CheckpointIdentity) (stage : SimpleStage) :
    Run StageStep := do
  let db ← tables
  let final := db.get identity verificationFinalDone
  if (final.map fun checkpoint => (checkpoint.status, checkpoint.verdict))
        = some (.succeeded, some .hold)
      ∧ stage ∈ holdSkips then
    pure .next
  else
    match db.get identity stage with
    | none => recoverOrRun env identity stage final none
    | some existing => do
        let decided ← hasPriorPocRecoveryDecision env existing
        if decided then do
          let outcome ← stoppedPocOutcome env existing
          pure (.finished outcome)
        else if stage = pocExecutionDone ∧ terminalPocFailure env existing then
          pure (.finished existing.outcome)
        else do
          let resolved ← resolveStageVersion env identity stage existing
          match resolved with
          | .inl outcome => pure (.finished outcome)
          | .inr current => recoverOrRun env identity stage final current

/-! ## Passes -/

/-- One pass over the remaining stages. -/
def stagePass (env : RunnerEnv) (identity : CheckpointIdentity) :
    List SimpleStage → Run StageStep
  | [] => pure .next
  | stage :: rest => do
      let step ← stageIteration env identity stage
      match step with
      | .next => stagePass env identity rest
      | .restart => pure .restart
      | .finished outcome => pure (.finished outcome)

/-- The `while True` loop, for a bounded number of passes; no outcome when they are used up. -/
def runPasses (env : RunnerEnv) (identity : CheckpointIdentity) :
    Nat → Run (Option RunOutcome)
  | 0 => pure none
  | passes + 1 => do
      let step ← stagePass env identity hypothesisStages
      match step with
      | .next => pure (some { currentStage := reportDone, status := .succeeded })
      | .restart => runPasses env identity passes
      | .finished outcome => pure (some outcome)

/-! ## The call -/

/-- The repair checkpoint `_reset_incomplete_poc_attempt` seeds. -/
def repairSeed (identity : CheckpointIdentity) (candidate : StageCheckpoint)
    (execution : Option StageCheckpoint) (activityRefs : List StoredDataRef) (now : Nat) :
    StageCheckpoint :=
  let inputs :=
    (candidate.inputRefs ++ candidate.outputRefs
      ++ ((execution.map (·.outputRefs)).getD []) ++ activityRefs).eraseDups
  { identity
    stage := pocCandidateDone
    stageVersion := pocCandidateDone.stageVersion
    status := .pending
    inputRefs := inputs
    inputHash := inputReferenceHash inputs
    gateRevisionCount := candidate.gateRevisionCount
    recipeRef := candidate.recipeRef
    imageDigest := candidate.imageDigest
    containerId := candidate.containerId
    updatedAt := now
    inputHashExact := rfl }

/-- The last part of `_reset_incomplete_poc_attempt`: restart the candidate unless its
execution is reusable or was never begun. -/
def restartIncompletePair (env : RunnerEnv) (identity : CheckpointIdentity)
    (candidate : StageCheckpoint) (execution : Option StageCheckpoint) : Run Unit := do
  let db ← tables
  let executionInputs := db.inputRefsFor identity pocExecutionDone
  let reusableExecution :=
    execution.isSome && db.reusable identity pocExecutionDone executionInputs
  let attemptActivity :=
    match candidate.attemptId with
    | some attempt => db.stageActivity identity pocExecutionDone attempt
    | none => []
  let orphanedExecutionActivity := execution.isNone && !attemptActivity.isEmpty
  if reusableExecution || execution.isNone && !orphanedExecutionActivity then pure ()
  else
    transactUnit env fun now db =>
      db.replaceFrom
        (repairSeed identity candidate execution (attemptActivity.flatMap (·.outputRefs)) now)

/-- `_reset_incomplete_poc_attempt`. -/
def resetIncompletePocAttempt (env : RunnerEnv) (identity : CheckpointIdentity) : Run Unit := do
  let db ← tables
  match db.get identity pocCandidateDone with
  | none => pure ()
  | some candidate =>
      if candidate.status ≠ .succeeded then pure ()
      else
        match db.get identity pocExecutionDone with
        | none => restartIncompletePair env identity candidate none
        | some execution =>
            if execution.status = .succeeded
                ∧ execution.stageVersion ≠ pocExecutionDone.stageVersion then
              pure ()
            else if execution.errorCode = some "INVALID_OUTPUT" then pure ()
            else do
              let decided ← hasPriorPocRecoveryDecision env execution
              if decided
                  ∨ execution.status = .pending
                  ∨ (execution.status = .blocked ∨ execution.status = .failed)
                    ∧ ¬ execution.retryable then
                pure ()
              else restartIncompletePair env identity candidate (some execution)

/-- The check of a recorded terminal PoC before the loop. -/
def recordedPocTerminal (env : RunnerEnv) (identity : CheckpointIdentity) :
    Run (Option RunOutcome) := do
  let db ← tables
  match db.get identity pocExecutionDone with
  | none => pure none
  | some terminalPoc =>
      if terminalPocOutcome (some terminalPoc) ≠ none then
        if env.cleanupArtifacts.isNone then
          pure (some
            { currentStage := pocExecutionDone
              status := .blocked
              errorCode := some "POC_TERMINAL_EVIDENCE_INVALID"
              attemptId := terminalPoc.attemptId })
        else do
          let outcome ← verifiedPocTerminal env terminalPoc
          pure (some outcome)
      else do
        let decided ← hasPriorPocRecoveryDecision env terminalPoc
        if decided then do
          let outcome ← stoppedPocOutcome env terminalPoc
          pure (some outcome)
        else if terminalPocFailure env terminalPoc then
          pure (some { terminalPoc.outcome with currentStage := pocExecutionDone })
        else pure none

/-- `resume_hypothesis` after the reset of an incomplete PoC attempt. -/
def resumeFromRecords (env : RunnerEnv) (passes : Nat) (identity : CheckpointIdentity) :
    Run (Option RunOutcome) := do
  let recorded ← recordedPocTerminal env identity
  match recorded with
  | some outcome => pure (some outcome)
  | none => runPasses env identity passes

/-- `resume_hypothesis`, making at most `passes` passes over the stages. -/
def resumeHypothesis (env : RunnerEnv) (passes : Nat) (identity : CheckpointIdentity) :
    Run (Option RunOutcome) := do
  if env.recovery.isNone then resetIncompletePocAttempt env identity
  resumeFromRecords env passes identity

end Sastsimi.Runtime
