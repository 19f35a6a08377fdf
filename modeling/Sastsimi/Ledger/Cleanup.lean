import Sastsimi.Ledger.Calls

/-!
# Confirmed cleanups and usage

A Codex process that may have outlived its parent keeps its call in flight until a stored
inventory confirms that its process tree stopped.  The confirmation is checked against the
tables before the transaction begins; the transaction then appends a decision event and settles
the call.  The usage of an analysis is read from attempts, calls and confirmation events.
-/

namespace Sastsimi.Ledger

open Lib Sastsimi.Runtime SimpleStage

variable [Platform]

/-! ## Observations -/

/-- What a confirmation is compared with besides the tables: the clock, the processes, and how
texts of moments are read. -/
structure Observation where
  now : Nat
  /-- `datetime.fromisoformat`, of a text with a time zone. -/
  fromisoformat : String → Option Nat
  /-- `hashlib.sha256(canonical_bytes(checkpoint)).hexdigest()`. -/
  checkpointDigest : StageCheckpoint → String
  /-- `child_identity_matches`. -/
  childIdentityMatches : Int → String → Option Bool
  /-- `windows_boot_time_utc`. -/
  windowsBootTime : Option Nat

/-- A duration in microseconds. -/
def seconds (count : Nat) : Nat := count * 1000000

/-- The value of a hexadecimal digit in lower case. -/
def hexDigit (digit : Char) : Option Nat :=
  if '0' ≤ digit ∧ digit ≤ '9' then some (digit.toNat - '0'.toNat)
  else if 'a' ≤ digit ∧ digit ≤ 'f' then some (digit.toNat - 'a'.toNat + 10)
  else none

/-- `_windows_child_started_at`: the file time in a start identity, unless it lies beyond the
last day of the calendar. -/
def windowsChildStartedAt (startIdentity : String) : Option Nat :=
  let digits := (startIdentity.toList.drop 8).mapM hexDigit
  match digits with
  | some digits =>
      if startIdentity.toList.take 8 = "windows:".toList ∧ digits.length = 16 then
        let moment := 50491123200000000 + digits.foldl (fun value digit => value * 16 + digit) 0 / 10
        if moment < 315537897600000000 then some moment else none
      else none
  | none => none

/-- The repositories an operation is called with. -/
structure Artifacts where
  identity : CheckpointIdentity
  sameDatabase : Bool := true

/-! ## Statuses -/

/-- `_NO_MODEL_RESPONSE_STATUSES`. -/
def noModelResponseStatuses : List String :=
  ["AUTH_REQUIRED", "RATE_LIMITED", "OPENAI_SDK_UNAVAILABLE", "MODEL_OR_REQUEST_UNSUPPORTED",
    "CONTEXT_LIMIT_EXCEEDED", "CURSOR_AUTH_REQUIRED", "CURSOR_AUTH_FAILED",
    "CURSOR_CONFIGURATION_FAILED", "CURSOR_PLAN_LIMIT", "CURSOR_RATE_LIMITED",
    "CLAUDE_AUTH_REQUIRED", "CLAUDE_RATE_LIMITED"]

/-- An attempt whose model answered without a token count. -/
def AttemptRow.lacksTokens (attempt : AttemptRow) : Bool :=
  (attempt.inputTokens.isNone || attempt.outputTokens.isNone)
    && decide (attempt.status ∉ noModelResponseStatuses)

/-! ## Confirmations -/

/-- The text under a key of a document. -/
def textOf (marker : Json) (key : String) : Option String := (marker.get? key).bind Json.str?

/-- The number under a key of a document. -/
def numberOf (marker : Json) (key : String) : Option Int := (marker.get? key).bind Json.int?

/-- The moment under a key of a document. -/
def momentOf (observed : Observation) (marker : Json) (key : String) : Option Nat :=
  (textOf marker key).bind observed.fromisoformat

/-- A stage whose failure a confirmation without a call may settle. -/
def legacyStage (checkpoint : StageCheckpoint) : Prop :=
  checkpoint.stage = hypothesisDone ∧ checkpoint.identity.hypothesisId = none
    ∨ checkpoint.stage ∈ hypothesisStages ∧ checkpoint.identity.hypothesisId ≠ none

instance (checkpoint : StageCheckpoint) : Decidable (legacyStage checkpoint) :=
  inferInstanceAs (Decidable (_ ∨ _))

/-- The call a marker names: nothing when the marker may not settle the checkpoint, and no call
when it names none. -/
def markedCall (marker : Json) (checkpoint : StageCheckpoint) : Option (Option String) :=
  match marker.get? "call_id" with
  | some (.str callId) =>
      if callId ≠ "" ∧ checkpoint.status ∈ [.running, .blocked, .failed] then some (some callId)
      else none
  | some _ => none
  | none =>
      if legacyStage checkpoint
          ∧ checkpoint.errorCode = some "CODEX_PROCESS_CLEANUP_UNCONFIRMED"
          ∧ checkpoint.status ∈ [.blocked, .failed] then
        some none
      else none

/-- The child an inventory lists is the one the ledger captured. -/
def listsChild (listed : Json) (child : ChildRow) : Bool :=
  match listed with
  | .obj fields =>
      decide (fields.length = 3)
        && decide (textOf listed "phase" = some child.phase)
        && decide (numberOf listed "pid" = child.pid)
        && decide (textOf listed "start_identity" = child.startIdentity)
  | _ => false

/-- The phase a listed child is sorted by. -/
def listedPhase (listed : Json) : String := (textOf listed "phase").getD ""

/-- The inventory lists exactly the captured children. -/
def listsChildren (listed : Json) (children : List ChildRow) : Bool :=
  match listed with
  | .arr items =>
      let sorted := items.mergeSort fun left right => decide (listedPhase left ≤ listedPhase right)
      decide (sorted.length = children.length)
        && (sorted.zip children).all fun (item, child) => listsChild item child
  | _ => false

namespace CallLedger

variable (files : ArtifactFiles) (observed : Observation) (seen : CallLedger)

/-- `child_rows`, in the order of their phases. -/
def childRows (callId analysisId : String) : List ChildRow :=
  (seen.children.rows.filter fun child =>
      decide (child.callId = callId) && decide (child.analysisId = analysisId)).mergeSort
    fun left right => decide (left.phase ≤ right.phase)

/-- The pipeline version a call was reserved by. -/
def versionOf (callId analysisId : String) : Option Int :=
  ((seen.versions.find callId).filter fun version => version.analysisId = analysisId).map
    (·.candidatePipelineVersion)

/-- The attempt of a call that started after the checkpoint was written belongs to the
checkpoint and failed to confirm its cleanup. -/
def ownsLaterCall (callId : String) (checkpoint : StageCheckpoint) : Bool :=
  let identity := checkpoint.identity
  match (seen.metadata.find callId).filter (fun row => row.analysisId = identity.analysisId),
      seen.attemptOf callId identity.analysisId with
  | some row, some attempt =>
      decide (row.owner.map (·.stage) = some checkpoint.stage.value)
        && decide (row.owner.bind (·.hypothesisId) = identity.hypothesisId)
        && decide (row.owner.bind (·.checkpointAttemptId) = checkpoint.attemptId)
        && decide (attempt.status = "CODEX_PROCESS_CLEANUP_UNCONFIRMED")
        && decide (attempt.artifactRef.workspaceId = identity.workspaceId)
        && decide (attempt.artifactRef.commitId = identity.commitId)
        && (match files.read attempt.artifactRef with
            | some marker =>
                decide (textOf marker "kind" = some "simple_llm_attempt")
                  && decide (textOf marker "provider" = some "codex-cli")
                  && decide (textOf marker "status" = some "CODEX_PROCESS_CLEANUP_UNCONFIRMED")
            | none => false)
  | _, _ => false

/-- A reboot after the call and the checkpoint ended every captured child. -/
def rebootEnded (marker : Json) (observedAt : Nat) (callId : String)
    (checkpoint : StageCheckpoint) (children : List ChildRow) : Bool :=
  match momentOf observed marker "observed_boot_at",
      seen.callOf callId checkpoint.identity.analysisId, observed.windowsBootTime with
  | some recordedBoot, some call, some liveBoot =>
      let predates := decide (checkpoint.updatedAt ≤ call.startedAt)
      (!predates || seen.ownsLaterCall files callId checkpoint)
        && (call.status = .inFlight || call.status = .confirmed)
        && decide (call.startedAt < recordedBoot)
        && decide (checkpoint.updatedAt < recordedBoot)
        && decide (recordedBoot ≤ observedAt)
        && decide (liveBoot ≤ observed.now + seconds 60)
        && !(call.status = .inFlight
          && (decide (recordedBoot + seconds 60 < liveBoot)
            || decide (liveBoot + seconds 60 < recordedBoot)))
        && !(call.status = .confirmed && decide (liveBoot + seconds 60 < recordedBoot))
        && children.all fun child =>
          match windowsChildStartedAt (child.startIdentity.getD "") with
          | none => false
          | some startedAt =>
              decide (call.startedAt ≤ startedAt)
                && decide (startedAt < if predates then recordedBoot else checkpoint.updatedAt)
                && decide (startedAt < liveBoot)
                && observed.childIdentityMatches (child.pid.getD 0)
                  (child.startIdentity.getD "") ≠ some true
  | _, _, _ => false

/-- The children of a strictly identified call are all captured, all listed and all gone. -/
def childrenGone (marker : Json) (observedAt : Nat) (callId : String)
    (checkpoint : StageCheckpoint) : Bool :=
  let children := seen.childRows callId checkpoint.identity.analysisId
  decide (children ≠ [])
    && children.all (fun child =>
      child.status ≠ .spawning && child.pid.isSome && (textOr child.startIdentity none).isSome)
    && listsChildren (marker.getD "observed_children" .null) children
    && children.any (fun child => decide (numberOf marker "former_parent_pid" = child.pid))
    && (if textOf marker "verification_method" = some "windows_reboot" then
          seen.rebootEnded files observed marker observedAt callId checkpoint children
        else
          children.all fun child =>
            observed.childIdentityMatches (child.pid.getD 0) (child.startIdentity.getD "")
              = some false)

/-- A call with children, or one that a pipeline of version 2 or later reserved. -/
def StrictIdentity (callId : String) (analysisId : String) : Prop :=
  seen.childRows callId analysisId ≠ [] ∨ ∃ version ∈ seen.versionOf callId analysisId, 2 ≤ version

instance (callId analysisId : String) : Decidable (seen.StrictIdentity callId analysisId) :=
  inferInstanceAs (Decidable (_ ∨ _))

end CallLedger

/-- The marker is an inventory of this checkpoint that found no process. -/
def confirmsCleanup (observed : Observation) (marker : Json) (checkpoint : StageCheckpoint) :
    Bool :=
  decide (textOf marker "kind" = some "simple_codex_cleanup_confirmation")
    && decide (textOf marker "analysis_id" = some checkpoint.identity.analysisId)
    && decide (textOf marker "stage" = some checkpoint.stage.value)
    && decide (textOf marker "attempt_id" = checkpoint.attemptId)
    && decide (textOf marker "checkpoint_sha256" = some (observed.checkpointDigest checkpoint))
    && (match marker.get? "process_tree_stopped" with
        | some (.bool stopped) => stopped
        | _ => false)
    && decide (textOf marker "verification_method"
      ∈ [some "windows_process_inventory", some "posix_process_inventory", some "windows_reboot"])
    && (match numberOf marker "former_parent_pid" with
        | some pid => decide (0 < pid)
        | none => false)
    && decide (numberOf marker "observed_matching_process_count" = some 0)

namespace CallLedger

variable (files : ArtifactFiles) (observed : Observation)

/-- `_codex_cleanup_confirmation_valid`, with the call the marker names. -/
def codexCleanupConfirmationValid (seen : CallLedger) (checkpoint : StageCheckpoint)
    (ref : StoredDataRef) (artifacts : Artifacts) : Option (Option String) :=
  let identity := checkpoint.identity
  if artifacts.identity ≠ identity ∨ ref.workspaceId ≠ identity.workspaceId
      ∨ ref.commitId ≠ identity.commitId ∨ checkpoint.attemptId = none then
    none
  else
    match (files.read ref).filter Json.isObj with
    | none => none
    | some marker =>
        match markedCall marker checkpoint, momentOf observed marker "observed_at" with
        | some callId, some observedAt =>
            if observedAt ≤ checkpoint.updatedAt
                ∨ observed.now + seconds 300 < observedAt then
              none
            else if (∃ call ∈ callId, seen.StrictIdentity call identity.analysisId
                ∧ seen.childrenGone files observed marker observedAt call checkpoint = false)
                ∨ confirmsCleanup observed marker checkpoint = false then
              none
            else some callId
        | _, _ => none

variable (ledger : CallLedger)

/-- The events of an attempt. -/
def priorEvents (checkpoint : StageCheckpoint) (attemptId : String) : List AgentActivityEvent :=
  ledger.db.activity.filter fun event =>
    decide (event.analysisId = checkpoint.identity.analysisId)
      && decide (event.hypothesisId.getD "" = hypothesisKey checkpoint.identity)
      && decide (event.attemptId = attemptId)

/-- Append the decision event of a confirmation, under the first free number of its range. -/
def appendConfirmation (checkpoint : StageCheckpoint) (attemptId : String)
    (ref : StoredDataRef) : Except PyError CallLedger := do
  let used := (ledger.priorEvents checkpoint attemptId).map (·.sequence)
  let sequence ← required
    (((List.range' 21 78).map (stageSequence checkpoint.stage)).find? fun value => value ∉ used)
    (.valueError "CODEX_CLEANUP_CONFIRMATION_EVENT_LIMIT")
  let event ← lifecycleEvent checkpoint .decisionRecorded sequence checkpoint.status
    "하위 Codex 프로세스 종료 확인 후 재개를 승인했습니다." [ref]
    (some "CODEX_PROCESS_CLEANUP_CONFIRMED")
  let activity ← appendEvent ledger.db.activity event
  pure { ledger with db := { ledger.db with activity } }

/-- The attempt of a confirmed call that recorded none. -/
def usageUnavailable (callId analysisId : String) (ref : StoredDataRef) : AttemptRow where
  attemptId := callId
  analysisId := analysisId
  agent := "unknown"
  model := "unknown"
  attemptNumber := 0
  status := "CODEX_USAGE_UNAVAILABLE"
  elapsedMs := 0
  inputTokens := none
  outputTokens := none
  costCents := none
  artifactRef := ref

/-- The attempt of a confirmed call: the recorded one, or a row without usage. -/
def attemptOfConfirmed (callId analysisId : String) (ref : StoredDataRef) :
    Except PyError CallLedger :=
  match ledger.attempts.find callId with
  | some attempt =>
      if attempt.analysisId = analysisId then .ok ledger
      else .error (.valueError "LLM_ATTEMPT_CONFLICT")
  | none => do
      let attempts ← required
        (ledger.attempts.insert (usageUnavailable callId analysisId ref)) .sqliteError
      pure { ledger with attempts }

/-- The captured children of a call have exited. -/
def exitChildren (callId analysisId : String) : CallLedger :=
  { ledger with
    children := ledger.children.update
      (fun row => decide (row.callId = callId) && decide (row.analysisId = analysisId)
        && decide (row.status = .captured))
      (fun row => { row with status := .exited }) ChildRow.key_exited }

/-- The transaction of a confirmation without a call. -/
def confirmLegacyCleanup (checkpoint : StageCheckpoint) (attemptId : String)
    (ref : StoredDataRef) (marker : String) : Except PyError CallLedger := do
  let analysisId := checkpoint.identity.analysisId
  raiseIf (ledger.unresolvedCodexCall analysisId ≠ none)
    (.valueError "CODEX_CLEANUP_CONFIRMATION_INVALID")
  if ∃ event ∈ ledger.priorEvents checkpoint attemptId,
      event.errorCode = some "CODEX_PROCESS_CLEANUP_CONFIRMED" ∧ event.outputRefs = [ref] then
    pure ledger
  else
    let appended ← ledger.appendConfirmation checkpoint attemptId ref
    pure (appended.markDashboardDirty analysisId marker)

/-- The transaction of a confirmation that names the call in flight. -/
def confirmCallCleanup (checkpoint : StageCheckpoint) (attemptId callId : String)
    (ref : StoredDataRef) (now : Nat) (marker : String) : Except PyError CallLedger := do
  let analysisId := checkpoint.identity.analysisId
  raiseIf (ledger.unresolvedCodexCall analysisId ≠ some callId)
    (.valueError "CODEX_CLEANUP_CONFIRMATION_INVALID")
  let appended ← ledger.appendConfirmation checkpoint attemptId ref
  let recorded ← appended.attemptOfConfirmed callId analysisId ref
  let confirmed ← recorded.confirmCall callId analysisId now ref
    (.valueError "CODEX_CLEANUP_CONFIRMATION_STALE")
  pure ((confirmed.exitChildren callId analysisId).markDashboardDirty analysisId marker)

/-- Only the first pipeline version is confirmed without a call. -/
def pipelineAllows (seen : CallLedger) (analysisId : String) :
    Option String → Except PyError Unit
  | some _ => .ok ()
  | none => do
      let run ← required (seen.runs analysisId) (.lookupError "SIMPLE_ANALYSIS_RUN_NOT_FOUND")
      raiseIf (run.candidatePipelineVersion ≠ some 1)
        (.valueError "CODEX_CLEANUP_CONFIRMATION_INVALID")

/-- `confirm_codex_cleanup`.  The confirmation is checked on the tables `seen` before the
transaction begins on `ledger`. -/
def confirmCodexCleanup (seen ledger : CallLedger) (checkpoint : StageCheckpoint)
    (ref : StoredDataRef) (artifacts : Artifacts) (leaseBusy : Bool) (marker : String) :
    Except PyError CallLedger := do
  raiseIf (artifacts.sameDatabase = false) (.valueError "CODEX_CLEANUP_CONFIRMATION_INVALID")
  raiseIf (leaseBusy = true) (.valueError "CODEX_CLEANUP_CONFIRMATION_ACTIVE_RUN")
  let callId ← required (codexCleanupConfirmationValid files observed seen checkpoint ref artifacts)
    (.valueError "CODEX_CLEANUP_CONFIRMATION_INVALID")
  seen.pipelineAllows checkpoint.identity.analysisId callId
  raiseIf (ledger.db.checkpoints (checkpoint.identity.key checkpoint.stage) ≠ some checkpoint)
    (.valueError "CODEX_CLEANUP_CONFIRMATION_STALE")
  let attemptId ← required checkpoint.attemptId (.valueError "CODEX_CLEANUP_CONFIRMATION_INVALID")
  match callId with
  | none => ledger.confirmLegacyCleanup checkpoint attemptId ref marker
  | some callId => ledger.confirmCallCleanup checkpoint attemptId callId ref observed.now marker

/-! ## Usage -/

/-- What `usage_summary` returns. -/
structure UsageSummary where
  calls : Nat
  inputTokens : Int
  outputTokens : Int
  costMinorUnits : Option Rat
  unknownCostCalls : Nat
  unknownTokenCalls : Nat
  unlinkedCodexUsageCalls : Nat
  unrecordedInFlightCodexCalls : Nat
  deriving DecidableEq

/-- The attempts of an analysis. -/
def attemptsOf (analysisId : String) : List AttemptRow :=
  ledger.attempts.rows.filter fun attempt => attempt.analysisId = analysisId

/-- `tracked_rows`: the calls of an analysis that are in flight or confirmed. -/
def trackedCalls (analysisId : String) : List CallRow :=
  ledger.calls.rows.filter fun call =>
    decide (call.analysisId = analysisId)
      && (decide (call.status = .confirmed) || decide (call.status = .inFlight))

/-- `missing_tracked`: the tracked calls without an attempt. -/
def missingTracked (analysisId : String) : List CallRow :=
  (ledger.trackedCalls analysisId).filter fun call =>
    (ledger.attemptOf call.callId analysisId).isNone

/-- The references that confirmation events of an analysis name. -/
def confirmationRefs (analysisId : String) : List StoredDataRef :=
  ledger.db.activity.filterMap fun event =>
    if event.analysisId = analysisId ∧ event.kind = .decisionRecorded
        ∧ event.errorCode = some "CODEX_PROCESS_CLEANUP_CONFIRMED" then
      match event.outputRefs with
      | [ref] => some ref
      | _ => none
    else none

/-- `legacy_refs`: the confirmations that settled no tracked call. -/
def legacyRefs (analysisId : String) : List StoredDataRef :=
  let tracked := (ledger.trackedCalls analysisId).filterMap fun call =>
    if call.status = .confirmed then call.confirmationRef else none
  ((ledger.confirmationRefs analysisId).filter fun ref => ref ∉ tracked).eraseDups

/-- `usage_summary`. -/
def usageSummary (analysisId : String) : UsageSummary :=
  let attempts := ledger.attemptsOf analysisId
  let missing := ledger.missingTracked analysisId
  let costs := attempts.filterMap (·.costCents)
  let unlinked := missing.length + (ledger.legacyRefs analysisId).length
  { calls := attempts.countP (fun attempt => attempt.status ≠ "CODEX_NOT_SPAWNED") + unlinked
    inputTokens := (attempts.filterMap (·.inputTokens)).foldl (· + ·) 0
    outputTokens := (attempts.filterMap (·.outputTokens)).foldl (· + ·) 0
    costMinorUnits := if costs = [] then none else some (costs.foldl (· + ·) 0)
    unknownCostCalls := attempts.countP (·.costCents.isNone) + unlinked
    unknownTokenCalls := attempts.countP (·.lacksTokens) + unlinked
    unlinkedCodexUsageCalls := unlinked
    unrecordedInFlightCodexCalls := missing.countP fun call => call.status = .inFlight }

end CallLedger

end Sastsimi.Ledger
