import Sastsimi.Ledger.CallSafety

/-!
# The gate of a run

`RunLimitedClient.call` asks a model under one gate for each analysis: it checks the budget on the
recorded attempts, reserves a Codex call, asks, records the attempt, and retries.  The tasks of a
process take their steps between two awaits in any order, and the process may die at any of them.
Whether a deadline has passed, how long a request took and what the model answered are answers of
a step.  The semaphore, which only delays a step, is left out.
-/

namespace Sastsimi.Ledger

open Lib Sastsimi.Runtime

variable [Platform]

/-! ## Budget -/

/-- `max_tokens`, `max_cost_minor_units` and `max_elapsed_seconds`; nothing is unlimited. -/
structure RunLimits where
  maxTokens : Option Int
  maxCost : Int
  maxElapsedSeconds : Option Int

/-- The providers that `RunLimitedClient` tells apart. -/
inductive LimitedProvider where
  | codexCli
  | openaiApi
  | other
  deriving DecidableEq

/-- What the clients of a run share: its analysis, its limits, the files of its artifacts and
`str.upper`. -/
structure RunScope where
  analysisId : String
  limits : RunLimits
  files : ArtifactFiles
  upper : String → String

/-- A failure that is not retried. -/
def refusal (code : String) : StageFailure := ⟨code, false, []⟩

/-- `_unresolved_codex_call_failure`. -/
def unresolvedFailure : StageFailure := refusal "CODEX_CALL_IN_FLIGHT_UNRESOLVED"

namespace CallLedger

variable (ledger : CallLedger)

/-- `llm_elapsed_ms`. -/
def llmElapsedMs (analysisId : String) : Int :=
  ((ledger.attemptsOf analysisId).map AttemptRow.elapsedMs).foldl (· + ·) 0

/-- The tokens that the attempts of an analysis reported. -/
def usedTokens (analysisId : String) : Int :=
  (ledger.usageSummary analysisId).inputTokens + (ledger.usageSummary analysisId).outputTokens

end CallLedger

/-- A field is absent or `null`. -/
def isNone : Option Json → Bool
  | none | some .null => true
  | _ => false

/-- An attempt without a cost may have been billed: its document cannot be read, or names the
API. -/
def mayBeBilled (files : ArtifactFiles) (attempt : AttemptRow) : Bool :=
  if attempt.costCents.isSome ∨ attempt.status ∈ noModelResponseStatuses then false
  else
    match files.read attempt.artifactRef with
    | some (.obj fields) =>
        decide (textOf (.obj fields) "provider" = some "openai-api")
          || decide (textOf (.obj fields) "kind" = some "simple_llm_attempt")
            && isNone ((Json.obj fields).get? "provider")
    | _ => true

namespace RunScope

variable (scope : RunScope) (ledger : CallLedger)

/-- `RunUsageBudget.check`. -/
def check : Option StageFailure :=
  let summary := ledger.usageSummary scope.analysisId
  let limits := scope.limits
  if ∃ most ∈ limits.maxTokens, most ≤ ledger.usedTokens scope.analysisId then
    some (refusal "LLM_TOKEN_BUDGET_EXHAUSTED")
  else if ∃ cost ∈ summary.costMinorUnits, (limits.maxCost : Rat) ≤ cost then
    some (refusal "LLM_COST_BUDGET_EXHAUSTED")
  else if ∃ most ∈ limits.maxElapsedSeconds,
      most * 1000 ≤ ledger.llmElapsedMs scope.analysisId then
    some (refusal "LLM_ELAPSED_BUDGET_EXHAUSTED")
  else if limits.maxTokens.isSome ∧ 0 < summary.unknownTokenCalls then
    some (refusal "LLM_TOKEN_USAGE_UNAVAILABLE")
  else none

/-- `_has_unknown_api_cost`. -/
def hasUnknownApiCost : Bool :=
  (ledger.attemptsOf scope.analysisId).any (mayBeBilled scope.files)

/-- `budget_failure`. -/
def budgetFailure (provider : LimitedProvider) : Option StageFailure :=
  match scope.check ledger with
  | some failure => some failure
  | none =>
      if provider = .openaiApi ∧ scope.hasUnknownApiCost ledger = true then
        some (refusal "LLM_COST_USAGE_UNAVAILABLE")
      else none

/-- `_terminal`. -/
def isTerminal (failure : StageFailure) : Bool :=
  ["AUTH", "MODEL", "BOUNDARY", "POLICY", "COUNTER_EVIDENCE", "SCOPE", "PERMISSION", "CREDENTIAL",
    "INVALID_REQUEST"].any fun fragment =>
      (scope.upper failure.code).toList.tails.any fun rest => fragment.toList.isPrefixOf rest

end RunScope

/-! ## Calls -/

/-- `RunLimitedClient`, of which at most two retries are made. -/
structure LimitedClient where
  provider : LimitedProvider
  model : String
  maxRetries : Nat
  atMostTwo : maxRetries ≤ 2

/-- The usage in a `SimpleLLMCallResult`, as the provider reported it. -/
structure ReportedUsage where
  inputTokens : Option Int
  outputTokens : Option Int
  costMinorUnits : Option Rat

/-- `token_count`. -/
def tokenCount (value : Option Int) : Option Int := value.filter fun count => decide (0 ≤ count)

/-- `cost_minor_units`. -/
def costMinorUnits (value : Option Rat) : Option Rat := value.filter fun cost => decide (0 ≤ cost)

/-- Where the task of a call is between two awaits. -/
inductive CallPhase where
  | waiting
  | inFlight (callId : Option String)
  | sleeping
  | returned (usage : ReportedUsage)
  | refused (failure : StageFailure)
  | raised

namespace CallPhase

/-- The model is being asked. -/
def isInFlight : CallPhase → Bool
  | .inFlight _ => true
  | _ => false

/-- The task has not ended. -/
def isLive : CallPhase → Bool
  | .waiting | .inFlight _ | .sleeping => true
  | _ => false

end CallPhase

/-- A call of `RunLimitedClient.call`, with the variables of its loop. -/
structure LimitedCall where
  client : LimitedClient
  agent : String
  owner : Option AttemptOwner
  promptBytes : Option PromptByteCounts
  attempt : Nat := 1
  previousAttemptId : Option String := none
  lastFailure : StageFailure := ⟨"TIMED_OUT", true, []⟩
  phase : CallPhase := .waiting

/-- How a request ended. -/
inductive Outcome where
  | success (usage : ReportedUsage)
  | failure (failure : StageFailure)
  | timedOut
  | failed
  | cancelled

/-- What the clock, the identifiers and the files answer while an attempt is recorded. -/
structure Recording where
  drawnId : String
  elapsedMs : Nat
  artifact : Except PyError StoredDataRef
  marker : String
  now : Nat
  expired : Bool

/-- `_final_failure`. -/
def finalFailure (failure : StageFailure) : StageFailure :=
  if failure.code = "INVALID_OUTPUT" then { failure with retryable := false } else failure

namespace LimitedCall

variable (scope : RunScope) (call : LimitedCall) (ledger : CallLedger)

/-- The task ended. -/
def ends (phase : CallPhase) : LimitedCall := { call with phase }

/-- The row of the attempt that is recorded. -/
def attemptRow (callId : Option String) (recording : Recording) (ref : StoredDataRef)
    (status : String) (usage : Option ReportedUsage) : AttemptRow where
  attemptId := callId.getD recording.drawnId
  analysisId := scope.analysisId
  agent := call.agent
  model := call.client.model
  attemptNumber := call.attempt
  status := status
  elapsedMs := recording.elapsedMs
  inputTokens := usage.bind fun usage => tokenCount usage.inputTokens
  outputTokens := usage.bind fun usage => tokenCount usage.outputTokens
  costCents := usage.bind fun usage => costMinorUnits usage.costMinorUnits
  artifactRef := ref

/-- `record_attempt`. -/
def recordAttempt (callId : Option String) (recording : Recording) (status : String)
    (usage : Option ReportedUsage) : Except PyError (AttemptRow × CallLedger) := do
  let ref ← recording.artifact
  let row := call.attemptRow scope callId recording ref status usage
  let recorded ← ledger.recordLlmAttempt row call.owner call.previousAttemptId call.promptBytes
    recording.marker
  pure (row, recorded)

/-- `mark_codex_call_safe`, for a Codex call. -/
def markSafe (callId : Option String) (now : Nat) : Except PyError CallLedger :=
  match callId with
  | some callId => ledger.markCodexCallSafe callId scope.analysisId now
  | none => .ok ledger

/-- What the task does about a failure that was recorded, while it still holds the gate. -/
def retry (failure : StageFailure) (expired : Bool) : LimitedCall :=
  if failure.retryable = true ∧ call.attempt ≤ call.client.maxRetries then
    match scope.budgetFailure ledger call.client.provider with
    | some refused => call.ends (.refused refused)
    | none =>
        if expired then call.ends (.refused (finalFailure failure))
        else { call with lastFailure := failure, phase := .sleeping }
  else call.ends (.refused failure)

/-- A failure with what ends its retries. -/
def settledFailure (result : StageFailure) : StageFailure :=
  { result with
    retryable := result.retryable && !(scope.isTerminal result
      || decide (result.code = "INVALID_OUTPUT" ∧ call.client.maxRetries < call.attempt)
      || decide (result.code = "CODEX_PROCESS_CLEANUP_UNCONFIRMED")) }

/-- A recorded failure: a Codex call whose process may be left behind stays in flight. -/
def settleFailure (callId : Option String) (failure : StageFailure) (innerReturned : Bool)
    (recording : Recording) : CallLedger × LimitedCall :=
  if callId.isSome ∧ (innerReturned = false ∨ failure.code = "CODEX_PROCESS_CLEANUP_UNCONFIRMED")
  then (ledger, call.ends (.refused (if innerReturned then failure else unresolvedFailure)))
  else
    match markSafe scope ledger callId recording.now with
    | .ok safe => (safe, call.retry scope safe failure recording.expired)
    | .error _ => (ledger, call.ends .raised)

/-- A request failed: its attempt is recorded under its failure. -/
def settleFailed (callId : Option String) (result : StageFailure) (innerReturned : Bool)
    (recording : Recording) : CallLedger × Option AttemptRow × LimitedCall :=
  let failure := call.settledFailure scope result
  match call.recordAttempt scope ledger callId recording failure.code none with
  | .ok (row, recorded) =>
      let settled := { call with previousAttemptId := some row.attemptId }.settleFailure scope
        recorded callId failure innerReturned recording
      (settled.1, some row, settled.2)
  | .error _ => (ledger, none, call.ends .raised)

/-- The request of a task ended: its attempt is recorded, with the row when that returns. -/
def settle (callId : Option String) (outcome : Outcome) (recording : Recording) :
    CallLedger × Option AttemptRow × LimitedCall :=
  match outcome with
  | .success usage =>
      match call.recordAttempt scope ledger callId recording "SUCCEEDED" (some usage) with
      | .ok (row, recorded) =>
          match markSafe scope recorded callId recording.now with
          | .ok safe => (safe, some row, call.ends (.returned usage))
          | .error _ => (recorded, some row, call.ends .raised)
      | .error _ => (ledger, none, call.ends .raised)
  | .cancelled =>
      match call.recordAttempt scope ledger callId recording "CANCELLED" none with
      | .ok (row, recorded) => (recorded, some row, call.ends .raised)
      | .error _ => (ledger, none, call.ends .raised)
  | .failure failure => call.settleFailed scope ledger callId failure true recording
  | .timedOut => call.settleFailed scope ledger callId ⟨"TIMED_OUT", true, []⟩ false recording
  | .failed => call.settleFailed scope ledger callId ⟨"FAILED", true, []⟩ false recording

/-- The task has the gate: it is refused, or asks the model. -/
def grant (expired : Bool) (drawnId marker : String) (now : Nat) : CallLedger × LimitedCall :=
  let codex := decide (call.client.provider = .codexCli)
  if codex = true ∧ (ledger.unresolvedCodexCall scope.analysisId).isSome = true then
    (ledger, call.ends (.refused unresolvedFailure))
  else
    match scope.budgetFailure ledger call.client.provider with
    | some failure => (ledger, call.ends (.refused failure))
    | none =>
        if expired then (ledger, call.ends (.refused (finalFailure call.lastFailure)))
        else if codex then
          match ledger.beginCodexCall drawnId scope.analysisId now marker with
          | .ok (true, begun) => (begun, call.ends (.inFlight (some drawnId)))
          | .ok (false, _) => (ledger, call.ends (.refused unresolvedFailure))
          | .error _ => (ledger, call.ends .raised)
        else (ledger, call.ends (.inFlight none))

end LimitedCall

/-! ## Runs -/

/-- An attempt that was recorded, with the attempts of the analysis before it. -/
structure RecordedAttempt where
  call : Nat
  attempt : Nat
  row : AttemptRow
  retryOf : Option String
  before : List AttemptRow

/-- The tasks of a run with the ledger and the gate, and what became of their requests. -/
structure RunGate where
  ledger : CallLedger
  holder : Option Nat := none
  calls : List LimitedCall := []
  asked : List (Nat × Nat) := []
  recorded : List RecordedAttempt := []
  lost : List (Nat × Nat) := []

/-- A step of a run.  `outside` is an operation of the rest of the runtime. -/
inductive GateStep where
  | call (client : LimitedClient) (agent : String) (owner : Option AttemptOwner)
      (promptBytes : Option PromptByteCounts)
  | grant (index : Nat) (expired : Bool) (drawnId marker : String) (now : Nat)
  | settle (index : Nat) (outcome : Outcome) (recording : Recording)
  | wake (index : Nat)
  | stop (index : Nat)
  | crash
  | outside (operation : LedgerCall)

/-- Operations beside the calls and the attempts: they are made while a model is asked. -/
def LedgerCall.isBeside : LedgerCall → Bool
  | .beginChild .. | .recordChild .. | .exitChild .. | .other .. => true
  | _ => false

/-- Operations that settle a call which a process left in flight. -/
def LedgerCall.isRecovery : LedgerCall → Bool
  | .confirm .. | .reconcile .. => true
  | _ => false

namespace RunGate

variable (scope : RunScope) (isoformat : Nat → String) (gate : RunGate)

/-- A call ended before it took the gate: the owner belongs to another analysis. -/
def begin (client : LimitedClient) (agent : String) (owner : Option AttemptOwner)
    (promptBytes : Option PromptByteCounts) : LimitedCall where
  client
  agent
  owner
  promptBytes
  phase := if ∃ found ∈ owner, found.analysisId ≠ scope.analysisId then .raised else .waiting

/-- The requests in flight: the one of the task that holds the gate. -/
def flight : List (Nat × Nat) :=
  gate.holder.toList.flatMap fun index =>
    gate.calls[index]?.toList.map fun call => (index, call.attempt)

/-- The gate after a task took it and asked, or was refused. -/
def grant (index : Nat) (call : LimitedCall) (expired : Bool) (drawnId marker : String)
    (now : Nat) : RunGate :=
  let admitted := call.grant scope gate.ledger expired drawnId marker now
  let asks := admitted.2.phase.isInFlight
  { gate with
    ledger := admitted.1
    holder := if asks then some index else none
    calls := gate.calls.set index admitted.2
    asked := if asks then gate.asked ++ [(index, call.attempt)] else gate.asked }

/-- The gate after the task that holds it recorded its request. -/
def settle (index : Nat) (call : LimitedCall) (callId : Option String) (outcome : Outcome)
    (recording : Recording) : RunGate :=
  let settled := call.settle scope gate.ledger callId outcome recording
  { gate with
    ledger := settled.1
    holder := none
    calls := gate.calls.set index settled.2.2
    recorded := gate.recorded ++ settled.2.1.toList.map fun row =>
      ⟨index, call.attempt, row, call.previousAttemptId,
        gate.ledger.attemptsOf scope.analysisId⟩
    lost := if settled.2.1.isSome then gate.lost else gate.lost ++ [(index, call.attempt)] }

/-- The process dies: its tasks end, and the request in flight is lost. -/
def crash : RunGate :=
  { gate with
    holder := none
    calls := gate.calls.map fun call => if call.phase.isLive then call.ends .raised else call
    lost := gate.lost ++ gate.flight }

/-- One step.  A step that its task cannot take changes nothing. -/
def step : GateStep → RunGate
  | .call client agent owner promptBytes =>
      { gate with calls := gate.calls ++ [begin scope client agent owner promptBytes] }
  | .grant index expired drawnId marker now =>
      match gate.calls[index]?, gate.holder with
      | some call, none =>
          match call.phase with
          | .waiting => gate.grant scope index call expired drawnId marker now
          | _ => gate
      | _, _ => gate
  | .settle index outcome recording =>
      match gate.calls[index]? with
      | some call =>
          match call.phase with
          | .inFlight callId => gate.settle scope index call callId outcome recording
          | _ => gate
      | none => gate
  | .wake index =>
      match gate.calls[index]? with
      | some call =>
          match call.phase with
          | .sleeping =>
              { gate with
                calls := gate.calls.set index
                  { call with attempt := call.attempt + 1, phase := .waiting } }
          | _ => gate
      | none => gate
  | .stop index =>
      match gate.calls[index]? with
      | some call =>
          match call.phase with
          | .waiting | .sleeping => { gate with calls := gate.calls.set index (call.ends .raised) }
          | _ => gate
      | none => gate
  | .crash => gate.crash
  | .outside operation =>
      if operation.isBeside = true ∨ operation.isRecovery = true ∧ gate.holder = none then
        { gate with ledger := (perform scope.files isoformat gate.ledger operation).1 }
      else gate

/-- A run of steps, in any order. -/
def run (steps : List GateStep) : RunGate := steps.foldl (step scope isoformat) gate

end RunGate

end Sastsimi.Ledger
