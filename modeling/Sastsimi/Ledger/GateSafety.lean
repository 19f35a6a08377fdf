import Sastsimi.Ledger.RunGate

/-!
# Safety of the gate

The task that holds the gate is the only one that asks, whatever the order of the steps and
wherever the process dies.  What a request finds on the ledger therefore stays what its admission
read until its own attempt is recorded.
-/

namespace Sastsimi.Ledger

open Lib Sastsimi.Runtime

variable [Platform]

/-! ## Budget -/

/-- What attempts used is below every limit of a run. -/
structure Below (limits : RunLimits) (attempts : List AttemptRow) : Prop where
  tokens : ∀ most ∈ limits.maxTokens,
    (attempts.filterMap (·.inputTokens)).foldl (· + ·) 0
      + (attempts.filterMap (·.outputTokens)).foldl (· + ·) 0 < most
  cost : attempts.filterMap (·.costCents) ≠ [] →
    (attempts.filterMap (·.costCents)).foldl (· + ·) 0 < (limits.maxCost : Rat)
  elapsed : ∀ most ∈ limits.maxElapsedSeconds,
    (attempts.map (·.elapsedMs)).foldl (· + ·) 0 < most * 1000
  reported : limits.maxTokens.isSome = true → ∀ attempt ∈ attempts, attempt.lacksTokens = false

/-- What attempts used admits a request to a provider. -/
def Admits (scope : RunScope) (provider : LimitedProvider) (attempts : List AttemptRow) : Prop :=
  Below scope.limits attempts
    ∧ (provider = .openaiApi → ∀ attempt ∈ attempts, mayBeBilled scope.files attempt = false)

variable {scope : RunScope} {isoformat : Nat → String} {ledger before after : CallLedger}
  {call next : LimitedCall} {callId : Option String}

/-- A budget without a failure is not used up. -/
theorem check_none (passed : scope.check ledger = none) :
    Below scope.limits (ledger.attemptsOf scope.analysisId) := by
  simp only [RunScope.check] at passed
  split at passed
  · cases passed
  rename_i tokens
  split at passed
  · cases passed
  rename_i cost
  split at passed
  · cases passed
  rename_i elapsed
  split at passed
  · cases passed
  rename_i known
  constructor
  · intro most limited
    apply Int.not_le.1
    intro reached
    exact tokens ⟨most, limited, reached⟩
  · intro costs
    apply Rat.not_le.1
    intro reached
    exact cost ⟨_, if_neg costs, reached⟩
  · intro most limited
    apply Int.not_le.1
    intro reached
    exact elapsed ⟨most, limited, reached⟩
  · intro limited attempt member
    by_contra lacks
    apply known
    refine ⟨limited, ?_⟩
    have counted : 0 < (ledger.attemptsOf scope.analysisId).countP (·.lacksTokens) :=
      List.countP_pos_iff.2 ⟨attempt, member, by simpa using lacks⟩
    simp only [CallLedger.usageSummary]
    omega

/-- A request that finds no failure of its budget is admitted. -/
theorem budgetFailure_none {provider : LimitedProvider}
    (passed : scope.budgetFailure ledger provider = none) :
    Admits scope provider (ledger.attemptsOf scope.analysisId) := by
  simp only [RunScope.budgetFailure] at passed
  split at passed
  · cases passed
  rename_i checked
  refine ⟨check_none checked, ?_⟩
  intro api attempt member
  split at passed
  · cases passed
  · rename_i unbilled
    by_contra billed
    apply unbilled
    refine ⟨api, List.any_eq_true.2 ⟨attempt, member, by simpa using billed⟩⟩

/-! ## Ledgers -/

/-- A ledger grew: attempts were appended, and the calls that had landed are as they were. -/
structure Grew (before after : CallLedger) : Prop where
  attempts : before.attempts.rows <+: after.attempts.rows
  landed : ∀ callId row, before.calls.find callId = some row → row.status ≠ .inFlight →
    after.calls.find callId = some row

theorem Grew.refl (ledger : CallLedger) : Grew ledger ledger :=
  ⟨List.prefix_rfl, fun _ _ found _ => found⟩

theorem Grew.trans {middle : CallLedger} (first : Grew before middle)
    (second : Grew middle after) : Grew before after := by
  constructor
  · exact first.attempts.trans second.attempts
  · intro callId row found landed
    exact second.landed callId row (first.landed callId row found landed) landed

theorem Grew.attemptsOf (grew : Grew before after) (analysisId : String) :
    before.attemptsOf analysisId <+: after.attemptsOf analysisId :=
  grew.attempts.filter _

/-- Every operation makes the ledger grow. -/
theorem Wrote.grew {files : ArtifactFiles} {operation : LedgerCall} {answer : Bool}
    (wrote : Wrote files operation answer before after) : Grew before after := by
  constructor
  · have appended : ∀ {attempt}, before.attempts.insert attempt = some after.attempts →
        before.attempts.rows <+: after.attempts.rows := by
      intro attempt inserted
      rw [(Table.insert_eq_some.1 inserted).2]
      exact List.prefix_append _ _
    have same : after.attempts = before.attempts →
        before.attempts.rows <+: after.attempts.rows := by
      intro attempts
      rw [attempts]
    cases wrote with
    | nothing _ _ _ attempts => exact same attempts
    | begins _ _ _ attempts => exact same attempts
    | spawns _ _ _ _ attempts => exact same attempts
    | records inserted => exact appended inserted
    | marksSafe _ _ _ _ attempts => exact same attempts
    | confirmsLegacy _ _ _ _ _ attempts => exact same attempts
    | confirmsCall _ _ _ _ _ _ _ attempts =>
        obtain attempts | ⟨_, -, inserted⟩ := attempts
        · exact same attempts
        · exact appended inserted
    | reconciles _ _ _ _ _ inserted => exact appended inserted
  · intro callId row found landed
    exact wrote.keepsLanded found landed

/-- An operation beside the calls and the attempts leaves both alone. -/
theorem Wrote.beside {files : ArtifactFiles} {operation : LedgerCall} {answer : Bool}
    (beside : operation.isBeside = true) (wrote : Wrote files operation answer before after) :
    after.calls = before.calls ∧ after.attempts = before.attempts := by
  cases wrote with
  | nothing _ _ calls attempts => exact ⟨calls, attempts⟩
  | spawns _ _ _ calls attempts => exact ⟨calls, attempts⟩
  | begins => cases beside
  | records => cases beside
  | marksSafe => cases beside
  | confirmsLegacy => cases beside
  | confirmsCall => cases beside
  | reconciles => cases beside

/-- A row stands among attempts right after some, or was already one of them. -/
def StandsAfter (earlier : List AttemptRow) (row : AttemptRow) (attempts : List AttemptRow) :
    Prop :=
  earlier ++ [row] <+: attempts ∨ row ∈ earlier ∧ earlier <+: attempts

omit [Platform] in
theorem StandsAfter.grow {earlier attempts later : List AttemptRow} {row : AttemptRow}
    (stands : StandsAfter earlier row attempts) (grew : attempts <+: later) :
    StandsAfter earlier row later :=
  stands.imp (·.trans grew) fun ⟨member, kept⟩ => ⟨member, kept.trans grew⟩

/-- A stored attempt is found. -/
theorem storeAttempt_found {attempt : AttemptRow} {inserted : Bool}
    (stored : before.storeAttempt attempt = .ok (inserted, after)) :
    after.attempts.find attempt.attemptId = some attempt := by
  rw [CallLedger.storeAttempt] at stored
  split at stored
  · rename_i attempts insertion
    cases stored
    simp [Table.find_insert insertion]
  · split at stored
    · rename_i found
      cases stored
      exact found
    · cases stored

/-- A recorded attempt is found. -/
theorem recordLlmAttempt_found {attempt : AttemptRow} {owner : Option AttemptOwner}
    {retryOf : Option String} {promptBytes : Option PromptByteCounts} {marker : String}
    (recorded : before.recordLlmAttempt attempt owner retryOf promptBytes marker = .ok after) :
    after.attempts.find attempt.attemptId = some attempt := by
  obtain ⟨-, recorded⟩ := raiseIf_bind_ok.1 recorded
  obtain ⟨⟨inserted, stored⟩, storing, recorded⟩ := except_bind_ok recorded
  obtain ⟨lineage, -, recorded⟩ := except_bind_ok recorded
  obtain ⟨⟨annotated, described⟩, describing, recorded⟩ := except_bind_ok recorded
  obtain ⟨metadata, rfl⟩ := describeAttempt_ok describing
  have kept : after.attempts = stored.attempts := by
    cases recorded
    split
    · rfl
    · rfl
  rw [kept]
  exact storeAttempt_found storing

/-! ## Requests -/

/-- An attempt of a call was recorded. -/
structure Records (scope : RunScope) (call : LimitedCall) (callId : Option String)
    (row : AttemptRow) (before after : CallLedger) : Prop where
  grew : Grew before after
  stands : StandsAfter (before.attemptsOf scope.analysisId) row
    (after.attemptsOf scope.analysisId)
  number : row.attemptNumber = call.attempt
  named : ∀ id ∈ callId, row.attemptId = id

theorem recordAttempt_ok {recording : Recording} {status : String}
    {usage : Option ReportedUsage} {row : AttemptRow}
    (recorded : call.recordAttempt scope before callId recording status usage
      = .ok (row, after)) :
    Records scope call callId row before after ∧ row.status = status := by
  obtain ⟨ref, -, recorded⟩ := except_bind_ok recorded
  obtain ⟨stored, storing, recorded⟩ := except_bind_ok recorded
  cases recorded
  have wrote : Wrote scope.files (.record (call.attemptRow scope callId recording ref status usage)
      call.owner call.previousAttemptId call.promptBytes recording.marker) true before after := by
    apply @LedgerCall.run_ok _ _ fun _ => ""
    exact answering_ok.2 ⟨storing, rfl⟩
  refine ⟨⟨wrote.grew, ?_, rfl, ?_⟩, rfl⟩
  · obtain ⟨-, -, same | inserted⟩ := recordLlmAttempt_ok storing
    · right
      constructor
      · have found := recordLlmAttempt_found storing
        rw [same] at found
        apply List.mem_filter.2
        exact ⟨(Table.find_eq_some.1 found).1, decide_eq_true rfl⟩
      · exact wrote.grew.attemptsOf _
    · left
      obtain ⟨-, rows⟩ := Table.insert_eq_some.1 inserted
      simp [CallLedger.attemptsOf, rows, LimitedCall.attemptRow]
  · intro id named
    cases named
    rfl

/-- A call that was marked safe stays so, and the attempts are left alone. -/
theorem markSafe_ok {now : Nat} (marked : LimitedCall.markSafe scope before callId now = .ok after) :
    Grew before after ∧ after.attempts = before.attempts
      ∧ ∀ id ∈ callId, ∃ row, after.calls.find id = some row ∧ row.status = .safe := by
  cases callId with
  | none =>
      cases marked
      exact ⟨.refl _, rfl, fun _ named => absurd named (Option.not_mem_none _)⟩
  | some id =>
      have wrote : Wrote scope.files (.markSafe id scope.analysisId now) true before after := by
        apply @LedgerCall.run_ok _ _ fun _ => ""
        exact answering_ok.2 ⟨marked, rfl⟩
      refine ⟨wrote.grew, ?_, ?_⟩
      · obtain ⟨_, _, _, _, _, _, _, attempts⟩ := markCodexCallSafe_ok marked
        exact attempts
      · obtain ⟨one, marked⟩ := raiseIf_bind_ok.1 marked
        cases marked
        have keyed : ∀ row, (CallLedger.selectsInFlight id scope.analysisId row
            && (before.attemptOf id scope.analysisId).isSome) = true → row.callId = id := by
          intro row chosen
          exact (selectsInFlight_iff.1 (Bool.and_eq_true_iff.1 chosen).1).1
        obtain ⟨row, found, selected⟩ := (Table.count_eq_one keyed).1 (not_not.1 one)
        intro other named
        cases named
        refine ⟨row.safeAt now, ?_, rfl⟩
        exact (@Table.find_update_one _ _ _ _ _ _ _ _ (fun call => call.safeAt now) (fun _ => rfl)
          keyed found selected id).trans (if_pos rfl)

/-- A task that ended without an answer. -/
def CallPhase.isFailed : CallPhase → Bool
  | .refused _ | .raised => true
  | _ => false

/-- What became of the request of a call. -/
inductive Settlement (scope : RunScope) (call : LimitedCall) (callId : Option String)
    (before : CallLedger) : CallLedger → Option AttemptRow → LimitedCall → Prop
  | lost : Settlement scope call callId before before none (call.ends .raised)
  | returned {after : CallLedger} {row : AttemptRow} {usage : ReportedUsage}
      (records : Records scope call callId row before after) (succeeded : row.status = "SUCCEEDED")
      (safe : ∀ id ∈ callId, ∃ found, after.calls.find id = some found ∧ found.status = .safe) :
      Settlement scope call callId before after (some row) (call.ends (.returned usage))
  | ended {after : CallLedger} {row : AttemptRow} {next : LimitedCall}
      (records : Records scope call callId row before after) (client : next.client = call.client)
      (attempt : next.attempt = call.attempt) (failed : next.phase.isFailed = true) :
      Settlement scope call callId before after (some row) next
  | retries {after : CallLedger} {row : AttemptRow} {next : LimitedCall}
      (records : Records scope call callId row before after) (client : next.client = call.client)
      (attempt : next.attempt = call.attempt) (few : call.attempt ≤ call.client.maxRetries)
      (previous : next.previousAttemptId = some row.attemptId) (sleeps : next.phase = .sleeping) :
      Settlement scope call callId before after (some row) next

theorem Records.marked {row : AttemptRow} {middle : CallLedger} {now : Nat} {safeId : Option String}
    (records : Records scope call callId row before middle)
    (marked : LimitedCall.markSafe scope middle safeId now = .ok after) :
    Records scope call callId row before after := by
  obtain ⟨grew, attempts, -⟩ := markSafe_ok marked
  refine ⟨records.grew.trans grew, ?_, records.number, records.named⟩
  have same : after.attemptsOf scope.analysisId = middle.attemptsOf scope.analysisId := by
    rw [CallLedger.attemptsOf, CallLedger.attemptsOf, attempts]
  rw [same]
  exact records.stands

/-- A recorded failure ends its call or lets it sleep until its next attempt. -/
theorem settleFailure_settles {row : AttemptRow} {middle : CallLedger} {failure : StageFailure}
    {innerReturned : Bool} {recording : Recording}
    (records : Records scope call callId row before middle) :
    Settlement scope call callId before
      ({ call with previousAttemptId := some row.attemptId }.settleFailure scope middle callId
        failure innerReturned recording).1
      (some row)
      ({ call with previousAttemptId := some row.attemptId }.settleFailure scope middle callId
        failure innerReturned recording).2 := by
  rw [LimitedCall.settleFailure]
  split
  · exact .ended records rfl rfl rfl
  cases marked : LimitedCall.markSafe scope middle callId recording.now with
  | error reason => exact .ended records rfl rfl rfl
  | ok safe =>
      have kept := records.marked marked
      simp only [LimitedCall.retry]
      split
      · rename_i retries
        split
        · exact .ended kept rfl rfl rfl
        · split
          · exact .ended kept rfl rfl rfl
          · exact .retries kept rfl rfl retries.2 rfl rfl
      · exact .ended kept rfl rfl rfl

/-- A request that failed is recorded under its failure. -/
theorem settleFailed_settles {result : StageFailure} {innerReturned : Bool}
    {recording : Recording} :
    Settlement scope call callId before
      (call.settleFailed scope before callId result innerReturned recording).1
      (call.settleFailed scope before callId result innerReturned recording).2.1
      (call.settleFailed scope before callId result innerReturned recording).2.2 := by
  simp only [LimitedCall.settleFailed]
  split
  · rename_i recorded
    exact settleFailure_settles (recordAttempt_ok recorded).1
  · exact .lost

/-- What a step that records a request does. -/
theorem settle_settles (outcome : Outcome) (recording : Recording) :
    Settlement scope call callId before (call.settle scope before callId outcome recording).1
      (call.settle scope before callId outcome recording).2.1
      (call.settle scope before callId outcome recording).2.2 := by
  cases outcome with
  | success usage =>
      simp only [LimitedCall.settle]
      split
      · rename_i recorded
        obtain ⟨records, succeeded⟩ := recordAttempt_ok recorded
        split
        · rename_i marked
          exact .returned (records.marked marked) succeeded (markSafe_ok marked).2.2
        · exact .ended records rfl rfl rfl
      · exact .lost
  | cancelled =>
      simp only [LimitedCall.settle]
      split
      · rename_i recorded
        exact .ended (recordAttempt_ok recorded).1 rfl rfl rfl
      · exact .lost
  | failure failure => exact settleFailed_settles
  | timedOut => exact settleFailed_settles
  | failed => exact settleFailed_settles

/-- What became of a task that took the gate. -/
inductive Admission (scope : RunScope) (call : LimitedCall) (before : CallLedger) :
    CallLedger → LimitedCall → Prop
  | ends {phase : CallPhase} (failed : phase.isFailed = true) :
      Admission scope call before before (call.ends phase)
  | asks {after : CallLedger} {callId : Option String}
      (admits : Admits scope call.client.provider (before.attemptsOf scope.analysisId))
      (attempts : after.attempts = before.attempts) (grew : Grew before after)
      (codex : call.client.provider = .codexCli → callId.isSome = true)
      (reserved : ∀ id ∈ callId, after.unresolvedCodexCall scope.analysisId = some id) :
      Admission scope call before after (call.ends (.inFlight callId))

/-- A reserved call is the one that its analysis has in flight. -/
theorem beginCodexCall_reserves {id marker : String} {now : Nat}
    (began : before.beginCodexCall id scope.analysisId now marker = .ok (true, after)) :
    after.attempts = before.attempts ∧ Grew before after
      ∧ after.unresolvedCodexCall scope.analysisId = some id := by
  have wrote : Wrote scope.files (.beginCall id scope.analysisId now marker) true before after :=
    @LedgerCall.run_ok _ _ (fun _ => "") _ _ _ _ began
  obtain ⟨unanswered, -⟩ | ⟨-, free, -, inserted, attempts⟩ := beginCodexCall_ok began
  · cases unanswered
  · refine ⟨attempts, wrote.grew, ?_⟩
    obtain ⟨-, rows⟩ := Table.insert_eq_some.1 inserted
    rw [CallLedger.inFlight] at free
    simp [CallLedger.unresolvedCodexCall, CallLedger.inFlight, rows, List.find?_append, free]

/-- What a step that admits a task does. -/
theorem admit_admits (expired : Bool) (drawnId marker : String) (now : Nat) :
    Admission scope call before (call.grant scope before expired drawnId marker now).1
      (call.grant scope before expired drawnId marker now).2 := by
  simp only [LimitedCall.grant]
  split
  · exact .ends rfl
  split
  · exact .ends rfl
  rename_i budget
  have admits := budgetFailure_none budget
  split
  · exact .ends rfl
  split
  · split
    · rename_i began
      obtain ⟨attempts, grew, reserved⟩ := beginCodexCall_reserves began
      apply Admission.asks admits attempts grew
      · exact fun _ => rfl
      · intro id named
        cases named
        exact reserved
    · exact .ends rfl
    · exact .ends rfl
  · rename_i plain
    apply Admission.asks admits rfl (.refl _)
    · intro codex
      exact absurd (decide_eq_true codex) plain
    · exact fun _ named => absurd named (Option.not_mem_none _)

/-! ## Calls of a run -/

/-- The request that an attempt was recorded for. -/
def RecordedAttempt.request (entry : RecordedAttempt) : Nat × Nat := (entry.call, entry.attempt)

/-- A request of a call is its first, or retries the recorded attempt before it. -/
def Retries (recorded : List RecordedAttempt) (index attempt : Nat) (previous : Option String) :
    Prop :=
  attempt = 1 ∧ previous = none
    ∨ ∃ earlier ∈ recorded, earlier.call = index ∧ attempt = earlier.attempt + 1
      ∧ previous = some earlier.row.attemptId

/-- The answer of a call was recorded, and the process that gave it is settled. -/
def Succeeded (gate : RunGate) (index : Nat) (call : LimitedCall) : Prop :=
  ∃ entry ∈ gate.recorded, entry.request = (index, call.attempt) ∧ entry.row.status = "SUCCEEDED"
    ∧ (call.client.provider = .codexCli →
      ∃ row, gate.ledger.calls.find entry.row.attemptId = some row ∧ row.status = .safe)

/-- What a request that is in flight stands on. -/
structure Flies (scope : RunScope) (gate : RunGate) (index : Nat) (call : LimitedCall)
    (callId : Option String) : Prop where
  holds : gate.holder = some index
  admits : Admits scope call.client.provider (gate.ledger.attemptsOf scope.analysisId)
  codex : call.client.provider = .codexCli → callId.isSome = true
  reserved : ∀ id ∈ callId, gate.ledger.unresolvedCodexCall scope.analysisId = some id

/-- How a call of a run stands to what was asked and recorded. -/
structure CallSound (scope : RunScope) (gate : RunGate) (index : Nat) (call : LimitedCall) :
    Prop where
  asked : ∀ attempt, (index, attempt) ∈ gate.asked → attempt ≤ call.attempt
  few : 1 ≤ call.attempt ∧ call.attempt ≤ call.client.maxRetries + 1
  waits : call.phase = .waiting → (index, call.attempt) ∉ gate.asked
  asks : call.phase = .waiting ∨ call.phase.isInFlight = true →
    Retries gate.recorded index call.attempt call.previousAttemptId
  flies : ∀ callId, call.phase = .inFlight callId → Flies scope gate index call callId
  sleeps : call.phase = .sleeping → call.attempt ≤ call.client.maxRetries
    ∧ Retries gate.recorded index (call.attempt + 1) call.previousAttemptId
  returns : ∀ usage, call.phase = .returned usage → Succeeded gate index call

/-- A recorded attempt stands right after attempts that admitted it. -/
structure EntrySound (scope : RunScope) (gate : RunGate) (entry : RecordedAttempt) : Prop where
  admits : ∃ call, gate.calls[entry.call]? = some call
    ∧ Admits scope call.client.provider entry.before
  stands : StandsAfter entry.before entry.row (gate.ledger.attemptsOf scope.analysisId)
  retries : Retries gate.recorded entry.call entry.attempt entry.retryOf
  number : entry.row.attemptNumber = entry.attempt

/-- The invariant of a run. -/
structure GateSound (scope : RunScope) (gate : RunGate) : Prop where
  calls : ∀ index call, gate.calls[index]? = some call → CallSound scope gate index call
  held : ∀ index ∈ gate.holder, ∃ call, gate.calls[index]? = some call
    ∧ call.phase.isInFlight = true
  asked : gate.asked.Perm (gate.recorded.map RecordedAttempt.request ++ gate.lost ++ gate.flight)
  once : gate.asked.Nodup
  known : ∀ request ∈ gate.asked, 1 ≤ request.2 ∧ request.1 < gate.calls.length
  entries : ∀ entry ∈ gate.recorded, EntrySound scope gate entry

/-- What every step keeps: the clients, the recorded attempts and the growth of the ledger. -/
structure Continues (gate after : RunGate) : Prop where
  clients : ∀ {index : Nat} {call : LimitedCall}, gate.calls[index]? = some call →
    ∃ next, after.calls[index]? = some next ∧ next.client = call.client
  recorded : gate.recorded ⊆ after.recorded
  grew : Grew gate.ledger after.ledger

section Steps

variable {gate after : RunGate} {index other : Nat}

omit [Platform] in
theorem Retries.mono {recorded later : List RecordedAttempt} {attempt : Nat}
    {previous : Option String} (retries : Retries recorded index attempt previous)
    (kept : recorded ⊆ later) : Retries later index attempt previous :=
  retries.imp_right fun ⟨earlier, member, facts⟩ => ⟨earlier, kept member, facts⟩

theorem Succeeded.continues (succeeded : Succeeded gate index call)
    (continues : Continues gate after) : Succeeded after index call := by
  obtain ⟨entry, member, request, status, safe⟩ := succeeded
  refine ⟨entry, continues.recorded member, request, status, ?_⟩
  intro codex
  obtain ⟨row, found, isSafe⟩ := safe codex
  refine ⟨row, continues.grew.landed _ row found ?_, isSafe⟩
  simp [isSafe]

theorem EntrySound.continues {entry : RecordedAttempt} (sound : EntrySound scope gate entry)
    (continues : Continues gate after) : EntrySound scope after entry := by
  obtain ⟨call, found, admits⟩ := sound.admits
  obtain ⟨next, stored, client⟩ := continues.clients found
  constructor
  · exact ⟨next, stored, client ▸ admits⟩
  · exact sound.stands.grow (continues.grew.attemptsOf _)
  · exact sound.retries.mono continues.recorded
  · exact sound.number

/-- A step that leaves a call alone keeps it sound, if it leaves alone what a request in flight
stands on. -/
theorem CallSound.continues (sound : CallSound scope gate index call)
    (continues : Continues gate after)
    (asked : ∀ attempt, (index, attempt) ∈ after.asked → (index, attempt) ∈ gate.asked)
    (flies : ∀ callId, Flies scope gate index call callId → Flies scope after index call callId) :
    CallSound scope after index call := by
  constructor
  · exact fun attempt member => sound.asked attempt (asked attempt member)
  · exact sound.few
  · exact fun waiting member => sound.waits waiting (asked _ member)
  · exact fun phase => (sound.asks phase).mono continues.recorded
  · exact fun callId phase => flies callId (sound.flies callId phase)
  · intro sleeping
    obtain ⟨few, retries⟩ := sound.sleeps sleeping
    exact ⟨few, retries.mono continues.recorded⟩
  · exact fun usage phase => (sound.returns usage phase).continues continues

/-- A call that ended without an answer is sound as far as its attempts are. -/
theorem CallSound.failed (sound : CallSound scope gate index call)
    (client : next.client = call.client) (attempt : next.attempt = call.attempt)
    (failed : next.phase.isFailed = true)
    (asked : ∀ attempt, (index, attempt) ∈ after.asked → (index, attempt) ∈ gate.asked) :
    CallSound scope after index next := by
  have dead : ∀ phase, next.phase = phase → phase.isFailed = true :=
    fun phase same => same ▸ failed
  constructor
  · intro earlier member
    rw [attempt]
    exact sound.asked earlier (asked earlier member)
  · rw [attempt, client]
    exact sound.few
  · exact fun waiting => absurd (dead _ waiting) Bool.false_ne_true
  · rintro (waiting | flying)
    · exact absurd (dead _ waiting) Bool.false_ne_true
    · cases phase : next.phase <;> simp [phase, CallPhase.isFailed, CallPhase.isInFlight] at *
  · exact fun callId flying => absurd (dead _ flying) Bool.false_ne_true
  · exact fun sleeping => absurd (dead _ sleeping) Bool.false_ne_true
  · exact fun usage returned => absurd (dead _ returned) Bool.false_ne_true

/-- Only the call that holds the gate is in flight. -/
theorem GateSound.inFlight (sound : GateSound scope gate)
    (found : gate.calls[index]? = some call) :
    call.phase.isInFlight = true ↔ gate.holder = some index := by
  constructor
  · intro flying
    cases phase : call.phase <;> simp only [phase, CallPhase.isInFlight] at flying
    · cases flying
    · exact ((sound.calls index call found).flies _ phase).holds
    all_goals cases flying
  · intro holds
    obtain ⟨held, stored, flying⟩ := sound.held index holds
    rw [found] at stored
    cases stored
    exact flying

/-- The ledger a step leaves alone as far as a request in flight stands on it. -/
theorem Flies.kept {callId : Option String} (flies : Flies scope gate index call callId)
    (holder : after.holder = gate.holder) (attempts : after.ledger.attempts = gate.ledger.attempts)
    (calls : after.ledger.calls = gate.ledger.calls) : Flies scope after index call callId := by
  have sameAttempts : after.ledger.attemptsOf scope.analysisId =
      gate.ledger.attemptsOf scope.analysisId := by
    rw [CallLedger.attemptsOf, CallLedger.attemptsOf, attempts]
  have sameCall : after.ledger.unresolvedCodexCall scope.analysisId =
      gate.ledger.unresolvedCodexCall scope.analysisId := by
    rw [CallLedger.unresolvedCodexCall, CallLedger.unresolvedCodexCall, CallLedger.inFlight,
      CallLedger.inFlight, calls]
  constructor
  · rw [holder]
    exact flies.holds
  · rw [sameAttempts]
    exact flies.admits
  · exact flies.codex
  · rw [sameCall]
    exact flies.reserved

/-- Replacing a call by one of the same client keeps the clients. -/
theorem clients_set (found : gate.calls[index]? = some call) (client : next.client = call.client)
    {position : Nat} {old : LimitedCall} (stored : gate.calls[position]? = some old) :
    ∃ new, (gate.calls.set index next)[position]? = some new ∧ new.client = old.client := by
  obtain ⟨inside, -⟩ := List.getElem?_eq_some_iff.1 found
  by_cases same : index = position
  · subst same
    rw [found] at stored
    cases stored
    exact ⟨next, List.getElem?_set_self inside, client⟩
  · exact ⟨old, by rw [List.getElem?_set_ne same, stored], rfl⟩

/-- The calls after one of them was replaced are sound when the new one is. -/
theorem calls_set (found : gate.calls[index]? = some call)
    (replaced : CallSound scope after index next)
    (others : ∀ position old, position ≠ index → gate.calls[position]? = some old →
      CallSound scope after position old) {position : Nat} {new : LimitedCall}
    (stored : (gate.calls.set index next)[position]? = some new) :
    CallSound scope after position new := by
  obtain ⟨inside, -⟩ := List.getElem?_eq_some_iff.1 found
  by_cases same : index = position
  · subst same
    rw [List.getElem?_set_self inside] at stored
    cases stored
    exact replaced
  · rw [List.getElem?_set_ne same] at stored
    exact others position new (Ne.symm same) stored

/-- The request in flight is that of the call that holds the gate. -/
theorem flight_of (holds : gate.holder = some index) (found : gate.calls[index]? = some call) :
    gate.flight = [(index, call.attempt)] := by
  simp [RunGate.flight, holds, found]

theorem flight_calls {calls : List LimitedCall}
    (kept : ∀ position ∈ gate.holder, calls[position]? = gate.calls[position]?) :
    RunGate.flight { gate with calls } = gate.flight := by
  cases holds : gate.holder with
  | none => simp [RunGate.flight, holds]
  | some position => simp [RunGate.flight, holds, kept position holds]

theorem flight_none (free : gate.holder = none) : gate.flight = [] := by
  simp [RunGate.flight, free]

/-! ## Steps -/

/-- Replacing a call that asks nothing by a sound one keeps a run sound. -/
theorem GateSound.replaced (sound : GateSound scope gate)
    (found : gate.calls[index]? = some call) (client : next.client = call.client)
    (grounded : call.phase.isInFlight = false)
    (replaced : CallSound scope { gate with calls := gate.calls.set index next } index next) :
    GateSound scope { gate with calls := gate.calls.set index next } := by
  have continues : Continues gate { gate with calls := gate.calls.set index next } :=
    ⟨clients_set found client, List.Subset.refl _, .refl _⟩
  have away : ∀ {position}, gate.holder = some position → position ≠ index := by
    rintro position holds rfl
    rw [(sound.inFlight found).2 holds] at grounded
    cases grounded
  constructor
  · intro position new stored
    apply calls_set found replaced ?_ stored
    intro position old _ kept
    exact (sound.calls position old kept).continues continues (fun _ => id)
      fun callId flies => flies.kept rfl rfl rfl
  · intro position holds
    obtain ⟨held, stored, flying⟩ := sound.held position holds
    refine ⟨held, ?_, flying⟩
    rw [List.getElem?_set_ne (away holds).symm, stored]
  · rw [flight_calls fun position holds => List.getElem?_set_ne (away holds).symm]
    exact sound.asked
  · exact sound.once
  · intro request member
    rw [List.length_set]
    exact sound.known request member
  · exact fun entry member => (sound.entries entry member).continues continues

/-- A call that begins has asked nothing. -/
theorem GateSound.begun (sound : GateSound scope gate) (client : LimitedClient) (agent : String)
    (owner : Option AttemptOwner) (promptBytes : Option PromptByteCounts) :
    GateSound scope
      { gate with
        calls := gate.calls ++ [RunGate.begin scope client agent owner promptBytes] } := by
  have old : ∀ {position : Nat} {call : LimitedCall}, gate.calls[position]? = some call →
      (gate.calls ++ [RunGate.begin scope client agent owner promptBytes])[position]?
        = some call := by
    intro position call found
    obtain ⟨inside, -⟩ := List.getElem?_eq_some_iff.1 found
    rw [List.getElem?_append_left inside, found]
  have continues : Continues gate
      { gate with calls := gate.calls ++ [RunGate.begin scope client agent owner promptBytes] } :=
    ⟨fun found => ⟨_, old found, rfl⟩, List.Subset.refl _, .refl _⟩
  constructor
  · intro position call found
    obtain inside | rfl | outside := lt_trichotomy position gate.calls.length
    · rw [List.getElem?_append_left inside] at found
      exact (sound.calls position call found).continues continues (fun _ => id)
        fun callId flies => flies.kept rfl rfl rfl
    · rw [List.getElem?_concat_length] at found
      cases found
      have unasked : ∀ attempt, (gate.calls.length, attempt) ∉ gate.asked :=
        fun attempt member => absurd (sound.known _ member).2 (lt_irrefl _)
      constructor
      · exact fun attempt member => absurd member (unasked attempt)
      · exact ⟨le_refl 1, Nat.le_add_left 1 _⟩
      · exact fun _ => unasked _
      · exact fun _ => .inl ⟨rfl, rfl⟩
      all_goals
        simp only [RunGate.begin]
        split <;> simp
    · rw [List.getElem?_eq_none (by rw [List.length_append]; exact outside)] at found
      cases found
  · intro position holds
    obtain ⟨held, stored, flying⟩ := sound.held position holds
    exact ⟨held, old stored, flying⟩
  · rw [flight_calls fun position holds => ?_]
    · exact sound.asked
    · obtain ⟨held, stored, -⟩ := sound.held position holds
      rw [stored]
      exact old stored
  · exact sound.once
  · intro request member
    obtain ⟨positive, inside⟩ := sound.known request member
    exact ⟨positive, by rw [List.length_append]; omega⟩
  · exact fun entry member => (sound.entries entry member).continues continues

/-- A task that the budget admits asks what it never asked. -/
theorem GateSound.asks (sound : GateSound scope gate) (found : gate.calls[index]? = some call)
    (free : gate.holder = none) (waiting : call.phase = .waiting)
    (grew : Grew gate.ledger after.ledger) (flies : Flies scope after index call callId)
    (calls : after.calls = gate.calls.set index (call.ends (.inFlight callId)))
    (asked : after.asked = gate.asked ++ [(index, call.attempt)])
    (recorded : after.recorded = gate.recorded) (lost : after.lost = gate.lost) :
    GateSound scope after := by
  have callSound := sound.calls index call found
  obtain ⟨inside, -⟩ := List.getElem?_eq_some_iff.1 found
  have unasked := callSound.waits waiting
  have continues : Continues gate after := by
    constructor
    · intro position old kept
      rw [calls]
      have client : (call.ends (.inFlight callId)).client = call.client := rfl
      exact clients_set found client kept
    · rw [recorded]
      exact List.Subset.refl _
    · exact grew
  have taken : after.calls[index]? = some (call.ends (.inFlight callId)) := by
    rw [calls, List.getElem?_set_self inside]
  have mem_asked : ∀ {request}, request ∈ after.asked →
      request ∈ gate.asked ∨ request = (index, call.attempt) := by
    intro request member
    rw [asked, List.mem_append, List.mem_singleton] at member
    exact member
  constructor
  · intro position new stored
    rw [calls] at stored
    apply calls_set found ?_ ?_ stored
    · constructor
      · intro attempt member
        rcases mem_asked member with old | new
        · exact callSound.asked attempt old
        · cases new
          exact le_refl _
      · exact callSound.few
      · exact fun same => CallPhase.noConfusion same
      · rw [recorded]
        exact fun _ => callSound.asks (.inl waiting)
      · intro flying same
        cases same
        exact ⟨flies.holds, flies.admits, flies.codex, flies.reserved⟩
      · exact fun same => CallPhase.noConfusion same
      · exact fun _ same => CallPhase.noConfusion same
    · intro other old differs kept
      apply (sound.calls other old kept).continues continues
      · intro attempt member
        rcases mem_asked member with before | new
        · exact before
        · cases new
          exact absurd rfl differs
      · intro flying flown
        have holds := flown.holds
        rw [free] at holds
        cases holds
  · intro position holds
    rw [flies.holds] at holds
    cases holds
    exact ⟨_, taken, rfl⟩
  · rw [flight_of flies.holds taken, asked, recorded, lost]
    have before := sound.asked
    rw [flight_none free, List.append_nil] at before
    exact before.append_right _
  · rw [asked]
    apply sound.once.append (List.nodup_singleton _)
    intro request member new
    cases List.mem_singleton.1 new
    exact unasked member
  · intro request member
    rw [calls, List.length_set]
    rcases mem_asked member with old | new
    · exact sound.known request old
    · cases new
      exact ⟨callSound.few.1, inside⟩
  · intro entry member
    rw [recorded] at member
    exact (sound.entries entry member).continues continues

/-- A task that takes the gate is refused, or asks. -/
theorem GateSound.admitted (sound : GateSound scope gate) (found : gate.calls[index]? = some call)
    (free : gate.holder = none) (waiting : call.phase = .waiting) (expired : Bool)
    (drawnId marker : String) (now : Nat) :
    GateSound scope (gate.grant scope index call expired drawnId marker now) := by
  have admission := @admit_admits _ scope gate.ledger call expired drawnId marker now
  simp only [RunGate.grant]
  generalize call.grant scope gate.ledger expired drawnId marker now = admitted at admission ⊢
  obtain ⟨ledger, next⟩ := admitted
  dsimp only at admission ⊢
  cases admission with
  | @ends phase failed =>
      have grounded : phase.isInFlight = false := by
        cases phase <;> simp [CallPhase.isFailed, CallPhase.isInFlight] at failed ⊢
      simp only [LimitedCall.ends, grounded, Bool.false_eq_true, if_false]
      rw [← free]
      apply sound.replaced found
      · rfl
      · simp [waiting, CallPhase.isInFlight]
      · exact (sound.calls index call found).failed rfl rfl failed fun _ => id
  | asks admits attempts grew codex reserved =>
      simp only [LimitedCall.ends, CallPhase.isInFlight, if_true]
      refine GateSound.asks sound found free waiting grew ?_ rfl rfl rfl rfl
      refine ⟨rfl, ?_, codex, reserved⟩
      simp only [CallLedger.attemptsOf, attempts]
      exact admits

/-- A task that settled its request lets the gate go. -/
theorem GateSound.releases (sound : GateSound scope gate) (found : gate.calls[index]? = some call)
    (holds : gate.holder = some index) (client : next.client = call.client)
    (released : after.holder = none) (calls : after.calls = gate.calls.set index next)
    (asked : after.asked = gate.asked) (grew : Grew gate.ledger after.ledger)
    {fresh : List RecordedAttempt} (recorded : after.recorded = gate.recorded ++ fresh)
    (accounted : (fresh.map RecordedAttempt.request ++ after.lost).Perm
      (gate.lost ++ [(index, call.attempt)]))
    (entries : ∀ entry ∈ fresh, EntrySound scope after entry)
    (settled : CallSound scope after index next) : GateSound scope after := by
  have continues : Continues gate after := by
    constructor
    · intro position old kept
      rw [calls]
      exact clients_set found client kept
    · rw [recorded]
      exact List.subset_append_left _ _
    · exact grew
  constructor
  · intro position new stored
    rw [calls] at stored
    apply calls_set found settled ?_ stored
    intro other old differs kept
    apply (sound.calls other old kept).continues continues
    · rw [asked]
      exact fun _ => id
    · intro flying flown
      have same := flown.holds
      rw [holds] at same
      exact absurd (Option.some.inj same).symm differs
  · intro position taken
    rw [released] at taken
    cases taken
  · rw [flight_none released, asked, recorded, List.append_nil, List.map_append,
      List.append_assoc]
    have before := sound.asked
    rw [flight_of holds found, List.append_assoc] at before
    exact before.trans (accounted.symm.append_left _)
  · rw [asked]
    exact sound.once
  · intro request member
    rw [asked] at member
    rw [calls, List.length_set]
    exact sound.known request member
  · intro entry member
    rw [recorded] at member
    rcases List.mem_append.1 member with old | new
    · exact (sound.entries entry old).continues continues
    · exact entries entry new

/-- A recorded request stands right after the attempts that admitted it. -/
theorem entrySound_recorded {row : AttemptRow} (flies : Flies scope gate index call callId)
    (retries : Retries gate.recorded index call.attempt call.previousAttemptId)
    (records : Records scope call callId row gate.ledger after.ledger)
    (stored : after.calls[index]? = some next) (client : next.client = call.client)
    (kept : gate.recorded ⊆ after.recorded) :
    EntrySound scope after
      ⟨index, call.attempt, row, call.previousAttemptId,
        gate.ledger.attemptsOf scope.analysisId⟩ := by
  constructor
  · refine ⟨next, stored, ?_⟩
    rw [client]
    exact flies.admits
  · exact records.stands
  · exact retries.mono kept
  · exact records.number

/-- A task that recorded its request lets the gate go. -/
theorem GateSound.settled (sound : GateSound scope gate) (found : gate.calls[index]? = some call)
    (flying : call.phase = .inFlight callId) (outcome : Outcome) (recording : Recording) :
    GateSound scope (gate.settle scope index call callId outcome recording) := by
  have callSound := sound.calls index call found
  have flies := callSound.flies callId flying
  have retries := callSound.asks (.inr (by rw [flying]; rfl))
  obtain ⟨inside, -⟩ := List.getElem?_eq_some_iff.1 found
  have settlement := @settle_settles _ scope gate.ledger call callId outcome recording
  simp only [RunGate.settle]
  generalize call.settle scope gate.ledger callId outcome recording = result at settlement ⊢
  obtain ⟨ledger, recorded, next⟩ := result
  dsimp only at settlement ⊢
  have stored : (gate.calls.set index next)[index]? = some next := List.getElem?_set_self inside
  have kept : ∀ entry : RecordedAttempt, gate.recorded ⊆ gate.recorded ++ [entry] :=
    fun entry => List.subset_append_left _ [entry]
  have accounted : ∀ entry : RecordedAttempt, entry.request = (index, call.attempt) →
      ([entry].map RecordedAttempt.request ++ gate.lost).Perm
        (gate.lost ++ [(index, call.attempt)]) := by
    intro entry same
    rw [List.map_singleton, same]
    exact List.perm_append_comm
  cases settlement with
  | lost =>
      have client : (call.ends .raised).client = call.client := rfl
      refine GateSound.releases sound found flies.holds client rfl rfl rfl (.refl _) rfl (.refl _)
        ?_ ?_
      · exact fun _ member => absurd member List.not_mem_nil
      · exact callSound.failed rfl rfl rfl fun _ => id
  | @returned _ _ usage records succeeded safe =>
      have client : (call.ends (.returned usage)).client = call.client := rfl
      refine GateSound.releases sound found flies.holds client rfl rfl rfl records.grew rfl
        (accounted _ rfl) ?_ ?_
      · intro entry member
        cases List.mem_singleton.1 member
        exact entrySound_recorded flies retries records stored rfl (kept _)
      · constructor
        · exact callSound.asked
        · exact callSound.few
        · exact fun same => CallPhase.noConfusion same
        · rintro (same | same)
          · exact CallPhase.noConfusion same
          · cases same
        · exact fun _ same => CallPhase.noConfusion same
        · exact fun same => CallPhase.noConfusion same
        · intro usage same
          refine ⟨_, List.mem_append_right _ (List.mem_singleton_self _), rfl, succeeded, ?_⟩
          intro codex
          obtain ⟨id, named⟩ := Option.isSome_iff_exists.1 (flies.codex codex)
          rw [records.named id named]
          exact safe id named
  | ended records client attempt failed =>
      refine GateSound.releases sound found flies.holds client rfl rfl rfl records.grew rfl
        (accounted _ rfl) ?_ ?_
      · intro entry member
        cases List.mem_singleton.1 member
        exact entrySound_recorded flies retries records stored client (kept _)
      · exact callSound.failed client attempt failed fun _ => id
  | retries records client attempt few previous sleeps =>
      refine GateSound.releases sound found flies.holds client rfl rfl rfl records.grew rfl
        (accounted _ rfl) ?_ ?_
      · intro entry member
        cases List.mem_singleton.1 member
        exact entrySound_recorded flies retries records stored client (kept _)
      · constructor
        · rw [attempt]
          exact callSound.asked
        · rw [attempt, client]
          exact callSound.few
        · intro same
          rw [sleeps] at same
          cases same
        · rw [sleeps]
          rintro (same | same)
          · cases same
          · cases same
        · intro _ same
          rw [sleeps] at same
          cases same
        · intro _
          rw [attempt, client]
          refine ⟨few, .inr ⟨_, List.mem_append_right _ (List.mem_singleton_self _), rfl, rfl, ?_⟩⟩
          exact previous
        · intro _ same
          rw [sleeps] at same
          cases same

/-- A process that dies loses the request in flight. -/
theorem GateSound.crashed (sound : GateSound scope gate) : GateSound scope gate.crash := by
  have continues : Continues gate gate.crash := by
    constructor
    · intro position call found
      simp only [RunGate.crash, List.getElem?_map, found, Option.map_some]
      split
      · exact ⟨_, rfl, rfl⟩
      · exact ⟨_, rfl, rfl⟩
    · exact List.Subset.refl _
    · exact .refl _
  constructor
  · intro position new stored
    simp only [RunGate.crash, List.getElem?_map, Option.map_eq_some_iff] at stored
    obtain ⟨call, found, rfl⟩ := stored
    have callSound := sound.calls position call found
    split
    · exact callSound.failed rfl rfl rfl fun _ => id
    · rename_i dead
      apply callSound.continues continues fun _ => id
      intro callId flies
      apply absurd _ dead
      have flying := (sound.inFlight found).2 flies.holds
      cases phase : call.phase <;> simp [phase, CallPhase.isInFlight, CallPhase.isLive] at flying ⊢
  · intro position holds
    cases holds
  · have before := sound.asked
    rw [List.append_assoc] at before
    rw [flight_none rfl, List.append_nil]
    exact before
  · exact sound.once
  · intro request member
    simp only [RunGate.crash, List.length_map]
    exact sound.known request member
  · exact fun entry member => (sound.entries entry member).continues continues

/-- The rest of the runtime leaves alone what a request in flight stands on. -/
theorem GateSound.beside (sound : GateSound scope gate) {operation : LedgerCall}
    (allowed : operation.isBeside = true ∨ operation.isRecovery = true ∧ gate.holder = none) :
    GateSound scope
      { gate with ledger := (perform scope.files isoformat gate.ledger operation).1 } := by
  have grew : Grew gate.ledger (perform scope.files isoformat gate.ledger operation).1 := by
    obtain ⟨answer, -, wrote⟩ | ⟨-, same⟩ :=
      @perform_cases _ scope.files isoformat gate.ledger operation
    · exact wrote.grew
    · rw [same]
      exact .refl _
  have continues : Continues gate
      { gate with ledger := (perform scope.files isoformat gate.ledger operation).1 } :=
    ⟨fun found => ⟨_, found, rfl⟩, List.Subset.refl _, grew⟩
  constructor
  · intro position call found
    apply (sound.calls position call found).continues continues fun _ => id
    intro callId flies
    obtain beside | ⟨-, free⟩ := allowed
    · obtain ⟨answer, -, wrote⟩ | ⟨-, same⟩ :=
        @perform_cases _ scope.files isoformat gate.ledger operation
      · obtain ⟨calls, attempts⟩ := wrote.beside beside
        exact flies.kept rfl attempts calls
      · rw [same]
        exact flies
    · have holds := flies.holds
      rw [free] at holds
      cases holds
  · exact sound.held
  · exact sound.asked
  · exact sound.once
  · exact sound.known
  · exact fun entry member => (sound.entries entry member).continues continues

/-- Every step keeps a run sound. -/
theorem GateSound.step (sound : GateSound scope gate) (taken : GateStep) :
    GateSound scope (gate.step scope isoformat taken) := by
  cases taken with
  | call client agent owner promptBytes => exact sound.begun client agent owner promptBytes
  | grant index expired drawnId marker now =>
      simp only [RunGate.step]
      split
      · rename_i found free
        split
        · exact sound.admitted found free ‹_› expired drawnId marker now
        · exact sound
      · exact sound
  | settle index outcome recording =>
      simp only [RunGate.step]
      split
      · rename_i found
        split
        · exact sound.settled found ‹_› outcome recording
        · exact sound
      · exact sound
  | wake index =>
      simp only [RunGate.step]
      split
      · rename_i call found
        split
        · rename_i sleeping
          have callSound := sound.calls index call found
          obtain ⟨few, retries⟩ := callSound.sleeps sleeping
          apply sound.replaced found
          · rfl
          · rw [sleeping]
            rfl
          · constructor
            · exact fun attempt member => Nat.le_succ_of_le (callSound.asked attempt member)
            · exact ⟨Nat.le_add_left 1 _, Nat.add_le_add_right few 1⟩
            · intro _ member
              exact absurd (callSound.asked _ member) (Nat.not_succ_le_self _)
            · exact fun _ => retries
            · exact fun _ same => CallPhase.noConfusion same
            · exact fun same => CallPhase.noConfusion same
            · exact fun _ same => CallPhase.noConfusion same
        · exact sound
      · exact sound
  | stop index =>
      simp only [RunGate.step]
      split
      · rename_i call found
        have stopped : call.phase.isInFlight = false →
            GateSound scope { gate with calls := gate.calls.set index (call.ends .raised) } := by
          intro grounded
          have client : (call.ends .raised).client = call.client := rfl
          apply sound.replaced found client grounded
          exact (sound.calls index call found).failed rfl rfl rfl fun _ => id
        split
        · rename_i waiting
          exact stopped (by rw [waiting]; rfl)
        · rename_i sleeping
          exact stopped (by rw [sleeping]; rfl)
        · exact sound
      · exact sound
  | crash => exact sound.crashed
  | outside operation =>
      simp only [RunGate.step]
      split
      · exact sound.beside ‹_›
      · exact sound

/-- Along every run the gate stays sound. -/
theorem gateSound_run (steps : List GateStep) (sound : GateSound scope gate) :
    GateSound scope (gate.run scope isoformat steps) := by
  induction steps generalizing gate with
  | nil => exact sound
  | cons taken rest ih => exact ih (sound.step taken)

theorem gateSound_new : GateSound scope { ledger } := by
  constructor
  · exact fun index call found => absurd found (by simp)
  · exact fun index holds => absurd holds (Option.not_mem_none _)
  · exact .refl _
  · exact List.nodup_nil
  · exact fun request member => absurd member List.not_mem_nil
  · exact fun entry member => absurd member List.not_mem_nil

end Steps

/-! ## Safety -/

/-- What holds of the tasks of an analysis at every moment of a run. -/
structure GateSafe (scope : RunScope) (gate : RunGate) : Prop where
  /-- At most one request is in flight: that of the call which holds the gate. -/
  single : ∀ index call, gate.calls[index]? = some call →
    (call.phase.isInFlight = true ↔ gate.holder = some index)
  /-- A request that was asked is recorded, lost or in flight, and no request is asked twice. -/
  accounted : gate.asked.Perm
      (gate.recorded.map RecordedAttempt.request ++ gate.lost ++ gate.flight)
    ∧ gate.asked.Nodup
  /-- A call asks at most once more than it may retry. -/
  few : ∀ request ∈ gate.asked, ∃ call, gate.calls[request.1]? = some call
    ∧ 1 ≤ request.2 ∧ request.2 ≤ call.client.maxRetries + 1
  /-- While a request is in flight, the attempts stay below the limits and its Codex call is the
  unresolved one. -/
  flies : ∀ index call callId, gate.calls[index]? = some call → call.phase = .inFlight callId →
    Flies scope gate index call callId
  /-- The attempts before a recorded one are below the limits, and it retries the one before. -/
  entries : ∀ entry ∈ gate.recorded, EntrySound scope gate entry
  /-- A call that returned an answer recorded it and settled its process. -/
  returns : ∀ index call usage, gate.calls[index]? = some call → call.phase = .returned usage →
    Succeeded gate index call

/-- In every run over any ledger, whatever the order of its steps and wherever its process dies,
the gate is safe. -/
theorem gate_safe (scope : RunScope) (isoformat : Nat → String) (ledger : CallLedger)
    (steps : List GateStep) :
    GateSafe scope (RunGate.run scope isoformat { ledger } steps) := by
  have sound : GateSound scope (RunGate.run scope isoformat { ledger } steps) :=
    gateSound_run steps gateSound_new
  constructor
  · exact fun index call found => sound.inFlight found
  · exact ⟨sound.asked, sound.once⟩
  · intro request member
    obtain ⟨positive, inside⟩ := sound.known request member
    have found := List.getElem?_eq_getElem inside
    have callSound := sound.calls _ _ found
    exact ⟨_, found, positive, (callSound.asked request.2 member).trans callSound.few.2⟩
  · exact fun index call callId found => (sound.calls index call found).flies callId
  · exact sound.entries
  · exact fun index call usage found => (sound.calls index call found).returns usage

end Sastsimi.Ledger
