import Sastsimi.Ledger.Cleanup
import Sastsimi.Runtime.StoreSpec
import Sastsimi.Lib.Transaction

/-!
# Safety of the call ledger

Processes share the ledger, and each of their operations is one transaction; so a run is a list
of operations in the order of their commits, interleaved with whatever else the runtime writes.
What an operation wrote when it returned is said once for each of them, and the invariants of
runs follow from that.
-/

namespace Sastsimi.Ledger

open Lib Sastsimi.Runtime

variable [Platform]

/-! ## Runs -/

/-- A write of the rest of the runtime, to the tables beside the ledger; it confirms no
cleanup. -/
structure OtherWrite where
  runs : (String → Option SimpleAnalysisRun) → String → Option SimpleAnalysisRun
  db : Database → Database
  orphans : Table OrphanRow.callId → Table OrphanRow.callId
  dashboard : Option (String → Option DashboardMark) → Option (String → Option DashboardMark)
  keeps : ∀ (ledger : CallLedger) (analysisId : String),
    { ledger with db := db ledger.db }.confirmationRefs analysisId =
      ledger.confirmationRefs analysisId

/-- The tables after a write beside the ledger. -/
def OtherWrite.perform (write : OtherWrite) (ledger : CallLedger) : CallLedger :=
  { ledger with
    runs := write.runs ledger.runs
    db := write.db ledger.db
    orphans := write.orphans ledger.orphans
    dashboard := write.dashboard ledger.dashboard }

/-- The operations on the ledger. -/
inductive LedgerCall where
  | beginCall (callId analysisId : String) (now : Nat) (marker : String)
  | beginChild (callId analysisId phase : String)
  | recordChild (callId analysisId phase : String) (pid : Int) (startIdentity : String)
  | exitChild (callId analysisId phase : String) (pid : Int) (startIdentity : String)
  | record (attempt : AttemptRow) (owner : Option AttemptOwner) (retryOf : Option String)
      (promptBytes : Option PromptByteCounts) (marker : String)
  | markSafe (callId analysisId : String) (now : Nat)
  | confirm (observed : Observation) (seen : CallLedger) (checkpoint : StageCheckpoint)
      (ref : StoredDataRef) (artifacts : Artifacts) (leaseBusy : Bool) (marker : String)
  | reconcile (run : SimpleAnalysisRun) (sameDatabase : Bool) (now : Nat)
  | other (write : OtherWrite)

/-- An operation without an answer of its own. -/
def answering (result : Except PyError CallLedger) : Except PyError (Bool × CallLedger) :=
  result.map fun after => (true, after)

/-- The transaction of an operation. -/
def LedgerCall.run (files : ArtifactFiles) (isoformat : Nat → String) (ledger : CallLedger) :
    LedgerCall → Except PyError (Bool × CallLedger)
  | beginCall callId analysisId now marker => ledger.beginCodexCall callId analysisId now marker
  | beginChild callId analysisId phase =>
      answering (ledger.beginCodexChildSpawn callId analysisId phase)
  | recordChild callId analysisId phase pid startIdentity =>
      answering (ledger.recordCodexChildSpawn callId analysisId phase pid startIdentity)
  | exitChild callId analysisId phase pid startIdentity =>
      answering (ledger.markCodexChildExited callId analysisId phase pid startIdentity)
  | record attempt owner retryOf promptBytes marker =>
      answering (ledger.recordLlmAttempt attempt owner retryOf promptBytes marker)
  | markSafe callId analysisId now => answering (ledger.markCodexCallSafe callId analysisId now)
  | confirm observed seen checkpoint ref artifacts leaseBusy marker =>
      answering (seen.confirmCodexCleanup files observed ledger checkpoint ref artifacts leaseBusy
        marker)
  | reconcile run sameDatabase now =>
      ledger.reconcileUnspawnedCodexCall files isoformat run sameDatabase now
  | other write => answering (.ok (write.perform ledger))

/-- Commit an operation, or leave the ledger alone when it raises. -/
def perform (files : ArtifactFiles) (isoformat : Nat → String) (ledger : CallLedger)
    (call : LedgerCall) : CallLedger × Except PyError Bool :=
  match call.run files isoformat ledger with
  | .ok (answer, after) => (after, .ok answer)
  | .error reason => (ledger, .error reason)

/-- A new database. -/
def CallLedger.new : CallLedger where
  db := ⟨fun _ => none, [], Database.no_rows⟩
  runs _ := none

/-! ## What an operation wrote -/

/-- The call of a row and the analysis it belongs to. -/
def CallRow.owned (call : CallRow) : String × String := (call.callId, call.analysisId)

/-- The calls with the analyses they belong to. -/
def CallLedger.owners (ledger : CallLedger) : List (String × String) :=
  ledger.calls.rows.map CallRow.owned

/-- The keys of the child rows. -/
def CallLedger.childKeys (ledger : CallLedger) : List (String × String) :=
  ledger.children.rows.map ChildRow.key

/-- A call that was in flight has a new status, and every other call is as before. -/
structure Settles (before after : CallLedger) (call settled : CallRow) : Prop where
  found : before.calls.find call.callId = some call
  flying : call.status = .inFlight
  landed : settled.status ≠ .inFlight
  same : settled.owned = call.owned
  owners : after.owners = before.owners
  finds : ∀ callId, after.calls.find callId =
    if callId = call.callId then some settled else before.calls.find callId

/-- The call a confirmation names. -/
def callNamed (files : ArtifactFiles) (ref : StoredDataRef) : Option String :=
  (files.read ref).bind fun marker => textOf marker "call_id"

/-- A document confirms a cleanup. -/
def Confirms (files : ArtifactFiles) (ref : StoredDataRef) : Prop :=
  (files.read ref).bind (textOf · "kind") = some "simple_codex_cleanup_confirmation"

/-- The tables that an operation left alone. -/
structure Beside (before after : CallLedger) : Prop where
  childKeys : after.childKeys = before.childKeys
  refs : ∀ analysisId, after.confirmationRefs analysisId = before.confirmationRefs analysisId

/-- The confirmations of an analysis have one more reference. -/
def Appends (before after : CallLedger) (analysisId : String) (ref : StoredDataRef) : Prop :=
  ∀ owner found, found ∈ after.confirmationRefs owner ↔
    found ∈ before.confirmationRefs owner ∨ owner = analysisId ∧ found = ref

/-- A call of the analysis was reserved. -/
def begun (analysisId : String) : LedgerCall → Except PyError Bool → Bool
  | .beginCall _ owner _ _, .ok true => owner = analysisId
  | _, _ => false

/-- A call of the analysis was settled without children. -/
def reconciled (analysisId : String) : LedgerCall → Except PyError Bool → Bool
  | .reconcile run _ _, .ok true => run.analysisId = analysisId
  | _, _ => false

/-- What an operation wrote when it returned. -/
inductive Wrote (files : ArtifactFiles) : LedgerCall → Bool → CallLedger → CallLedger → Prop
  | nothing {call : LedgerCall} {answer : Bool} {before after : CallLedger}
      (silent : ∀ analysisId, begun analysisId call (.ok answer) = false
        ∧ reconciled analysisId call (.ok answer) = false)
      (beside : Beside before after) (calls : after.calls = before.calls)
      (attempts : after.attempts = before.attempts) :
      Wrote files call answer before after
  | begins {callId analysisId marker : String} {now : Nat} {before after : CallLedger}
      (free : before.inFlight analysisId = none)
      (inserted : before.calls.insert { callId, analysisId, status := .inFlight, startedAt := now }
        = some after.calls)
      (beside : Beside before after) (attempts : after.attempts = before.attempts) :
      Wrote files (.beginCall callId analysisId now marker) true before after
  | spawns {callId analysisId phase : String} {call : CallRow} {before after : CallLedger}
      (found : before.callOf callId analysisId = some call) (flying : call.status = .inFlight)
      (inserted : before.children.insert { callId, analysisId, phase, status := .spawning }
        = some after.children)
      (calls : after.calls = before.calls) (attempts : after.attempts = before.attempts)
      (refs : ∀ owner, after.confirmationRefs owner = before.confirmationRefs owner) :
      Wrote files (.beginChild callId analysisId phase) true before after
  | records {attempt : AttemptRow} {owner : Option AttemptOwner} {retryOf : Option String}
      {promptBytes : Option PromptByteCounts} {marker : String} {before after : CallLedger}
      (inserted : before.attempts.insert attempt = some after.attempts)
      (beside : Beside before after) (calls : after.calls = before.calls) :
      Wrote files (.record attempt owner retryOf promptBytes marker) true before after
  | marksSafe {callId analysisId : String} {now : Nat} {before after : CallLedger}
      {call settled : CallRow} {attempt : AttemptRow}
      (settles : Settles before after call settled) (safe : settled.status = .safe)
      (recorded : before.attemptOf call.callId call.analysisId = some attempt)
      (beside : Beside before after) (attempts : after.attempts = before.attempts) :
      Wrote files (.markSafe callId analysisId now) true before after
  | confirmsLegacy {observed : Observation} {seen : CallLedger} {checkpoint : StageCheckpoint}
      {ref : StoredDataRef} {artifacts : Artifacts} {leaseBusy : Bool} {marker : String}
      {before after : CallLedger}
      (confirms : Confirms files ref) (names : callNamed files ref = none)
      (appended : Appends before after checkpoint.identity.analysisId ref)
      (childKeys : after.childKeys = before.childKeys)
      (calls : after.calls = before.calls) (attempts : after.attempts = before.attempts) :
      Wrote files (.confirm observed seen checkpoint ref artifacts leaseBusy marker) true before
        after
  | confirmsCall {observed : Observation} {seen : CallLedger} {checkpoint : StageCheckpoint}
      {ref : StoredDataRef} {artifacts : Artifacts} {leaseBusy : Bool} {marker : String}
      {before after : CallLedger} {call settled : CallRow}
      (confirms : Confirms files ref) (names : callNamed files ref = some call.callId)
      (owned : call.analysisId = checkpoint.identity.analysisId)
      (settles : Settles before after call settled) (confirmed : settled.status = .confirmed)
      (kept : settled.confirmationRef = some ref)
      (recorded : ∃ attempt, after.attemptOf call.callId call.analysisId = some attempt)
      (attempts : after.attempts = before.attempts
        ∨ ∃ attempt, attempt.status = "CODEX_USAGE_UNAVAILABLE"
          ∧ before.attempts.insert attempt = some after.attempts)
      (appended : Appends before after checkpoint.identity.analysisId ref)
      (childKeys : after.childKeys = before.childKeys) :
      Wrote files (.confirm observed seen checkpoint ref artifacts leaseBusy marker) true before
        after
  | reconciles {run : SimpleAnalysisRun} {sameDatabase : Bool} {now : Nat}
      {before after : CallLedger} {call settled : CallRow} {attempt : AttemptRow}
      (owned : call.analysisId = run.analysisId)
      (unspawned : ∀ child ∈ before.children.rows, child.callId ≠ call.callId)
      (settles : Settles before after call settled) (confirmed : settled.status = .confirmed)
      (kept : ∃ ref, settled.confirmationRef = some ref ∧ ¬ Confirms files ref)
      (inserted : before.attempts.insert attempt = some after.attempts)
      (recorded : attempt.attemptId = call.callId ∧ attempt.analysisId = call.analysisId
        ∧ attempt.status = "CODEX_NOT_SPAWNED")
      (beside : Beside before after) :
      Wrote files (.reconcile run sameDatabase now) true before after

/-! ### Attempts -/

variable {files : ArtifactFiles} {isoformat : Nat → String} {before after : CallLedger}
  {callId analysisId : String}

theorem storeAttempt_ok {attempt : AttemptRow} {inserted : Bool}
    (stored : before.storeAttempt attempt = .ok (inserted, after)) :
    after = before ∨ ∃ attempts, before.attempts.insert attempt = some attempts
      ∧ after = { before with attempts } := by
  rw [CallLedger.storeAttempt] at stored
  split at stored
  · rename_i attempts insertion
    cases stored
    exact .inr ⟨attempts, insertion, rfl⟩
  · split at stored
    · cases stored
      exact .inl rfl
    · cases stored

theorem storeMetadata_ok {row : AttemptMetadata} {inserted : Bool}
    (stored : before.storeMetadata row = .ok (inserted, after)) :
    ∃ metadata, after = { before with metadata } := by
  rw [CallLedger.storeMetadata] at stored
  split at stored
  · cases stored
    exact ⟨_, rfl⟩
  · split at stored
    · cases stored
      exact ⟨_, rfl⟩
    · cases stored

theorem describeAttempt_ok {attempt : AttemptRow} {owner : Option AttemptOwner}
    {retryOf : Option String} {promptBytes : Option PromptByteCounts} {inserted : Bool}
    (described : before.describeAttempt attempt owner retryOf promptBytes = .ok (inserted, after)) :
    ∃ metadata, after = { before with metadata } := by
  rw [CallLedger.describeAttempt] at described
  split at described
  · exact storeMetadata_ok described
  · cases described
    exact ⟨_, rfl⟩

/-- Recording an attempt inserts its row or finds it. -/
theorem recordLlmAttempt_ok {attempt : AttemptRow} {owner : Option AttemptOwner}
    {retryOf : Option String} {promptBytes : Option PromptByteCounts} {marker : String}
    (recorded : before.recordLlmAttempt attempt owner retryOf promptBytes marker = .ok after) :
    Beside before after ∧ after.calls = before.calls
      ∧ (after.attempts = before.attempts
        ∨ before.attempts.insert attempt = some after.attempts) := by
  obtain ⟨-, recorded⟩ := raiseIf_bind_ok.1 recorded
  obtain ⟨⟨inserted, stored⟩, storing, recorded⟩ := except_bind_ok recorded
  obtain ⟨lineage, -, recorded⟩ := except_bind_ok recorded
  obtain ⟨⟨annotated, described⟩, describing, recorded⟩ := except_bind_ok recorded
  obtain ⟨metadata, rfl⟩ := describeAttempt_ok describing
  have marked : ∃ dashboard, after = { stored with metadata, dashboard } := by
    cases recorded
    split
    · exact ⟨_, rfl⟩
    · exact ⟨_, rfl⟩
  obtain ⟨dashboard, rfl⟩ := marked
  obtain rfl | ⟨attempts, insertion, rfl⟩ := storeAttempt_ok storing
  · exact ⟨⟨rfl, fun _ => rfl⟩, rfl, .inl rfl⟩
  · exact ⟨⟨rfl, fun _ => rfl⟩, rfl, .inr insertion⟩

/-! ### Calls and children -/

/-- Reserving a call inserts it in flight, unless another call of the analysis is. -/
theorem beginCodexCall_ok {now : Nat} {marker : String} {answer : Bool}
    (began : before.beginCodexCall callId analysisId now marker = .ok (answer, after)) :
    answer = false ∧ after = before
      ∨ answer = true ∧ before.inFlight analysisId = none ∧ Beside before after
        ∧ before.calls.insert { callId, analysisId, status := .inFlight, startedAt := now }
          = some after.calls
        ∧ after.attempts = before.attempts := by
  obtain ⟨-, began⟩ := raiseIf_bind_ok.1 began
  split at began
  · cases began
    exact .inl ⟨rfl, rfl⟩
  · rename_i free
    obtain ⟨calls, inserted, began⟩ := except_bind_ok began
    obtain ⟨versions, -, began⟩ := except_bind_ok began
    cases began
    exact .inr ⟨rfl, by simpa using free, ⟨rfl, fun _ => rfl⟩, required_ok.1 inserted, rfl⟩

theorem beginCodexChildSpawn_ok {phase : String}
    (spawned : before.beginCodexChildSpawn callId analysisId phase = .ok after) :
    (∃ call, before.callOf callId analysisId = some call ∧ call.status = .inFlight)
      ∧ ∃ children, before.children.insert { callId, analysisId, phase, status := .spawning }
          = some children ∧ after = { before with children } := by
  obtain ⟨-, spawned⟩ := raiseIf_bind_ok.1 spawned
  obtain ⟨flying, spawned⟩ := raiseIf_bind_ok.1 spawned
  obtain ⟨children, inserted, spawned⟩ := except_bind_ok spawned
  cases spawned
  refine ⟨?_, children, required_ok.1 inserted, rfl⟩
  simpa using flying

/-- Updating a child keeps the keys of the children. -/
theorem settleChild_ok {selects : ChildRow → Bool} {change : ChildRow → ChildRow}
    {keeps : ∀ row, (change row).key = row.key}
    (settled : before.settleChild selects change keeps = .ok after) :
    Beside before after ∧ after.calls = before.calls ∧ after.attempts = before.attempts := by
  obtain ⟨-, settled⟩ := raiseIf_bind_ok.1 settled
  cases settled
  exact ⟨⟨Table.map_changed keeps, fun _ => rfl⟩, rfl, rfl⟩

/-! ### Settled calls -/

/-- Changing the one selected call settles it. -/
theorem Settles.of_update {selects : CallRow → Bool} (change : CallRow → CallRow)
    {call : CallRow}
    (keyed : ∀ row, selects row = true → row.callId = callId ∧ row.status = .inFlight)
    (found : before.calls.find callId = some call) (selected : selects call = true)
    (landed : (change call).status ≠ .inFlight)
    (owned : ∀ row, (change row).owned = row.owned)
    (calls : after.calls = before.calls.update selects change fun row =>
      congrArg Prod.fst (owned row)) :
    Settles before after call (change call) := by
  obtain ⟨rfl, flying⟩ := keyed call selected
  refine ⟨found, flying, landed, owned call, ?_, ?_⟩
  · rw [CallLedger.owners, calls]
    exact Table.map_changed owned
  · intro other
    rw [calls]
    exact Table.find_update_one (fun row chosen => (keyed row chosen).1) found selected other

omit [Platform] in
theorem selectsInFlight_iff {call : CallRow} :
    CallLedger.selectsInFlight callId analysisId call = true ↔
      call.callId = callId ∧ call.analysisId = analysisId ∧ call.status = .inFlight := by
  simp [CallLedger.selectsInFlight, and_assoc]

theorem markCodexCallSafe_ok {now : Nat}
    (marked : before.markCodexCallSafe callId analysisId now = .ok after) :
    ∃ call settled attempt, Settles before after call settled ∧ settled.status = .safe
      ∧ before.attemptOf call.callId call.analysisId = some attempt
      ∧ Beside before after ∧ after.attempts = before.attempts := by
  obtain ⟨one, marked⟩ := raiseIf_bind_ok.1 marked
  cases marked
  have keyed : ∀ row, (CallLedger.selectsInFlight callId analysisId row
      && (before.attemptOf callId analysisId).isSome) = true →
      row.callId = callId ∧ row.status = .inFlight := by
    intro row chosen
    obtain ⟨same, -, flying⟩ := selectsInFlight_iff.1 (Bool.and_eq_true_iff.1 chosen).1
    exact ⟨same, flying⟩
  obtain ⟨call, found, selected⟩ :=
    (Table.count_eq_one fun row chosen => (keyed row chosen).1).1 (not_not.1 one)
  obtain ⟨same, owned, -⟩ := selectsInFlight_iff.1 (Bool.and_eq_true_iff.1 selected).1
  obtain ⟨attempt, recorded⟩ := Option.isSome_iff_exists.1 (Bool.and_eq_true_iff.1 selected).2
  refine ⟨call, call.safeAt now, attempt,
    .of_update (fun call => call.safeAt now) keyed found selected ?_ (fun _ => rfl) rfl, rfl, ?_,
    ⟨rfl, fun _ => rfl⟩, rfl⟩
  · simp [CallRow.safeAt]
  · rw [same, owned]
    exact recorded

theorem confirmCall_ok {now : Nat} {ref : StoredDataRef} {stale : PyError}
    (confirmed : before.confirmCall callId analysisId now ref stale = .ok after) :
    ∃ call settled, Settles before after call settled ∧ call.callId = callId
      ∧ call.analysisId = analysisId ∧ settled.status = .confirmed
      ∧ settled.confirmationRef = some ref ∧ after = { before with calls := after.calls } := by
  obtain ⟨one, confirmed⟩ := raiseIf_bind_ok.1 confirmed
  cases confirmed
  have keyed : ∀ row, CallLedger.selectsInFlight callId analysisId row = true →
      row.callId = callId ∧ row.status = .inFlight := by
    intro row chosen
    obtain ⟨same, -, flying⟩ := selectsInFlight_iff.1 chosen
    exact ⟨same, flying⟩
  obtain ⟨call, found, selected⟩ :=
    (Table.count_eq_one fun row chosen => (keyed row chosen).1).1 (not_not.1 one)
  obtain ⟨same, owned, -⟩ := selectsInFlight_iff.1 selected
  refine ⟨call, call.confirmedBy now ref,
    .of_update (fun call => call.confirmedBy now ref) keyed found selected ?_ (fun _ => rfl) rfl,
    same, owned, rfl, rfl, rfl⟩
  simp [CallRow.confirmedBy]

/-! ### Calls that never spawned -/

omit [Platform] in
theorem not_confirms_preSpawn {confirmation : PreSpawnConfirmation} :
    ¬ Confirms files (files.putJson confirmation) := by
  rw [Confirms, files.read_put]
  simp [PreSpawnConfirmation.document, textOf, Json.get?, Json.str?]

theorem reconcileUnspawnedCodexCall_ok {run : SimpleAnalysisRun} {sameDatabase : Bool} {now : Nat}
    {answer : Bool}
    (reconciled : before.reconcileUnspawnedCodexCall files isoformat run sameDatabase now =
      .ok (answer, after)) :
    answer = false ∧ after = before
      ∨ answer = true ∧ Wrote files (.reconcile run sameDatabase now) true before after := by
  rw [CallLedger.reconcileUnspawnedCodexCall] at reconciled
  split at reconciled
  · cases reconciled
    exact .inl ⟨rfl, rfl⟩
  obtain ⟨-, reconciled⟩ := raiseIf_bind_ok.1 reconciled
  split at reconciled
  · cases reconciled
    exact .inl ⟨rfl, rfl⟩
  · rename_i flying found
    split at reconciled
    · cases reconciled
      exact .inl ⟨rfl, rfl⟩
    · rename_i unspawned
      obtain ⟨-, -, childless, missing, -⟩ := not_not.1 unspawned
      obtain ⟨attempts, inserted, reconciled⟩ := except_bind_ok reconciled
      obtain ⟨confirmed, confirming, reconciled⟩ := except_bind_ok reconciled
      cases reconciled
      obtain ⟨call, settled, settles, same, owned, landed, kept, shape⟩ := confirmCall_ok confirming
      obtain ⟨ref, stored⟩ : ∃ ref, before.attempts.insert
          (CallLedger.notSpawned run flying.callId ref) = some after.attempts := by
        rw [shape]
        exact ⟨_, required_ok.1 inserted⟩
      have beside : Beside before after := by
        rw [shape]
        exact ⟨rfl, fun _ => rfl⟩
      exact .inr ⟨rfl, .reconciles owned (same ▸ childless) ⟨settles.found, settles.flying,
        settles.landed, settles.same, settles.owners, settles.finds⟩ landed
        ⟨_, kept, not_confirms_preSpawn⟩ stored ⟨same.symm, owned.symm, rfl⟩ beside⟩

/-! ### Confirmed cleanups -/

/-- A valid confirmation is a cleanup marker that names the call it settles. -/
theorem codexCleanupConfirmationValid_ok {observed : Observation} {seen : CallLedger}
    {checkpoint : StageCheckpoint} {ref : StoredDataRef} {artifacts : Artifacts}
    {call : Option String}
    (valid : seen.codexCleanupConfirmationValid files observed checkpoint ref artifacts =
      some call) :
    Confirms files ref ∧ callNamed files ref = call := by
  rw [CallLedger.codexCleanupConfirmationValid] at valid
  split at valid
  · cases valid
  split at valid
  · cases valid
  rename_i marker found
  split at valid
  · rename_i named observedAt marked _
    split at valid
    · cases valid
    split at valid
    · cases valid
    rename_i confirmed
    cases valid
    obtain ⟨content, -⟩ := Option.filter_eq_some_iff.1 found
    simp only [not_or, Bool.not_eq_false] at confirmed
    constructor
    · have kind := confirmed.2
      simp only [confirmsCleanup, Bool.and_eq_true, decide_eq_true_eq] at kind
      rw [Confirms, content]
      exact kind.1.1.1.1.1.1.1.1
    · rw [callNamed, content]
      simp only [markedCall] at marked
      split at marked
      · rename_i callId named
        split at marked
        · cases marked
          simp [textOf, named, Json.str?]
        · cases marked
      · cases marked
      · rename_i unnamed
        split at marked
        · cases marked
          simp [textOf, unnamed]
        · cases marked
  · cases valid

/-- An appended confirmation is one more reference of its analysis. -/
theorem appendConfirmation_ok {checkpoint : StageCheckpoint} {attemptId : String}
    {ref : StoredDataRef}
    (appended : before.appendConfirmation checkpoint attemptId ref = .ok after) :
    Appends before after checkpoint.identity.analysisId ref
      ∧ ∃ db, after = { before with db } := by
  obtain ⟨sequence, -, appended⟩ := except_bind_ok appended
  obtain ⟨event, made, appended⟩ := except_bind_ok appended
  obtain ⟨activity, appends, appended⟩ := except_bind_ok appended
  cases appended
  obtain ⟨rfl, -⟩ := lifecycleEvent_ok made
  refine ⟨fun owner found => ?_, _, rfl⟩
  obtain ⟨rfl, known⟩ | rfl := appendEvent_ok appends
  · constructor
    · exact .inl
    · rintro (old | ⟨rfl, rfl⟩)
      · exact old
      · exact List.mem_filterMap.2 ⟨_, known, by simp [lifecycleRecord]⟩
  · rw [CallLedger.confirmationRefs, List.filterMap_append, List.mem_append]
    refine or_congr Iff.rfl ?_
    by_cases same : owner = checkpoint.identity.analysisId
    · simp [lifecycleRecord, same]
    · simp [lifecycleRecord, same, Ne.symm same]

/-- After a confirmed cleanup the call has an attempt of its analysis. -/
theorem attemptOfConfirmed_ok {ref : StoredDataRef}
    (recorded : before.attemptOfConfirmed callId analysisId ref = .ok after) :
    (∃ attempt, after.attemptOf callId analysisId = some attempt)
      ∧ (after = before ∨ ∃ attempts,
        before.attempts.insert (CallLedger.usageUnavailable callId analysisId ref) = some attempts
          ∧ after = { before with attempts }) := by
  rw [CallLedger.attemptOfConfirmed] at recorded
  split at recorded
  · rename_i attempt found
    split at recorded
    · rename_i owned
      cases recorded
      refine ⟨⟨attempt, ?_⟩, .inl rfl⟩
      simp [CallLedger.attemptOf, found, owned]
    · cases recorded
  · obtain ⟨attempts, inserted, recorded⟩ := except_bind_ok recorded
    cases recorded
    have inserted := required_ok.1 inserted
    refine ⟨⟨CallLedger.usageUnavailable callId analysisId ref, ?_⟩, .inr ⟨attempts, inserted, rfl⟩⟩
    rw [CallLedger.attemptOf, Table.find_insert inserted]
    simp [CallLedger.usageUnavailable]

theorem confirmLegacyCleanup_ok {checkpoint : StageCheckpoint} {attemptId marker : String}
    {ref : StoredDataRef}
    (confirmed : before.confirmLegacyCleanup checkpoint attemptId ref marker = .ok after) :
    after = before
      ∨ Appends before after checkpoint.identity.analysisId ref ∧ after.childKeys = before.childKeys
        ∧ after.calls = before.calls ∧ after.attempts = before.attempts := by
  obtain ⟨-, confirmed⟩ := raiseIf_bind_ok.1 confirmed
  split at confirmed
  · cases confirmed
    exact .inl rfl
  · obtain ⟨appended, appending, confirmed⟩ := except_bind_ok confirmed
    cases confirmed
    obtain ⟨appends, db, rfl⟩ := appendConfirmation_ok appending
    exact .inr ⟨appends, rfl, rfl, rfl⟩

theorem confirmCallCleanup_ok {checkpoint : StageCheckpoint} {attemptId marker : String}
    {ref : StoredDataRef} {now : Nat}
    (confirmed : before.confirmCallCleanup checkpoint attemptId callId ref now marker =
      .ok after) :
    ∃ call settled, Settles before after call settled ∧ call.callId = callId
      ∧ call.analysisId = checkpoint.identity.analysisId ∧ settled.status = .confirmed
      ∧ settled.confirmationRef = some ref
      ∧ (∃ attempt, after.attemptOf callId checkpoint.identity.analysisId = some attempt)
      ∧ (after.attempts = before.attempts
        ∨ ∃ attempt, attempt.status = "CODEX_USAGE_UNAVAILABLE"
          ∧ before.attempts.insert attempt = some after.attempts)
      ∧ Appends before after checkpoint.identity.analysisId ref
      ∧ after.childKeys = before.childKeys := by
  obtain ⟨-, confirmed⟩ := raiseIf_bind_ok.1 confirmed
  obtain ⟨appended, appending, confirmed⟩ := except_bind_ok confirmed
  obtain ⟨recorded, recording, confirmed⟩ := except_bind_ok confirmed
  obtain ⟨settledLedger, settling, confirmed⟩ := except_bind_ok confirmed
  cases confirmed
  obtain ⟨appends, db, rfl⟩ := appendConfirmation_ok appending
  obtain ⟨attempted, attempts⟩ := attemptOfConfirmed_ok recording
  obtain ⟨call, settled, settles, same, owned, landed, kept, shape⟩ := confirmCall_ok settling
  have exited : ∀ ledger : CallLedger,
      (ledger.exitChildren callId checkpoint.identity.analysisId).childKeys = ledger.childKeys :=
    fun ledger => Table.map_changed fun _ => rfl
  have calls : recorded.calls = before.calls := by
    obtain rfl | ⟨_, -, rfl⟩ := attempts <;> rfl
  refine ⟨call, settled, ⟨calls ▸ settles.found, settles.flying, settles.landed, settles.same,
    ?_, ?_⟩, same, owned, landed, kept, ?_, ?_, ?_, ?_⟩
  · exact settles.owners.trans (by rw [CallLedger.owners, calls]; rfl)
  · intro other
    rw [← calls]
    exact settles.finds other
  · rw [shape]
    exact attempted
  · rw [shape]
    obtain rfl | ⟨_, inserted, rfl⟩ := attempts
    · exact .inl rfl
    · exact .inr ⟨_, rfl, inserted⟩
  · rw [shape]
    obtain rfl | ⟨_, -, rfl⟩ := attempts <;> exact appends
  · rw [shape]
    refine (exited _).trans ?_
    obtain rfl | ⟨_, -, rfl⟩ := attempts <;> rfl

/-- A confirmation that returns wrote nothing, a confirmation without a call, or one that settles
the call it names. -/
theorem confirmCodexCleanup_ok {observed : Observation} {seen : CallLedger}
    {checkpoint : StageCheckpoint} {ref : StoredDataRef} {artifacts : Artifacts}
    {leaseBusy : Bool} {marker : String}
    (confirmed : seen.confirmCodexCleanup files observed before checkpoint ref artifacts leaseBusy
      marker = .ok after) :
    Wrote files (.confirm observed seen checkpoint ref artifacts leaseBusy marker) true before
      after := by
  obtain ⟨-, confirmed⟩ := raiseIf_bind_ok.1 confirmed
  obtain ⟨-, confirmed⟩ := raiseIf_bind_ok.1 confirmed
  obtain ⟨named, valid, confirmed⟩ := except_bind_ok confirmed
  obtain ⟨confirms, names⟩ := codexCleanupConfirmationValid_ok (required_ok.1 valid)
  obtain ⟨-, -, confirmed⟩ := except_bind_ok confirmed
  obtain ⟨-, confirmed⟩ := raiseIf_bind_ok.1 confirmed
  obtain ⟨attemptId, -, confirmed⟩ := except_bind_ok confirmed
  cases named with
  | none =>
      obtain rfl | ⟨appends, childKeys, calls, attempts⟩ := confirmLegacyCleanup_ok confirmed
      · exact .nothing (fun _ => ⟨rfl, rfl⟩) ⟨rfl, fun _ => rfl⟩ rfl rfl
      · exact .confirmsLegacy confirms names appends childKeys calls attempts
  | some callId =>
      obtain ⟨call, settled, settles, rfl, owned, landed, kept, recorded, attempts, appends,
        childKeys⟩ := confirmCallCleanup_ok confirmed
      exact .confirmsCall confirms names owned settles landed kept (owned ▸ recorded) attempts
        appends childKeys

/-! ### Every operation -/

theorem answering_ok {result : Except PyError CallLedger} {answer : Bool} :
    answering result = .ok (answer, after) ↔ result = .ok after ∧ answer = true := by
  cases result <;> simp [answering, Except.map, eq_comm, and_comm]

/-- Every operation that returns wrote what its case says. -/
theorem LedgerCall.run_ok {call : LedgerCall} {answer : Bool}
    (returned : call.run files isoformat before = .ok (answer, after)) :
    Wrote files call answer before after := by
  cases call with
  | beginCall callId analysisId now marker =>
      obtain ⟨rfl, rfl⟩ | ⟨rfl, free, beside, inserted, attempts⟩ := beginCodexCall_ok returned
      · exact .nothing (fun _ => ⟨rfl, rfl⟩) ⟨rfl, fun _ => rfl⟩ rfl rfl
      · exact .begins free inserted beside attempts
  | beginChild callId analysisId phase =>
      obtain ⟨spawned, rfl⟩ := answering_ok.1 returned
      obtain ⟨⟨call, found, flying⟩, children, inserted, rfl⟩ := beginCodexChildSpawn_ok spawned
      exact .spawns found flying inserted rfl rfl fun _ => rfl
  | recordChild callId analysisId phase pid startIdentity =>
      obtain ⟨recorded, rfl⟩ := answering_ok.1 returned
      obtain ⟨-, recorded⟩ := raiseIf_bind_ok.1 recorded
      obtain ⟨beside, calls, attempts⟩ := settleChild_ok recorded
      exact .nothing (fun _ => ⟨rfl, rfl⟩) beside calls attempts
  | exitChild callId analysisId phase pid startIdentity =>
      obtain ⟨exited, rfl⟩ := answering_ok.1 returned
      obtain ⟨beside, calls, attempts⟩ := settleChild_ok exited
      exact .nothing (fun _ => ⟨rfl, rfl⟩) beside calls attempts
  | record attempt owner retryOf promptBytes marker =>
      obtain ⟨recorded, rfl⟩ := answering_ok.1 returned
      obtain ⟨beside, calls, known | inserted⟩ := recordLlmAttempt_ok recorded
      · exact .nothing (fun _ => ⟨rfl, rfl⟩) beside calls known
      · exact .records inserted beside calls
  | markSafe callId analysisId now =>
      obtain ⟨marked, rfl⟩ := answering_ok.1 returned
      obtain ⟨call, settled, attempt, settles, safe, recorded, beside, attempts⟩ :=
        markCodexCallSafe_ok marked
      exact .marksSafe settles safe recorded beside attempts
  | confirm observed seen checkpoint ref artifacts leaseBusy marker =>
      obtain ⟨confirmed, rfl⟩ := answering_ok.1 returned
      exact confirmCodexCleanup_ok confirmed
  | reconcile run sameDatabase now =>
      obtain ⟨rfl, rfl⟩ | ⟨rfl, wrote⟩ := reconcileUnspawnedCodexCall_ok returned
      · exact .nothing (fun _ => ⟨rfl, rfl⟩) ⟨rfl, fun _ => rfl⟩ rfl rfl
      · exact wrote
  | other write =>
      obtain ⟨written, rfl⟩ := answering_ok.1 returned
      cases written
      exact .nothing (fun _ => ⟨rfl, rfl⟩) ⟨rfl, write.keeps before⟩ rfl rfl

/-- A step of a run wrote what its operation wrote, or nothing when it raised. -/
theorem perform_cases (call : LedgerCall) :
    (∃ answer, (perform files isoformat before call).2 = .ok answer
        ∧ Wrote files call answer before (perform files isoformat before call).1)
      ∨ (∃ reason, (perform files isoformat before call).2 = .error reason)
        ∧ (perform files isoformat before call).1 = before := by
  rw [perform]
  cases returned : call.run files isoformat before with
  | ok result =>
      obtain ⟨answer, after⟩ := result
      exact .inl ⟨answer, rfl, LedgerCall.run_ok returned⟩
  | error reason => exact .inr ⟨⟨reason, rfl⟩, rfl⟩

/-! ## Invariants of runs -/

/-- An attempt stays where an analysis recorded it. -/
theorem attemptOf_insert {attempt stored : AttemptRow}
    (inserted : before.attempts.insert attempt = some after.attempts)
    (recorded : before.attemptOf callId analysisId = some stored) :
    after.attemptOf callId analysisId = some stored := by
  obtain ⟨found, owned⟩ := Option.filter_eq_some_iff.1 recorded
  obtain ⟨fresh, -⟩ := Table.insert_eq_some.1 inserted
  have other : callId ≠ attempt.attemptId := by
    rintro rfl
    rw [fresh] at found
    cases found
  rw [CallLedger.attemptOf, Table.find_insert inserted, if_neg other]
  exact recorded

/-- No operation removes a recorded attempt. -/
theorem Wrote.keepsAttempt {call : LedgerCall} {answer : Bool} {attempt : AttemptRow}
    (wrote : Wrote files call answer before after)
    (recorded : before.attemptOf callId analysisId = some attempt) :
    after.attemptOf callId analysisId = some attempt := by
  have unchanged : after.attempts = before.attempts →
      after.attemptOf callId analysisId = some attempt := by
    intro same
    rw [CallLedger.attemptOf, same]
    exact recorded
  cases wrote with
  | nothing _ _ _ attempts => exact unchanged attempts
  | begins _ _ _ attempts => exact unchanged attempts
  | spawns _ _ _ _ attempts => exact unchanged attempts
  | records inserted => exact attemptOf_insert inserted recorded
  | marksSafe _ _ _ _ attempts => exact unchanged attempts
  | confirmsLegacy _ _ _ _ _ attempts => exact unchanged attempts
  | confirmsCall _ _ _ _ _ _ _ attempts =>
      obtain same | ⟨_, -, inserted⟩ := attempts
      · exact unchanged same
      · exact attemptOf_insert inserted recorded
  | reconciles _ _ _ _ _ inserted => exact attemptOf_insert inserted recorded

/-- Every settled call has an attempt of its analysis, and an analysis has at most one call in
flight. -/
structure CallsSound (ledger : CallLedger) : Prop where
  oneInFlight : ∀ left ∈ ledger.calls.rows, ∀ right ∈ ledger.calls.rows,
    left.status = .inFlight → right.status = .inFlight → left.analysisId = right.analysisId →
    left = right
  attempted : ∀ call ∈ ledger.calls.rows, call.status ≠ .inFlight →
    ∃ attempt, ledger.attemptOf call.callId call.analysisId = some attempt

/-- A row after a call was settled is the settled row or an old one. -/
theorem Settles.cases {call settled row : CallRow} (settles : Settles before after call settled)
    (member : row ∈ after.calls.rows) :
    row = settled ∨ row ∈ before.calls.rows ∧ row.callId ≠ call.callId := by
  have found : after.calls.find row.callId = some row := Table.find_eq_some.2 ⟨member, rfl⟩
  rw [settles.finds] at found
  split at found
  · cases found
    exact .inl rfl
  · rename_i other
    exact .inr ⟨(Table.find_eq_some.1 found).1, other⟩

/-- Settling a call that has an attempt keeps the calls sound. -/
theorem CallsSound.settled {call settled : CallRow} (sound : CallsSound before)
    (settles : Settles before after call settled)
    (recorded : ∃ attempt, after.attemptOf call.callId call.analysisId = some attempt)
    (keeps : ∀ {callId analysisId attempt}, before.attemptOf callId analysisId = some attempt →
      after.attemptOf callId analysisId = some attempt) :
    CallsSound after := by
  constructor
  · intro left leftMember right rightMember leftFlying rightFlying same
    obtain rfl | ⟨leftOld, -⟩ := settles.cases leftMember
    · exact absurd leftFlying settles.landed
    obtain rfl | ⟨rightOld, -⟩ := settles.cases rightMember
    · exact absurd rightFlying settles.landed
    exact sound.oneInFlight left leftOld right rightOld leftFlying rightFlying same
  · intro row member landed
    obtain rfl | ⟨old, -⟩ := settles.cases member
    · obtain ⟨sameCall, sameAnalysis⟩ := Prod.mk.inj settles.same
      rw [sameCall, sameAnalysis]
      exact recorded
    · obtain ⟨attempt, found⟩ := sound.attempted row old landed
      exact ⟨attempt, keeps found⟩

/-- What an operation wrote keeps the calls sound. -/
theorem CallsSound.wrote {call : LedgerCall} {answer : Bool} (sound : CallsSound before)
    (wrote : Wrote files call answer before after) : CallsSound after := by
  have keeps : ∀ {callId analysisId attempt}, before.attemptOf callId analysisId = some attempt →
      after.attemptOf callId analysisId = some attempt := wrote.keepsAttempt
  have unchanged : after.calls = before.calls → CallsSound after := by
    intro calls
    constructor
    · rw [calls]
      exact sound.oneInFlight
    · intro row member landed
      obtain ⟨attempt, found⟩ := sound.attempted row (calls ▸ member) landed
      exact ⟨attempt, keeps found⟩
  cases wrote with
  | nothing _ _ calls => exact unchanged calls
  | @begins _ analysisId _ _ _ _ free inserted _ _ =>
      obtain ⟨-, rows⟩ := Table.insert_eq_some.1 inserted
      have none_flying : ∀ row ∈ before.calls.rows, row.status = .inFlight →
          row.analysisId ≠ analysisId := by
        intro row member flying same
        have missing := List.find?_eq_none.1 free row member
        simp [flying, same] at missing
      constructor
      · intro left leftMember right rightMember leftFlying rightFlying same
        rw [rows, List.mem_append, List.mem_singleton] at leftMember rightMember
        rcases leftMember with leftOld | rfl <;> rcases rightMember with rightOld | rfl
        · exact sound.oneInFlight left leftOld right rightOld leftFlying rightFlying same
        · exact absurd same (none_flying left leftOld leftFlying)
        · exact absurd same.symm (none_flying right rightOld rightFlying)
        · rfl
      · intro row member landed
        rw [rows, List.mem_append, List.mem_singleton] at member
        rcases member with old | rfl
        · obtain ⟨attempt, found⟩ := sound.attempted row old landed
          exact ⟨attempt, keeps found⟩
        · exact absurd rfl landed
  | spawns _ _ _ calls => exact unchanged calls
  | records _ _ calls => exact unchanged calls
  | marksSafe settles _ recorded => exact sound.settled settles ⟨_, keeps recorded⟩ keeps
  | confirmsLegacy _ _ _ _ calls => exact unchanged calls
  | confirmsCall _ _ _ settles _ _ recorded => exact sound.settled settles recorded keeps
  | @reconciles _ _ _ _ _ _ _ attempt _ _ settles _ _ inserted recorded _ =>
      refine sound.settled settles ⟨attempt, ?_⟩ keeps
      rw [CallLedger.attemptOf, Table.find_insert inserted, if_pos recorded.1.symm]
      simp [recorded.2.1]

/-- What every operation that wrote keeps holds along every run. -/
theorem run_keeps {holds : CallLedger → Prop}
    (keeps : ∀ {call answer before after}, Wrote files call answer before after → holds before →
      holds after)
    {start : CallLedger} (initially : holds start) (calls : List LedgerCall) :
    holds (runCalls (perform files isoformat) start calls) := by
  apply runCalls_keeps
  · intro ledger call kept
    obtain ⟨answer, -, wrote⟩ | ⟨-, same⟩ := perform_cases call
    · exact keeps wrote kept
    · rw [same]
      exact kept
  · exact initially

/-- Along every run the calls stay sound. -/
theorem callsSound_run (calls : List LedgerCall) :
    CallsSound (runCalls (perform files isoformat) .new calls) :=
  run_keeps (fun wrote sound => sound.wrote wrote)
    ⟨fun _ member => absurd member List.not_mem_nil,
      fun _ member => absurd member List.not_mem_nil⟩ calls

/-! ## Children -/

/-- A call without child rows. -/
def CallLedger.Childless (ledger : CallLedger) (callId : String) : Prop :=
  ∀ key ∈ ledger.childKeys, key.1 ≠ callId

/-- A call that is no longer in flight, of which no child row exists. -/
def CallLedger.SettledChildless (ledger : CallLedger) (callId : String) : Prop :=
  ledger.Childless callId
    ∧ ∃ call, ledger.calls.find callId = some call ∧ call.status ≠ .inFlight

/-- A new child row is one of a call in flight. -/
theorem Wrote.childKeys {call : LedgerCall} {answer : Bool}
    (wrote : Wrote files call answer before after) :
    after.childKeys = before.childKeys
      ∨ ∃ child row, after.children.rows = before.children.rows ++ [child]
        ∧ before.callOf child.callId child.analysisId = some row ∧ row.status = .inFlight := by
  cases wrote with
  | nothing _ beside => exact .inl beside.childKeys
  | begins _ _ beside => exact .inl beside.childKeys
  | spawns found flying inserted =>
      exact .inr ⟨_, _, (Table.insert_eq_some.1 inserted).2, found, flying⟩
  | records _ beside => exact .inl beside.childKeys
  | marksSafe _ _ _ beside => exact .inl beside.childKeys
  | confirmsLegacy _ _ _ childKeys => exact .inl childKeys
  | confirmsCall _ _ _ _ _ _ _ _ _ childKeys => exact .inl childKeys
  | reconciles _ _ _ _ _ _ _ beside => exact .inl beside.childKeys

/-- No operation removes a child row. -/
theorem Wrote.childKeys_subset {call : LedgerCall} {answer : Bool}
    (wrote : Wrote files call answer before after) : before.childKeys ⊆ after.childKeys := by
  obtain same | ⟨child, row, rows, -⟩ := wrote.childKeys
  · rw [same]
    exact List.Subset.refl _
  · rw [CallLedger.childKeys, CallLedger.childKeys, rows, List.map_append]
    exact List.subset_append_left _ _

/-- Settling one call leaves every call that has landed as it is. -/
theorem Settles.keepsLanded {call settled row : CallRow} (settles : Settles before after call settled)
    (found : before.calls.find callId = some row) (landed : row.status ≠ .inFlight) :
    after.calls.find callId = some row := by
  rw [settles.finds, if_neg]
  · exact found
  · rintro rfl
    rw [settles.found] at found
    cases found
    exact landed settles.flying

/-- A call that has landed stays as it is. -/
theorem Wrote.keepsLanded {call : LedgerCall} {answer : Bool} {row : CallRow}
    (wrote : Wrote files call answer before after)
    (found : before.calls.find callId = some row) (landed : row.status ≠ .inFlight) :
    after.calls.find callId = some row := by
  cases wrote with
  | nothing _ _ calls => exact calls ▸ found
  | begins _ inserted =>
      rw [Table.find_insert inserted, if_neg]
      · exact found
      · rintro rfl
        rw [(Table.insert_eq_some.1 inserted).1] at found
        cases found
  | spawns _ _ _ calls => exact calls ▸ found
  | records _ _ calls => exact calls ▸ found
  | marksSafe settles => exact settles.keepsLanded found landed
  | confirmsLegacy _ _ _ _ calls => exact calls ▸ found
  | confirmsCall _ _ _ settles => exact settles.keepsLanded found landed
  | reconciles _ _ settles => exact settles.keepsLanded found landed

/-- A settled call without children never gets one. -/
theorem Wrote.staysChildless {call : LedgerCall} {answer : Bool}
    (wrote : Wrote files call answer before after) (settled : before.SettledChildless callId) :
    after.SettledChildless callId := by
  obtain ⟨childless, settledCall, stored, landed⟩ := settled
  refine ⟨?_, settledCall, wrote.keepsLanded stored landed, landed⟩
  obtain same | ⟨child, row, rows, found, flying⟩ := wrote.childKeys
  · rw [CallLedger.Childless, same]
    exact childless
  · intro key member
    rw [CallLedger.childKeys, rows, List.map_append, List.mem_append] at member
    rcases member with old | new
    · exact childless key old
    · rintro rfl
      rw [List.map_singleton, List.mem_singleton] at new
      obtain ⟨current, -⟩ := Option.filter_eq_some_iff.1 found
      rw [new, show child.key.1 = child.callId from rfl, current] at stored
      cases stored
      exact landed flying

/-! ## Safety -/

/-- What holds of the ledger in every run from a new database. -/
structure LedgerSafe (files : ArtifactFiles) (isoformat : Nat → String) : Prop where
  /-- An analysis has at most one call in flight. -/
  oneInFlight : ∀ calls analysisId,
    (runCalls (perform files isoformat) .new calls).calls.rows.countP (fun call =>
      decide (call.analysisId = analysisId) && decide (call.status = .inFlight)) ≤ 1
  /-- A call that left its flight has exactly one attempt. -/
  attempted : ∀ calls, ∀ call ∈ (runCalls (perform files isoformat) .new calls).calls.rows,
    call.status ≠ .inFlight →
    (runCalls (perform files isoformat) .new calls).attempts.rows.countP
      (fun attempt => attempt.attemptId = call.callId) = 1
  /-- A call that was settled without children never has one, before or after. -/
  unspawned : ∀ earlier run sameDatabase now,
    (perform files isoformat (runCalls (perform files isoformat) .new earlier)
      (.reconcile run sameDatabase now)).2 = .ok true →
    ∃ callId, (runCalls (perform files isoformat) .new earlier).unresolvedCodexCall run.analysisId
        = some callId
      ∧ ∀ later history, history <+: earlier ++ .reconcile run sameDatabase now :: later →
        ∀ child ∈ (runCalls (perform files isoformat) .new history).children.rows,
          child.callId ≠ callId
  /-- A child row is created only for a call in flight. -/
  spawned : ∀ earlier call, ∀ child ∈
      (perform files isoformat (runCalls (perform files isoformat) .new earlier) call).1.children.rows,
    child.key ∉ (runCalls (perform files isoformat) .new earlier).childKeys →
    ∃ row, (runCalls (perform files isoformat) .new earlier).callOf child.callId child.analysisId
        = some row
      ∧ row.status = .inFlight

/-- The call in flight of an analysis is the one its ledger holds. -/
theorem CallsSound.inFlight {call : CallRow} (sound : CallsSound before)
    (found : before.calls.find call.callId = some call) (flying : call.status = .inFlight) :
    before.inFlight call.analysisId = some call := by
  have member := (Table.find_eq_some.1 found).1
  cases first : before.inFlight call.analysisId with
  | none =>
      have missing := List.find?_eq_none.1 first call member
      simp [flying] at missing
  | some other =>
      have stored : other ∈ before.calls.rows := List.mem_of_find?_eq_some first
      have chosen : other.analysisId = call.analysisId ∧ other.status = .inFlight := by
        simpa using List.find?_some first
      rw [sound.oneInFlight other stored call member chosen.2 flying chosen.1]

/-- A reconciliation that answers `True` settled the call in flight of its run, which has no
children. -/
theorem reconciled_settles {run : SimpleAnalysisRun} {sameDatabase : Bool} {now : Nat}
    (sound : CallsSound before)
    (answered : (perform files isoformat before (.reconcile run sameDatabase now)).2 = .ok true) :
    ∃ callId, before.unresolvedCodexCall run.analysisId = some callId ∧ before.Childless callId
      ∧ (perform files isoformat before (.reconcile run sameDatabase now)).1.SettledChildless
          callId := by
  obtain ⟨answer, same, wrote⟩ | ⟨⟨reason, raised⟩, -⟩ :=
    @perform_cases _ files isoformat before (.reconcile run sameDatabase now)
  · rw [same] at answered
    cases answered
    cases wrote with
    | nothing silent =>
        have counted := (silent run.analysisId).2
        simp [reconciled] at counted
    | @reconciles _ _ _ _ _ call settled _ owned unspawned settles _ _ _ _ beside =>
        have childless : before.Childless call.callId := by
          intro key member
          obtain ⟨child, stored, rfl⟩ := List.mem_map.1 member
          exact unspawned child stored
        refine ⟨call.callId, ?_, childless, ?_, settled, ?_, settles.landed⟩
        · rw [CallLedger.unresolvedCodexCall, ← owned, sound.inFlight settles.found settles.flying]
          rfl
        · rw [CallLedger.Childless, beside.childKeys]
          exact childless
        · rw [settles.finds, if_pos rfl]
  · rw [raised] at answered
    cases answered

/-- A call without children has none at any earlier moment of the run. -/
theorem Childless.earlier {start : CallLedger} {history later : List LedgerCall}
    (childless : (runCalls (perform files isoformat) start (history ++ later)).Childless callId) :
    (runCalls (perform files isoformat) start history).Childless callId := by
  have kept : (runCalls (perform files isoformat) start history).childKeys ⊆
      (runCalls (perform files isoformat) start (history ++ later)).childKeys := by
    rw [runCalls_append]
    exact @run_keeps _ files isoformat
      (fun ledger => (runCalls (perform files isoformat) start history).childKeys ⊆ ledger.childKeys)
      (fun wrote held => List.Subset.trans held wrote.childKeys_subset) _ (List.Subset.refl _) later
  exact fun key member => childless key (kept member)

/-- In every run the ledger is safe. -/
theorem codexCalls_safe (files : ArtifactFiles) (isoformat : Nat → String) :
    LedgerSafe files isoformat := by
  constructor
  · intro calls analysisId
    apply Table.count_le_one
    intro left first right second leftSelected rightSelected
    simp only [Bool.and_eq_true, decide_eq_true_eq] at leftSelected rightSelected
    exact (callsSound_run calls).oneInFlight left first right second leftSelected.2
      rightSelected.2 (leftSelected.1.trans rightSelected.1.symm)
  · intro calls call member landed
    obtain ⟨attempt, recorded⟩ := (callsSound_run calls).attempted call member landed
    obtain ⟨found, -⟩ := Option.filter_eq_some_iff.1 recorded
    apply (Table.count_eq_one fun row chosen => by simpa using chosen).2
    exact ⟨attempt, found, by simpa using (Table.find_eq_some.1 found).2⟩
  · intro earlier run sameDatabase now answered
    obtain ⟨callId, flying, childless, settled⟩ :=
      reconciled_settles (callsSound_run earlier) answered
    refine ⟨callId, flying, ?_⟩
    intro later history before child member
    have childlessThen : (runCalls (perform files isoformat) .new history).Childless callId := by
      obtain ⟨rest, whole⟩ := before
      obtain ⟨after, rfl, -⟩ | ⟨after, rfl, split⟩ := List.append_eq_append_iff.1 whole
      · exact Childless.earlier childless
      · cases after with
        | nil => simpa using childless
        | cons call after =>
            cases split
            rw [runCalls_append]
            exact (@run_keeps _ files isoformat (·.SettledChildless callId)
              (fun wrote held => wrote.staysChildless held) _ settled after).1
    exact childlessThen child.key (List.mem_map_of_mem member)
  · intro earlier call child member fresh
    obtain ⟨answer, -, wrote⟩ | ⟨-, same⟩ := perform_cases call
    · obtain same | ⟨spawned, row, rows, found, flying⟩ := wrote.childKeys
      · exact absurd (same ▸ List.mem_map_of_mem member) fresh
      · rw [rows, List.mem_append, List.mem_singleton] at member
        rcases member with old | rfl
        · exact absurd (List.mem_map_of_mem old) fresh
        · exact ⟨row, found, flying⟩
    · rw [same] at member
      exact absurd (List.mem_map_of_mem member) fresh

end Sastsimi.Ledger
