import Sastsimi.Ledger.CallSafety
import Sastsimi.Runtime.Frontier

/-!
# Conservation of usage

The usage of an analysis counts a call once, whether it is reserved, recorded or confirmed.
An attempt of a reserved call takes the place of its row, because both have one key and every
settled call has an attempt; and a confirmation is counted by itself only when its document
names no call.
-/

namespace Sastsimi.Ledger

open Lib Sastsimi.Runtime

variable [Platform] {files : ArtifactFiles} {isoformat : Nat → String}
  {ledger before after : CallLedger} {analysisId : String}

/-! ## What a run counts -/

/-- The operation records no attempt under the status of a call without children. -/
def LedgerCall.Answered : LedgerCall → Prop
  | .record attempt .. => attempt.status ≠ "CODEX_NOT_SPAWNED"
  | _ => True

namespace CallLedger

variable (ledger : CallLedger)

/-- The calls an analysis reserved. -/
def callsOf (analysisId : String) : List CallRow :=
  ledger.calls.rows.filter fun call => call.analysisId = analysisId

/-- The attempts of an analysis that belong to no call it reserved. -/
def otherAttempts (analysisId : String) : Nat :=
  (ledger.attemptsOf analysisId).countP fun attempt =>
    (ledger.callOf attempt.attemptId analysisId).isNone

/-- The distinct confirmations of an analysis whose documents name no call. -/
def callLess (files : ArtifactFiles) (analysisId : String) : List StoredDataRef :=
  ((ledger.confirmationRefs analysisId).filter fun ref => callNamed files ref = none).eraseDups

/-- The attempts of an analysis under the status of a call without children. -/
def notSpawnedAttempts (analysisId : String) : Nat :=
  (ledger.attemptsOf analysisId).countP fun attempt => attempt.status = "CODEX_NOT_SPAWNED"

/-- The model may have been asked in a call, and how many tokens that took is not recorded. -/
def UsageUnknown (call : CallRow) : Prop :=
  ∀ attempt ∈ ledger.attemptOf call.callId call.analysisId, attempt.lacksTokens = true

end CallLedger

/-! ## Confirmations -/

/-- A confirmation that names a call settled it, and every confirmed call is settled by one that
names it or that confirms no cleanup. -/
structure ConfirmationsSound (files : ArtifactFiles) (ledger : CallLedger) : Prop where
  settled : ∀ analysisId, ∀ ref ∈ ledger.confirmationRefs analysisId, Confirms files ref
    ∧ ∀ callId, callNamed files ref = some callId → ∃ call, ledger.calls.find callId = some call
      ∧ call.analysisId = analysisId ∧ call.status = .confirmed ∧ call.confirmationRef = some ref
  tracked : ∀ callId call, ledger.calls.find callId = some call → call.status = .confirmed →
    ∃ ref, call.confirmationRef = some ref
      ∧ (Confirms files ref → callNamed files ref = some callId)

/-- A confirmed call is found after a step as before it, or the step confirmed it. -/
theorem Wrote.confirmedCall {call : LedgerCall} {answer : Bool} {callId : String} {row : CallRow}
    (wrote : Wrote files call answer before after)
    (found : after.calls.find callId = some row) (confirmed : row.status = .confirmed) :
    before.calls.find callId = some row
      ∨ ∃ ref, row.confirmationRef = some ref
        ∧ (Confirms files ref → callNamed files ref = some callId) := by
  have settles : ∀ {flying settled}, Settles before after flying settled →
      (settled.status = .confirmed → ∃ ref, settled.confirmationRef = some ref
        ∧ (Confirms files ref → callNamed files ref = some flying.callId)) →
      before.calls.find callId = some row
        ∨ ∃ ref, row.confirmationRef = some ref
          ∧ (Confirms files ref → callNamed files ref = some callId) := by
    intro flying settled settles documented
    rw [settles.finds] at found
    split at found
    · rename_i same
      cases found
      exact .inr (same ▸ documented confirmed)
    · exact .inl found
  cases wrote with
  | nothing _ _ calls => exact .inl (calls ▸ found)
  | begins _ inserted =>
      rw [Table.find_insert inserted] at found
      split at found
      · cases found
        cases confirmed
      · exact .inl found
  | spawns _ _ _ calls => exact .inl (calls ▸ found)
  | records _ _ calls => exact .inl (calls ▸ found)
  | marksSafe settled safe => exact settles settled fun confirmed => by simp [safe] at confirmed
  | confirmsLegacy _ _ _ _ calls => exact .inl (calls ▸ found)
  | confirmsCall _ names _ settled _ kept =>
      exact settles settled fun _ => ⟨_, kept, fun _ => names⟩
  | reconciles _ _ settled _ kept =>
      obtain ⟨ref, kept, denies⟩ := kept
      exact settles settled fun _ => ⟨ref, kept, fun confirms => absurd confirms denies⟩

/-- A confirmation of an analysis is an old one, or one a step has just added. -/
theorem Wrote.confirmation {call : LedgerCall} {answer : Bool} {ref : StoredDataRef}
    (wrote : Wrote files call answer before after)
    (member : ref ∈ after.confirmationRefs analysisId) :
    ref ∈ before.confirmationRefs analysisId
      ∨ Confirms files ref ∧ ∀ callId, callNamed files ref = some callId →
        ∃ call, after.calls.find callId = some call ∧ call.analysisId = analysisId
          ∧ call.status = .confirmed ∧ call.confirmationRef = some ref := by
  cases wrote with
  | nothing _ beside => exact .inl (beside.refs analysisId ▸ member)
  | begins _ _ beside => exact .inl (beside.refs analysisId ▸ member)
  | spawns _ _ _ _ _ refs => exact .inl (refs analysisId ▸ member)
  | records _ beside => exact .inl (beside.refs analysisId ▸ member)
  | marksSafe _ _ _ beside => exact .inl (beside.refs analysisId ▸ member)
  | confirmsLegacy confirms names appended =>
      obtain old | ⟨rfl, rfl⟩ := (appended analysisId ref).1 member
      · exact .inl old
      · refine .inr ⟨confirms, fun callId named => ?_⟩
        rw [names] at named
        cases named
  | @confirmsCall _ _ _ _ _ _ _ _ _ call settled confirms names owned settles confirmed kept _ _
      appended =>
      obtain old | ⟨rfl, rfl⟩ := (appended analysisId ref).1 member
      · exact .inl old
      · refine .inr ⟨confirms, fun callId named => ?_⟩
        rw [names] at named
        cases named
        obtain ⟨-, sameAnalysis⟩ := Prod.mk.inj settles.same
        exact ⟨settled, by rw [settles.finds, if_pos rfl], sameAnalysis.trans owned, confirmed, kept⟩
  | reconciles _ _ _ _ _ _ _ beside => exact .inl (beside.refs analysisId ▸ member)

/-- What an operation wrote keeps the confirmations sound. -/
theorem ConfirmationsSound.wrote {call : LedgerCall} {answer : Bool}
    (sound : ConfirmationsSound files before) (wrote : Wrote files call answer before after) :
    ConfirmationsSound files after := by
  constructor
  · intro analysisId ref member
    obtain old | added := wrote.confirmation member
    · obtain ⟨confirms, settled⟩ := sound.settled analysisId ref old
      refine ⟨confirms, fun callId named => ?_⟩
      obtain ⟨row, found, owned, confirmed, kept⟩ := settled callId named
      exact ⟨row, wrote.keepsLanded found (by simp [confirmed]), owned, confirmed, kept⟩
    · exact added
  · intro callId row found confirmed
    obtain old | documented := wrote.confirmedCall found confirmed
    · exact sound.tracked callId row old confirmed
    · exact documented

/-- Along every run the confirmations stay sound. -/
theorem confirmationsSound_run (calls : List LedgerCall) :
    ConfirmationsSound files (runCalls (perform files isoformat) .new calls) :=
  run_keeps (fun wrote sound => sound.wrote wrote)
    ⟨fun _ _ member => absurd member List.not_mem_nil, fun _ _ found => nomatch found⟩ calls

/-- The confirmations that settled no tracked call are those whose documents name none. -/
theorem legacyRefs_eq (sound : ConfirmationsSound files ledger) :
    ledger.legacyRefs analysisId = ledger.callLess files analysisId := by
  rw [CallLedger.legacyRefs, CallLedger.callLess]
  congr 1
  apply List.filter_congr
  intro ref member
  obtain ⟨confirms, settled⟩ := sound.settled analysisId ref member
  rw [decide_eq_decide, List.mem_filterMap]
  constructor
  · intro untracked
    by_contra named
    obtain ⟨callId, named⟩ := Option.ne_none_iff_exists'.1 named
    obtain ⟨call, found, owned, confirmed, kept⟩ := settled callId named
    refine untracked ⟨call, List.mem_filter.2 ⟨(Table.find_eq_some.1 found).1, ?_⟩, ?_⟩
    · simp [owned, confirmed]
    · rw [if_pos confirmed]
      exact kept
  · rintro unnamed ⟨call, tracked, kept⟩
    split at kept
    · rename_i confirmed
      have stored : ledger.calls.find call.callId = some call :=
        Table.find_eq_some.2 ⟨(List.mem_filter.1 tracked).1, rfl⟩
      obtain ⟨document, documented, names⟩ := sound.tracked call.callId call stored confirmed
      rw [kept] at documented
      cases documented
      rw [names confirms] at unnamed
      cases unnamed
    · cases kept

/-! ## Calls and attempts -/

theorem attemptOf_isSome {callId : String} :
    (ledger.attemptOf callId analysisId).isSome =
      decide (callId ∈ (ledger.attemptsOf analysisId).map AttemptRow.attemptId) := by
  rw [Bool.eq_iff_iff, decide_eq_true_eq]
  exact Table.filter_find_isSome

theorem callOf_isSome {callId : String} :
    (ledger.callOf callId analysisId).isSome =
      decide (callId ∈ (ledger.callsOf analysisId).map CallRow.callId) := by
  rw [Bool.eq_iff_iff, decide_eq_true_eq]
  exact Table.filter_find_isSome

/-- The calls without an attempt are those in flight that the summary adds. -/
theorem missingTracked_eq (sound : CallsSound ledger) :
    ledger.missingTracked analysisId = (ledger.callsOf analysisId).filter fun call =>
      (ledger.attemptOf call.callId analysisId).isNone := by
  rw [CallLedger.missingTracked, CallLedger.trackedCalls, CallLedger.callsOf, List.filter_filter,
    List.filter_filter]
  apply List.filter_congr
  intro call member
  by_cases owned : call.analysisId = analysisId
  · cases flying : call.status with
    | inFlight => simp
    | confirmed => simp
    | safe =>
        obtain ⟨attempt, recorded⟩ := sound.attempted call member (by simp [flying])
        rw [owned] at recorded
        simp [recorded]
  · simp [owned]

/-- Every attempt of an analysis has the key of a call that has an attempt, or of no call. -/
theorem attempts_split :
    (ledger.attemptsOf analysisId).length =
      ((ledger.callsOf analysisId).countP fun call =>
        (ledger.attemptOf call.callId analysisId).isSome) + ledger.otherAttempts analysisId := by
  have linked : ((ledger.attemptsOf analysisId).countP fun attempt =>
      (ledger.callOf attempt.attemptId analysisId).isSome) =
      (ledger.callsOf analysisId).countP fun call =>
        (ledger.attemptOf call.callId analysisId).isSome := by
    simp only [callOf_isSome, attemptOf_isSome]
    exact countP_matched (ledger.attempts.filter_keys_nodup _) (ledger.calls.filter_keys_nodup _)
  rw [List.length_eq_countP_add_countP fun attempt : AttemptRow =>
    (ledger.callOf attempt.attemptId analysisId).isSome, linked, CallLedger.otherAttempts]
  exact congrArg _ (List.countP_congr fun attempt _ => by simp)

/-- The calls of the summary and the attempts without children are the reserved calls, the
other attempts and the confirmations without a call. -/
theorem usageCalls_eq (calls : CallsSound ledger) (confirmations : ConfirmationsSound files ledger) :
    (ledger.usageSummary analysisId).calls + ledger.notSpawnedAttempts analysisId =
      (ledger.callsOf analysisId).length + ledger.otherAttempts analysisId
        + (ledger.callLess files analysisId).length := by
  have answered : (ledger.attemptsOf analysisId).length = ledger.notSpawnedAttempts analysisId
      + (ledger.attemptsOf analysisId).countP fun attempt =>
        attempt.status ≠ "CODEX_NOT_SPAWNED" := by
    rw [List.length_eq_countP_add_countP fun attempt : AttemptRow =>
      decide (attempt.status = "CODEX_NOT_SPAWNED"), CallLedger.notSpawnedAttempts]
    simp
  have attempted : (ledger.callsOf analysisId).length = ((ledger.callsOf analysisId).countP fun call =>
      (ledger.attemptOf call.callId analysisId).isSome)
      + (ledger.missingTracked analysisId).length := by
    rw [missingTracked_eq calls, ← List.countP_eq_length_filter,
      List.length_eq_countP_add_countP fun call : CallRow =>
        (ledger.attemptOf call.callId analysisId).isSome]
    exact congrArg _ (List.countP_congr fun call _ => by simp)
  have split := @attempts_split _ ledger analysisId
  rw [CallLedger.usageSummary, ← legacyRefs_eq confirmations]
  dsimp only
  omega

/-- A call whose usage is unknown is counted as one. -/
theorem unknownTokenCalls_pos (sound : CallsSound ledger) {call : CallRow}
    (member : call ∈ ledger.callsOf analysisId) (unknown : ledger.UsageUnknown call) :
    0 < (ledger.usageSummary analysisId).unknownTokenCalls := by
  obtain ⟨stored, owned⟩ := List.mem_filter.1 member
  have owned : call.analysisId = analysisId := by simpa using owned
  rw [CallLedger.UsageUnknown, owned] at unknown
  rw [CallLedger.usageSummary]
  cases recorded : ledger.attemptOf call.callId analysisId with
  | none =>
      have missing : call ∈ ledger.missingTracked analysisId := by
        rw [missingTracked_eq sound]
        exact List.mem_filter.2 ⟨member, by simp [recorded]⟩
      have listed := List.length_pos_of_mem missing
      dsimp only
      omega
  | some attempt =>
      have lacks : attempt.lacksTokens = true := unknown attempt recorded
      obtain ⟨found, ownedAttempt⟩ := Option.filter_eq_some_iff.1 recorded
      have counted : 0 < (ledger.attemptsOf analysisId).countP (·.lacksTokens) :=
        List.countP_pos_iff.2 ⟨attempt,
          List.mem_filter.2 ⟨(Table.find_eq_some.1 found).1, ownedAttempt⟩, lacks⟩
      dsimp only
      omega

/-! ## Runs -/

theorem callsOf_length :
    (ledger.callsOf analysisId).length = ledger.owners.countP fun owner => owner.2 = analysisId := by
  rw [CallLedger.callsOf, ← List.countP_eq_length_filter, CallLedger.owners, List.countP_map]
  rfl

/-- An operation adds a call of an analysis exactly when it reserved one. -/
theorem Wrote.callsOf_length {call : LedgerCall} {answer : Bool}
    (wrote : Wrote files call answer before after) :
    (after.callsOf analysisId).length = (before.callsOf analysisId).length
      + if begun analysisId call (.ok answer) then 1 else 0 := by
  have unchanged : after.owners = before.owners →
      (after.callsOf analysisId).length = (before.callsOf analysisId).length := by
    intro same
    rw [Ledger.callsOf_length, Ledger.callsOf_length, same]
  have sameOwners : after.calls = before.calls → after.owners = before.owners := by
    intro same
    rw [CallLedger.owners, same, CallLedger.owners]
  cases wrote with
  | nothing silent _ calls =>
      rw [(silent analysisId).1]
      exact unchanged (sameOwners calls)
  | begins _ inserted =>
      obtain ⟨-, rows⟩ := Table.insert_eq_some.1 inserted
      rw [CallLedger.callsOf, CallLedger.callsOf, rows, List.filter_append, List.length_append]
      congr 1
      simp only [begun, List.filter_singleton, decide_eq_true_eq]
      split
      · simp_all
      · simp_all
  | spawns _ _ _ calls => exact unchanged (sameOwners calls)
  | records _ _ calls => exact unchanged (sameOwners calls)
  | marksSafe settles => exact unchanged settles.owners
  | confirmsLegacy _ _ _ _ calls => exact unchanged (sameOwners calls)
  | confirmsCall _ _ _ settles => exact unchanged settles.owners
  | reconciles _ _ settles => exact unchanged settles.owners

theorem notSpawnedAttempts_insert {attempt : AttemptRow}
    (inserted : before.attempts.insert attempt = some after.attempts) :
    after.notSpawnedAttempts analysisId = before.notSpawnedAttempts analysisId
      + if attempt.analysisId = analysisId ∧ attempt.status = "CODEX_NOT_SPAWNED" then 1 else 0 := by
  obtain ⟨-, rows⟩ := Table.insert_eq_some.1 inserted
  rw [CallLedger.notSpawnedAttempts, CallLedger.attemptsOf, rows, List.filter_append,
    List.countP_append]
  congr 1
  by_cases owned : attempt.analysisId = analysisId
  · simp [owned, List.countP_cons]
  · simp [owned]

/-- An operation adds an attempt without children exactly when it reconciled a call. -/
theorem Wrote.notSpawnedAttempts {call : LedgerCall} {answer : Bool} (answered : call.Answered)
    (wrote : Wrote files call answer before after) :
    after.notSpawnedAttempts analysisId = before.notSpawnedAttempts analysisId
      + if reconciled analysisId call (.ok answer) then 1 else 0 := by
  have unchanged : after.attempts = before.attempts →
      after.notSpawnedAttempts analysisId = before.notSpawnedAttempts analysisId := by
    intro same
    rw [CallLedger.notSpawnedAttempts, CallLedger.attemptsOf, same]
    rfl
  cases wrote with
  | nothing silent _ _ attempts =>
      rw [(silent analysisId).2]
      exact unchanged attempts
  | begins _ _ _ attempts => exact unchanged attempts
  | spawns _ _ _ _ attempts => exact unchanged attempts
  | records inserted =>
      rw [notSpawnedAttempts_insert inserted, if_neg fun both => answered both.2]
      rfl
  | marksSafe _ _ _ _ attempts => exact unchanged attempts
  | confirmsLegacy _ _ _ _ _ attempts => exact unchanged attempts
  | confirmsCall _ _ _ _ _ _ _ attempts =>
      obtain same | ⟨attempt, unavailable, inserted⟩ := attempts
      · exact unchanged same
      · rw [notSpawnedAttempts_insert inserted, if_neg fun both => by simp [unavailable] at both]
        rfl
  | reconciles owned _ _ _ _ inserted recorded =>
      rw [notSpawnedAttempts_insert inserted, recorded.2.1, recorded.2.2, owned]
      simp [reconciled]

/-- Along every run the usage of an analysis counts each reserved call once, except those that
were settled without children, each other attempt once, and each confirmation whose document
names no call; and it shows that the tokens of a call are unknown as long as they are. -/
theorem usage_conserved (files : ArtifactFiles) (isoformat : Nat → String)
    (calls : List LedgerCall) (answered : ∀ call ∈ calls, call.Answered) (analysisId : String) :
    let after := runCalls (perform files isoformat) .new calls
    (after.usageSummary analysisId).calls
        + countAnswers (perform files isoformat) (reconciled analysisId) .new calls =
      countAnswers (perform files isoformat) (begun analysisId) .new calls
        + after.otherAttempts analysisId + (after.callLess files analysisId).length
      ∧ ∀ call ∈ after.callsOf analysisId, after.UsageUnknown call →
        0 < (after.usageSummary analysisId).unknownTokenCalls := by
  intro after
  have begins : (after.callsOf analysisId).length =
      countAnswers (perform files isoformat) (begun analysisId) .new calls := by
    have counted := @countAnswers_eq _ _ _ (perform files isoformat) (begun analysisId)
      (fun ledger => (ledger.callsOf analysisId).length) calls .new ?_
    · exact counted.trans (Nat.zero_add _)
    · intro ledger call _
      obtain ⟨answer, returned, wrote⟩ | ⟨⟨reason, raised⟩, same⟩ := perform_cases call
      · rw [returned]
        exact wrote.callsOf_length
      · rw [raised, same]
        cases call <;> rfl
  have settles : after.notSpawnedAttempts analysisId =
      countAnswers (perform files isoformat) (reconciled analysisId) .new calls := by
    have counted := @countAnswers_eq _ _ _ (perform files isoformat) (reconciled analysisId)
      (fun ledger => ledger.notSpawnedAttempts analysisId) calls .new ?_
    · exact counted.trans (Nat.zero_add _)
    · intro ledger call member
      obtain ⟨answer, returned, wrote⟩ | ⟨⟨reason, raised⟩, same⟩ := perform_cases call
      · rw [returned]
        exact wrote.notSpawnedAttempts (answered call member)
      · rw [raised, same]
        cases call <;> rfl
  constructor
  · rw [← begins, ← settles]
    exact usageCalls_eq (callsSound_run calls) (confirmationsSound_run calls)
  · exact fun call member => unknownTokenCalls_pos (callsSound_run calls) member

end Sastsimi.Ledger

/-! ## A confirmation without a call -/

namespace Sastsimi.Ledger.Concrete

open Lib Sastsimi.Runtime Sastsimi.Runtime.Concrete SimpleStage

/-- The process inventory of a stage that was blocked before calls were reserved. -/
def inventory : StoredDataRef := artifact "inventory"

/-- What the inventory says. -/
def inventoryDocument : Json :=
  .obj
    [("kind", .str "simple_codex_cleanup_confirmation"),
      ("analysis_id", .str "analysis"),
      ("stage", .str verificationInitialDone.value),
      ("attempt_id", .str "attempt"),
      ("checkpoint_sha256", .str "digest"),
      ("process_tree_stopped", .bool true),
      ("verification_method", .str "posix_process_inventory"),
      ("former_parent_pid", .int 41),
      ("observed_matching_process_count", .int 0),
      ("observed_at", .str "later")]

/-- A reference that spells out the document it names, and the inventory. -/
def artifactFiles : ArtifactFiles where
  putJson confirmation :=
    { storedDataId := confirmation.callId
      dataKind := confirmation.callStartedAt
      contentHash := confirmation.confirmedAt
      workspaceId := confirmation.workspaceId
      commitId := confirmation.commitId
      recordId := some confirmation.analysisId }
  read ref :=
    match ref.recordId with
    | some analysisId =>
        some (PreSpawnConfirmation.document
          { analysisId
            workspaceId := ref.workspaceId
            commitId := ref.commitId
            callId := ref.storedDataId
            callStartedAt := ref.dataKind
            confirmedAt := ref.contentHash })
    | none => if ref = inventory then some inventoryDocument else none
  read_put _ := rfl

/-- No process is left when the inventory is confirmed. -/
def observation : Observation where
  now := 9
  fromisoformat text := if text = "later" then some 8 else none
  checkpointDigest _ := "digest"
  childIdentityMatches _ _ := some false
  windowsBootTime := none

/-- A run of the first pipeline version. -/
def firstVersionRun : SimpleAnalysisRun where
  analysisId := "analysis"
  workspaceId := "workspace"
  commitId := "commit"
  candidatePipelineVersion := some 1

/-- The initial verification is blocked because its process may still run. -/
def unconfirmed : StageCheckpoint where
  identity := hypothesis
  stage := verificationInitialDone
  status := .blocked
  inputRefs := [artifact "evidence"]
  inputHash := "input"
  attemptId := some "attempt"
  attemptNumber := 1
  errorCode := some "CODEX_PROCESS_CLEANUP_UNCONFIRMED"
  updatedAt := 7
  inputHashExact := rfl

/-- The run and its blocked stage are stored. -/
def blockedStage : OtherWrite where
  runs _ analysisId := if analysisId = "analysis" then some firstVersionRun else none
  db before := before.upsertCheckpoint unconfirmed
  orphans := id
  dashboard := id
  keeps _ _ := rfl

/-- The stage is stored, and the inventory is confirmed without a call. -/
def confirmedWithoutCall : List LedgerCall :=
  let stored := (perform artifactFiles toString .new (.other blockedStage)).1
  [.other blockedStage,
    .confirm observation stored unconfirmed inventory { identity := hypothesis } false "marker"]

/-- A call of the analysis that was never reserved is counted. -/
theorem confirmation_countsCall :
    let after := runCalls (perform artifactFiles toString) .new confirmedWithoutCall
    (after.usageSummary "analysis").calls = 1
      ∧ countAnswers (perform artifactFiles toString) (begun "analysis") .new
        confirmedWithoutCall = 0
      ∧ countAnswers (perform artifactFiles toString) (reconciled "analysis") .new
        confirmedWithoutCall = 0
      ∧ after.otherAttempts "analysis" = 0 := by
  decide +kernel

/-- The attempt of the call. -/
def recordedAttempt : AttemptRow where
  attemptId := "call"
  analysisId := "analysis"
  agent := "verifier"
  model := "model"
  attemptNumber := 1
  status := "SUCCEEDED"
  elapsedMs := 5
  inputTokens := some 3
  outputTokens := some 2
  costCents := none
  artifactRef := artifact "answer"

/-- A call is reserved and recorded, the record is replayed, and the call is safe. -/
def recordedCall : List LedgerCall :=
  [.beginCall "call" "analysis" 1 "first", .record recordedAttempt none none none "second",
    .record recordedAttempt none none none "third", .markSafe "call" "analysis" 4]

/-- The recorded call is counted once. -/
theorem recordedCall_conserved :
    let after := runCalls (perform artifactFiles toString) .new recordedCall
    (after.usageSummary "analysis").calls
        + countAnswers (perform artifactFiles toString) (reconciled "analysis") .new recordedCall =
      countAnswers (perform artifactFiles toString) (begun "analysis") .new recordedCall
        + after.otherAttempts "analysis" + (after.callLess artifactFiles "analysis").length
      ∧ ∀ call ∈ after.callsOf "analysis", after.UsageUnknown call →
        0 < (after.usageSummary "analysis").unknownTokenCalls :=
  usage_conserved artifactFiles toString recordedCall
    (by simp [recordedCall, LedgerCall.Answered, recordedAttempt]) "analysis"

end Sastsimi.Ledger.Concrete
