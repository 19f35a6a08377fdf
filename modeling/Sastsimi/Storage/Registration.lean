import Mathlib.Data.List.ReduceOption
import Sastsimi.Lib.Dedup
import Sastsimi.Storage.Works

/-!
# Registration of works

`WorkflowRunner` registers a work in several transactions: its registration is reserved and
authorized, the work is registered, and the reservation is debited or released.  The scope a work
was registered under is not stored with it.  `registration_scope` and the scheduler's
`_registration_context` look for it among all reservations of the analysis.
-/

namespace Sastsimi.Storage

open Lib Sastsimi.Runtime

/-- A value, other than a record, whose canonical text is hashed. -/
inductive Hashed where
  | stableKey (key : String)
  | inputs (inputRefs : List RecordRef)
  | dedupe (key : String) (inputRefs : List RecordRef)
  | registration (analysisId : String) (workType : WorkType) (subjectId : String)
      (workGeneration : Nat) (dedupeKey : String)
  deriving DecidableEq

/-- `content_hash` of such a value. -/
class ValueHash where
  contentHash : Hashed → String

variable [ContentHash] [ValueHash]

/-! ## Registration scopes -/

/-- A reservation paid for the registration of a work: it reserved its `REGISTER_WORK`, or the
request of the dynamic work it is. -/
def Registers (work : WorkExecutionState) (reservation : BudgetReservation) :
    Record → Record → Prop
  | .work candidate, .action action =>
      candidate.workId = work.workId ∧ action.actionType = .registerWork
        ∨ work.workType = .dynamicRepro ∧ work.parentWorkRef = some reservation.workRef
          ∧ action.actionType = .requestDynamicRepro
          ∧ action.workRef = some reservation.workRef
          ∧ action.dynamicRequestRef.isSome = true
          ∧ work.inputRefs = action.dynamicRequestRef.toList
          ∧ reservation.requestedUnits.workCount = 1
  | _, _ => False

instance (work : WorkExecutionState) (reservation : BudgetReservation) :
    (candidate action : Record) → Decidable (Registers work reservation candidate action)
  | .work _, .action _ => inferInstanceAs (Decidable (_ ∨ _))
  | .work _, .work _ | .work _, .attempt _ | .work _, .transition _ | .work _, .decision _
  | .work _, .reservation _ | .work _, .ledgerEntry _ | .work _, .executionProfile _
  | .work _, .workProfile _ | .work _, .verificationProfile _ | .work _, .dynamicProfile _
  | .work _, .binding _ | .work _, .run _ | .work _, .other .. | .attempt _, _
  | .transition _, _ | .action _, _ | .decision _, _ | .reservation _, _ | .ledgerEntry _, _
  | .executionProfile _, _ | .workProfile _, _ | .verificationProfile _, _
  | .dynamicProfile _, _ | .binding _, _ | .run _, _ | .other .., _ =>
      inferInstanceAs (Decidable False)

/-- `WORK_REGISTRATION_SCOPE_MISSING`. -/
def scopeMissing : PyError := .valueError "WORK_REGISTRATION_SCOPE_MISSING"

/-- The only match of a search. -/
def onlyMatch {α : Type} : List α → Except PyError α
  | [found] => .ok found
  | _ => .error scopeMissing

omit [ContentHash] [ValueHash] in
theorem onlyMatch_map {ρ α : Type} [DecidableEq ρ] {rows : List ρ} (distinct : rows.Nodup)
    {row : ρ} (member : row ∈ rows) (found : α) :
    onlyMatch (rows.map fun other => if other = row then some found else none).reduceOption
      = .ok found := by
  have only : (rows.map fun other => if other = row then some found else none).reduceOption
      = [found] := by
    induction rows with
    | nil => cases member
    | cons first rest ih =>
        rw [List.nodup_cons] at distinct
        rw [List.map_cons]
        by_cases same : first = row
        · have absent : ∀ other ∈ rest, other ≠ row := by
            rintro other later rfl
            exact distinct.1 (same ▸ later)
          have none : rest.map (fun other => if other = row then some found else none)
              = rest.map fun _ => none := by
            apply List.map_congr_left
            intro other later
            exact if_neg (absent other later)
          rw [if_pos same, List.reduceOption_cons_of_some, none]
          simp [List.reduceOption]
        · rw [if_neg same, List.reduceOption_cons_of_none]
          exact ih distinct.2 ((List.mem_cons.1 member).resolve_left (Ne.symm same))
  rw [only]
  rfl

omit [ContentHash] [ValueHash] in
/-- A search that meets one match returns it. -/
theorem onlyMatch_mapM {ρ α : Type} [DecidableEq ρ] {rows : List ρ} (distinct : rows.Nodup)
    {row : ρ} (member : row ∈ rows) {turn : ρ → Except PyError (Option α)} {found : α}
    (turns : ∀ other ∈ rows, turn other = .ok (if other = row then some found else none)) :
    (rows.mapM turn >>= fun values => onlyMatch values.reduceOption) = .ok found := by
  rw [mapM_of_ok turns]
  exact onlyMatch_map distinct member found

namespace Store

variable (store : Store)

/-- The reservations of an analysis, whatever their status. -/
def analysisRows (analysisId : String) : List ReservationRow :=
  store.reservations.rows.filter fun row => decide (row.analysisId = analysisId)

/-- One turn of the loop of `registration_scope`, which asks for published records. -/
def scopeTurn (work : WorkExecutionState) (row : ReservationRow) :
    Except PyError (Option RecordRef) := do
  let candidate ← store.resolve row.payload.workRef
  let action ← store.resolve row.payload.actionRef
  .ok (if Registers work row.payload candidate action then some row.payload.budgetBindingRef
    else none)

/-- `registration_scope`. -/
def registrationScope (workId : String) : Except PyError RecordRef := do
  let work ← store.currentWork workId
  let found ← (store.analysisRows work.metadata.analysisId).mapM (store.scopeTurn work)
  onlyMatch found.reduceOption

/-- One turn of the loop of `_registration_context`, for which a staged candidate is enough. -/
def contextTurn (work : WorkExecutionState) (row : ReservationRow) :
    Except PyError (Option (RecordRef × Record)) := do
  let candidate ← store.resolveCandidate row.payload.workRef
  let action ← store.resolve row.payload.actionRef
  .ok (if Registers work row.payload candidate action
    then some (row.payload.budgetBindingRef, action) else none)

/-- `_registration_context`.  What matches is an action. -/
def registrationContext (work : WorkExecutionState) : Except PyError (RecordRef × Record) := do
  let found ← (store.analysisRows work.metadata.analysisId).mapM (store.contextTurn work)
  onlyMatch found.reduceOption

end Store

/-! ## Authorization -/

/-- What decides about registrations besides the tables modelled here: the checks of roles,
owners, stages, inputs and evidence at the authorization, with the configurations they name, and
the check that an input is current. -/
structure Registrar extends Authority where
  permitsIssue :
    Store → ActionRequest → WorkExecutionState → Except PyError (List RecordRef)
  currentInput : Store → RecordRef → Except PyError Unit

/-- `BUDGET in REQUIRED_CHECKS[action_type]`. -/
def ActionType.checksBudget : ActionType → Bool
  | .changeWorkState | .cancelWork | .saveResult => false
  | _ => true

/-- The identifiers and the moment of an authorization. -/
structure IssueStamp where
  recordId : String
  decisionId : String
  now : Nat

/-- A decision is valid for one minute. -/
def decisionLifetime : Nat := 60000000

namespace Store

variable (store : Store)

/-- The state check of an action: a registration is of a pending work, every other action is of
the current revision. -/
def checkIssueState (action : ActionRequest) (work : WorkExecutionState) : Except PyError Unit :=
  if action.workRef = none then
    raiseIf (action.actionType ≠ .registerWork ∨ work.status ≠ .pending)
      (.valueError "STATE_VERSION_CONFLICT")
  else
    raiseIf (¬ ((store.works.find work.workId).map WorkRow.payload = some work
        ∧ action.workRef = some (reference (.work work))
        ∧ action.expectedStateVersion = some work.stateVersion))
      (.valueError "STATE_VERSION_CONFLICT")

/-- The budget check of an action, with the configurations it names. -/
def checkIssueBudget (registrar : Registrar) (action : ActionRequest)
    (work : WorkExecutionState) (reservationRef : Option RecordRef) :
    Except PyError (List RecordRef) := do
  let reservation ← store.checkReservation registrar.evidence reservationRef action work
  match ← store.resolve reservation.budgetBindingRef with
  | .binding binding =>
      .ok [reservation.budgetBindingRef, binding.workBudgetProfileRef,
        binding.verificationBudgetProfileRef, binding.dynamicLifecycleProfileRef]
  | _ => .ok [reservation.budgetBindingRef]

/-- The checks of an action, with the configurations they name.  A check that raises fails. -/
def issueChecks (registrar : Registrar) (action : ActionRequest) (work : WorkExecutionState)
    (reservationRef : Option RecordRef) : List (Except PyError (List RecordRef)) :=
  [do raiseIf (registrar.recoveryFailed = true) (.valueError "RECOVERY_FAILED")
      .ok [],
    registrar.permitsIssue store action work,
    do store.checkIssueState action work
       .ok [],
    if action.actionType.checksBudget = true
    then store.checkIssueBudget registrar action work reservationRef else .ok []]

/-- The decision about an action. -/
def issuedDecision (stamp : IssueStamp) (action : ActionRequest) (work : WorkExecutionState)
    (checks : List (Except PyError (List RecordRef))) : ActionDecision where
  metadata :=
    { action.metadata with
      recordId := stamp.recordId
      logicalRecordId := stamp.recordId
      recordType := "action_decision"
      revisionNumber := 1
      previousRecordId := none
      createdAt := stamp.now }
  decisionId := stamp.decisionId
  actionRef := reference (.action action)
  decision := if checks.all (·.isOk) = true then .allow else .deny
  useStatus := if checks.all (·.isOk) = true then .unused else .notUsed
  checkedStateVersion := some work.stateVersion
  checkedConfigRefs := ((checks.filterMap (·.toOption)).flatten).eraseDups
  validUntil := if checks.all (·.isOk) = true then some (stamp.now + decisionLifetime) else none
  decidedAt := stamp.now

/-- Issue a decision about an action that has none yet. -/
def issue (registrar : Registrar) (stamp : IssueStamp) (action : ActionRequest)
    (work : WorkExecutionState) (reservationRef : Option RecordRef) :
    Except PyError (Store × ActionDecision) := do
  let published ← store.save (.action action)
  let decision := issuedDecision stamp action work
    (published.issueChecks registrar action work reservationRef)
  let saved ← published.save (.decision decision)
  let requests ← required
    (saved.requests.insert
      ⟨action.actionId, reference (.action action), reference (.decision decision)⟩)
    .sqliteError
  .ok ({ saved with requests }, decision)

/-- `authorize`.  A repeated action is answered with its first decision. -/
def authorize (registrar : Registrar) (stamp : IssueStamp) (action : ActionRequest)
    (work : WorkExecutionState) (reservationRef : Option RecordRef) :
    Except PyError (Store × ActionDecision) :=
  match store.requests.find action.actionId with
  | some prior => do
      raiseIf (prior.requestRef ≠ reference (.action action)) (.valueError "ACTION_IMMUTABLE")
      let old ← store.exactDecision prior.decisionRef "AssertionError"
      .ok (store, old)
  | none => store.issue registrar stamp action work reservationRef

end Store

/-! ## Registration -/

/-- The key of a registration, which is unique. -/
def registrationKey (work : WorkExecutionState) : String :=
  ValueHash.contentHash
    (.registration work.metadata.analysisId work.workType work.subjectId work.workGeneration
      work.dedupeKey)

/-- `validate_parent_work`.  The parent is the record the child's reference resolves to. -/
def validateParentWork (child parent : WorkExecutionState) : Except PyError Unit := do
  validateMetadataScope child.metadata parent.metadata
  raiseIf (child.subjectType ≠ parent.subjectType ∨ child.subjectId ≠ parent.subjectId)
    (.valueError "Parent and child hypothesis subjects must match")
  if child.workType = .findingNormalize then
    raiseIf (parent.workType ≠ .ruleScopeGate ∨ parent.status ≠ .succeeded)
      (.valueError "FINDING_NORMALIZE requires a successful RULE_SCOPE_GATE parent")
  else
    raiseIf (parent.workType ≠ .verification)
      (.valueError "Verification child requires a VERIFICATION parent")

namespace Store

variable (store : Store)

/-- The parent of a work to register, when it has one. -/
def checkParent (work : WorkExecutionState) : Except PyError Unit :=
  match work.parentWorkRef with
  | none => .ok ()
  | some ref => do
      match ← store.resolve ref with
      | .work parent => validateParentWork work parent
      | _ => .error (.valueError "Invalid parent work")

/-- The inputs of a chaining that must be current at its registration. -/
def snapshotInputs (work : WorkExecutionState) : List RecordRef :=
  if work.workType = .chaining then
    work.inputRefs.filter fun ref => decide (ref.dataKind = "primitive_index_state")
  else []

/-- Insert the row of a work.  Registration keys are unique. -/
def insertWork (work : WorkExecutionState) : Except PyError Store := do
  raiseIf (store.works.rows.any
      (fun row => decide (row.registrationKey = registrationKey work)) = true)
    .sqliteError
  let works ← required
    (store.works.insert
      { workId := work.workId
        analysisId := work.metadata.analysisId
        registrationKey := registrationKey work
        status := work.status
        stateVersion := work.stateVersion
        activeAttemptId := none
        payload := work })
    .sqliteError
  .ok { store with works }

/-- Register a work under a key that has none. -/
def registerNew (registrar : Registrar) (stamp : Stamp) (work : WorkExecutionState)
    (decisionRef : RecordRef) (reservationRef : Option RecordRef) : Except PyError Store := do
  raiseIf (work.status ≠ .pending) (.valueError "New work must be PENDING")
  store.checkParent work
  forM (snapshotInputs work) (registrar.currentInput store)
  let (claimed, _) ← store.claim registrar.toAuthority stamp decisionRef .registerWork work
    reservationRef true
  let saved ← claimed.save (.work work)
  let inserted ← saved.insertWork work
  inserted.point work

/-- `WorkService.register`.  A key that has a work is answered with it. -/
def register (registrar : Registrar) (stamp : Stamp) (work : WorkExecutionState)
    (decisionRef : RecordRef) (reservationRef : Option RecordRef) :
    Except PyError (Store × WorkExecutionState) := do
  store.rejectCancelled work.metadata.analysisId
  match store.works.rows.find? fun row => decide (row.registrationKey = registrationKey work) with
  | some old => .ok (store, old.payload)
  | none => do
      let after ← store.registerNew registrar stamp work decisionRef reservationRef
      .ok (after, work)

/-- `stage_record`. -/
def stageRecord (record : Record) : Except PyError Store := do
  let records ← store.records.stage record
  .ok { store with records }

end Store

/-! ## Calls of the runner -/

/-- The metadata with another attempt. -/
def MetaScope.withAttempt (scope : MetaScope) (attemptId : Option String) : MetaScope :=
  match scope with
  | .run analysisId => .run analysisId
  | .code analysisId workspaceId commitId hypothesisId _ =>
      .code analysisId workspaceId commitId hypothesisId attemptId

/-- `WorkflowRunner.metadata`. -/
def RecordMeta.fresh (source : RecordMeta) (kind recordId : String) (now : Nat)
    (attemptId : Option String := none) : RecordMeta where
  recordId := recordId
  logicalRecordId := recordId
  recordType := kind
  createdAt := now
  scope := source.scope.withAttempt attemptId

omit [ContentHash] [ValueHash] in
@[simp] theorem RecordMeta.fresh_analysisId (source : RecordMeta) (kind recordId : String)
    (now : Nat) (attemptId : Option String) :
    (source.fresh kind recordId now attemptId).analysisId = source.analysisId := by
  simp only [RecordMeta.fresh, RecordMeta.analysisId]
  cases source.scope <;> rfl

/-- The identifiers of an action and of its reservation, and their moment. -/
structure RequestIds where
  requestRecordId : String
  actionId : String
  reservationRecordId : String
  reservationId : String
  now : Nat

/-- `WorkflowRunner.action`. -/
def runnerAction (ids : RequestIds) (work : WorkExecutionState) (role : RequesterRole)
    (kind : ActionType) : ActionRequest where
  metadata := work.metadata.fresh "action_request" ids.requestRecordId ids.now work.activeAttemptId
  actionId := ids.actionId
  requestedBy := role
  actionType := kind
  workRef := if kind = .registerWork then none else some (reference (.work work))
  expectedStateVersion := if kind = .registerWork then none else some work.stateVersion
  inputRefs := work.inputRefs
  reason := "Execute the authorized local workflow"
  requestedAt := ids.now

/-- `WorkflowRunner.units`, with the defaults of the units not given. -/
def runnerUnits (workCount : Nat := 0) : BudgetUnits where
  workCount := workCount
  currency := "USD"

/-- The reservation `WorkflowRunner.reserve` asks for. -/
def runnerReservation (ids : RequestIds) (work : WorkExecutionState) (scope : RecordRef)
    (action : ActionRequest) (units : BudgetUnits) : BudgetReservation where
  metadata :=
    work.metadata.fresh "budget_reservation" ids.reservationRecordId ids.now work.activeAttemptId
  reservationId := ids.reservationId
  budgetBindingRef := scope
  actionRef := reference (.action action)
  workRef := reference (.work work)
  requestedUnits := units
  status := .reserved
  reservedAt := ids.now
  shape := ⟨by simp, by simp, by simp⟩

/-- A call of `start`, `enqueue` or `ensure_enqueue`, with the identifiers it draws.  Only
`ensure_enqueue` names a stable key. -/
structure RegistrationCall where
  scope : RecordRef
  source : RecordMeta
  workType : WorkType
  subjectType : SubjectType := .analysis
  subjectId : String
  role : RequesterRole := .orchestration
  workGeneration : Nat := 1
  inputRefs : List RecordRef := []
  parentWorkRef : Option RecordRef := none
  triggerPrimitiveRef : Option RecordRef := none
  stableKey : Option String := none
  drawnWorkId : String
  candidateId : String
  ids : RequestIds

namespace RegistrationCall

variable (call : RegistrationCall)

/-- The work a stable key names. -/
def stableWorkId (key : String) : String :=
  "stable-" ++ String.ofList ((ValueHash.contentHash (.stableKey key)).toList.take 32)

/-- The identifier of the work of a call. -/
def workId : String :=
  match call.stableKey with
  | some key => stableWorkId key
  | none => call.drawnWorkId

/-- `_pending_work`, without the check of the inputs. -/
def candidate : Except PyError WorkExecutionState := do
  raiseIf (call.stableKey = some "") (.valueError "STABLE_WORK_KEY_REQUIRED")
  raiseIf (call.subjectType = .analysis ∧ call.subjectId ≠ call.source.analysisId)
    (.valueError "ANALYSIS_SCOPE_MISMATCH")
  WorkFields.validate
    { metadata := call.source.fresh "work_execution_state" call.candidateId call.ids.now
      workId := call.workId
      parentWorkRef := call.parentWorkRef
      workType := call.workType
      subjectType := call.subjectType
      subjectId := call.subjectId
      workGeneration := call.workGeneration
      inputHash := ValueHash.contentHash (.inputs call.inputRefs)
      dedupeKey :=
        ValueHash.contentHash (.dedupe (call.stableKey.getD call.workId) call.inputRefs)
      triggerPrimitiveRef := call.triggerPrimitiveRef
      inputRefs := call.inputRefs }

/-- Whether an input belongs to another analysis.  Configurations of the host are shared, and an
input that does not resolve is left to the authorization. -/
def foreignInput (store : Store) (analysisId : String) (ref : RecordRef) : Bool :=
  match ref.scope with
  | .host .. => false
  | _ =>
      match store.resolve ref with
      | .ok input => decide (input.metadata.analysisId ≠ analysisId)
      | .error _ => false

/-- `_pending_work`. -/
def pendingWork (store : Store) : Except PyError WorkExecutionState := do
  let work ← call.candidate
  raiseIf (work.inputRefs.any (foreignInput store work.metadata.analysisId) = true)
    (.valueError "ANALYSIS_SCOPE_MISMATCH")
  .ok work

/-- The action of the registration. -/
def request (work : WorkExecutionState) : ActionRequest :=
  runnerAction call.ids work call.role .registerWork

/-- The reservation of the registration. -/
def reservation (work : WorkExecutionState) : BudgetReservation :=
  runnerReservation call.ids work call.scope (call.request work) (runnerUnits 1)

/-- The analysis the work is registered for. -/
def analysisId : String := call.source.analysisId

end RegistrationCall

end Sastsimi.Storage
