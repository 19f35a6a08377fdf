import Sastsimi.Storage.Store

/-!
# Budget admission

`BudgetService` recomputes what is left of the pinned profile from the reservations and ledger
entries of an analysis at every admission, and checks the limits of the work, of its
verification and of its dynamic reproduction beside it.  An operation returns the tables after
its commit, or raises and leaves them alone.
-/

namespace Sastsimi.Storage

open Lib Sastsimi.Runtime

/-- What the host says of actions and profiles: `TrustedEvidencePort`. -/
structure TrustedEvidence where
  itemCount : ActionRequest → WorkExecutionState → Option Int
  pricing : ExecutionBudgetProfile → Bool

/-- A failed `assert`. -/
def assertionError : PyError := .runtimeError "AssertionError"

/-- The limit of a profile on a unit. -/
def ExecutionBudgetProfile.limit (profile : ExecutionBudgetProfile) : UnitField → Nat
  | .elapsedMs => profile.maxAnalysisElapsedMs
  | .workCount => profile.maxTotalWork
  | .llmCallCount => profile.maxTotalLlmCalls
  | .retryCount => profile.maxTotalRetries
  | .costMinorUnits => profile.maxTotalCostMinorUnits

/-- The units a function gives for each field. -/
def unitsOf (currency : String) (amount : UnitField → Nat) : BudgetUnits where
  elapsedMs := amount .elapsedMs
  workCount := amount .workCount
  llmCallCount := amount .llmCallCount
  retryCount := amount .retryCount
  costMinorUnits := amount .costMinorUnits
  currency := currency

@[simp] theorem unitsOf_get (currency : String) (amount : UnitField → Nat) (field : UnitField) :
    (unitsOf currency amount).get field = amount field := by
  cases field <;> rfl

/-- `sum(getattr(units, key) for units in used)`. -/
def totalUnits (field : UnitField) (used : List BudgetUnits) : Nat :=
  (used.map fun units => units.get field).sum

/-- `BudgetRemaining`. -/
structure BudgetRemaining where
  budgetBindingRef : RecordRef
  asOfSequence : Nat
  availableUnits : BudgetUnits
  activeReservationCount : Nat

/-! ## Operations and local repair -/

/-- `operation`. -/
def operation (workType : WorkType) (action : ActionRequest) :
    OperationKind × Option BudgetAgentRole :=
  if workType = .policyFetch ∧ action.requestedBy = .policyParser then
    (.policyParse, some .policyParser)
  else workOperations workType

/-- `LOCAL_MANUAL_REPAIR_ATTEMPTS`. -/
def localManualRepairAttempts : Nat := 11

/-- `LOCAL_MANUAL_REPAIR_CALLS`. -/
def localManualRepairCalls : Nat := 12

/-- `allows_local_manual_repair_scope`. -/
def allowsLocalManualRepairScope (purpose : Purpose) (workStatus : WorkStatus)
    (transitionCause : Option String) (attemptTrigger : Option AttemptTrigger) : Bool :=
  if purpose ≠ .localEvaluation then false
  else if workStatus = .blocked ∨ workStatus = .failed then true
  else if workStatus = .ready then decide (transitionCause = some "USER_RESUME")
  else
    decide (workStatus = .running
      ∧ (attemptTrigger = some .resume ∨ attemptTrigger = some .retry))

/-- `allows_local_manual_repair_attempt`. -/
def allowsLocalManualRepairAttempt (purpose : Purpose) (actionType : ActionType)
    (actionReason : String) (workStatus : WorkStatus) (transitionCause : Option String)
    (attemptTrigger : Option AttemptTrigger) : Bool :=
  if purpose ≠ .localEvaluation ∨ actionType ≠ .startAttempt
      ∨ actionReason ≠ "Claim exact READY work" then false
  else allowsLocalManualRepairScope purpose workStatus transitionCause attemptTrigger

/-- `local_manual_repair_call_allowance`. -/
def localManualRepairCallAllowance (purpose : Purpose) (actionType : ActionType)
    (workStatus : WorkStatus) (transitionCause : Option String)
    (attemptTrigger : Option AttemptTrigger) : Nat :=
  if actionType.isExternal = false then 0
  else if allowsLocalManualRepairScope purpose workStatus transitionCause attemptTrigger = false
  then 0
  else localManualRepairCalls

/-! ## Profiles of a binding -/

/-- The kinds of profiles a binding names beside the execution profile. -/
inductive ProfileKind where
  | work
  | verification
  | dynamic
  deriving DecidableEq

/-- What `validate_binding` reads of a profile of the expected kind. -/
def Record.profile? : ProfileKind → Record → Option (ProfileStatus × RecordMeta × Option Purpose)
  | .work, .workProfile profile => some (profile.status, profile.metadata, some profile.purpose)
  | .verification, .verificationProfile profile => some (profile.status, profile.metadata, none)
  | .dynamic, .dynamicProfile profile => some (profile.status, profile.metadata, none)
  | _, _ => none

variable [ContentHash]

namespace Store

variable (store : Store)

/-- The profile of a scope, which must be pinned for the analysis. -/
def pinnedProfile (ref : RecordRef) (analysisId : String) : Except PyError Record := do
  raiseIf ((store.profiles.find (analysisId, ref.dataKind)).map ProfilePin.ref ≠ some ref)
    (.valueError "BUDGET unavailable: unpinned profile or consuming analysis mismatch")
  store.resolve ref

/-- An active execution profile of the analysis. -/
def activeProfile (analysisId : String) : Record → Except PyError ExecutionBudgetProfile
  | .executionProfile profile =>
      if profile.metadata.analysisId = analysisId ∧ profile.status = .active then .ok profile
      else .error (.valueError "BUDGET unavailable: ACTIVE execution profile required")
  | _ => .error (.valueError "BUDGET unavailable: ACTIVE execution profile required")

/-- `execution` of a run's own profile. -/
def runExecution (ref : RecordRef) (analysisId : String) :
    Except PyError ExecutionBudgetProfile := do
  let record ← store.pinnedProfile ref analysisId
  let state ← store.getRun analysisId
  raiseIf (state.executionBudgetProfileRef ≠ ref)
    (.valueError "BUDGET exact run-state binding mismatch")
  activeProfile analysisId record

/-- A profile of a binding is active, of the expected kind and of the scope and purpose of the
binding. -/
def checkProfile (binding : BudgetProfileBinding) (kind : ProfileKind) (ref : RecordRef) :
    Except PyError Unit := do
  let record ← store.resolve ref
  let (status, metadata, purpose) ← required (record.profile? kind)
    (.valueError "BUDGET requires all ACTIVE exact profiles")
  raiseIf (status ≠ .active) (.valueError "BUDGET requires all ACTIVE exact profiles")
  raiseIf (¬ (metadata.analysisId = binding.metadata.analysisId
      ∧ metadata.workspace = binding.metadata.workspace))
    (.valueError "BUDGET profile scope mismatch")
  raiseIf (∃ stated ∈ purpose, stated ≠ binding.purpose) (.valueError "BUDGET purpose mismatch")

/-- `validate_binding`. -/
def validateBinding (binding : BudgetProfileBinding) : Except PyError Unit := do
  raiseIf (binding.status ≠ .active) (.valueError "BUDGET requires full ACTIVE binding")
  let execution ← store.runExecution binding.executionBudgetProfileRef binding.metadata.analysisId
  raiseIf (execution.purpose ≠ binding.purpose) (.valueError "BUDGET purpose mismatch")
  store.checkProfile binding .work binding.workBudgetProfileRef
  store.checkProfile binding .verification binding.verificationBudgetProfileRef
  store.checkProfile binding .dynamic binding.dynamicLifecycleProfileRef

/-- `execution` of a binding, which leads to the profile of the run. -/
def boundExecution (ref : RecordRef) (analysisId : String) (binding : BudgetProfileBinding) :
    Except PyError ExecutionBudgetProfile := do
  let state ← store.getRun analysisId
  raiseIf (state.budgetBindingRef ≠ some ref)
    (.valueError "BUDGET exact run-state binding mismatch")
  store.validateBinding binding
  store.runExecution binding.executionBudgetProfileRef analysisId

/-- `execution`.  The profile a binding names is never a binding. -/
def execution (ref : RecordRef) (analysisId : String) :
    Except PyError ExecutionBudgetProfile := do
  match ← store.pinnedProfile ref analysisId with
  | .binding binding => store.boundExecution ref analysisId binding
  | _ => store.runExecution ref analysisId

/-! ## Capacity -/

/-- The rows of an analysis that are still reserved. -/
def reservedRows (analysisId : String) : List ReservationRow :=
  store.reservations.rows.filter fun row =>
    decide (row.analysisId = analysisId ∧ row.status = .reserved)

/-- The ledger rows of an analysis. -/
def ledgerRows (analysisId : String) : List LedgerRow :=
  store.ledger.rows.filter fun row => decide (row.analysisId = analysisId)

/-- The units in use: what the reserved rows request and what the ledger debits. -/
def usedUnits (analysisId : String) (excluded : Option String) : List BudgetUnits :=
  ((store.reservedRows analysisId).filter fun row =>
      decide (some row.payload.reservationId ≠ excluded)).map
    (fun row => row.payload.requestedUnits)
  ++ (store.ledgerRows analysisId).map fun row => row.payload.actualUnits

/-- `available`. -/
def available (ref : RecordRef) (analysisId : String) (excluded : Option String := none) :
    Except PyError BudgetRemaining := do
  let profile ← store.execution ref analysisId
  .ok
    { budgetBindingRef := ref
      asOfSequence :=
        ((store.ledgerRows analysisId).map fun row => row.payload.sequence).foldl max 0
      availableUnits := unitsOf profile.currency fun field =>
        profile.limit field - totalUnits field (store.usedUnits analysisId excluded)
      activeReservationCount := (store.reservedRows analysisId).length }

/-! ## Ancestry -/

/-- A resolved parent must be a work. -/
def parentWork (ref : RecordRef) : Except PyError WorkExecutionState := do
  match ← store.resolve ref with
  | .work parent => .ok parent
  | _ => .error (.valueError "BUDGET invalid verification ancestor")

/-- Follow the parents of a work up to its verification.  The fuel bounds the distinct works
that can be seen. -/
def rootFrom : Nat → List String → WorkExecutionState → Except PyError (Option String)
  | 0, _, _ => .error (.valueError "BUDGET cyclic work ancestry")
  | fuel + 1, seen, work =>
      if work.workId ∈ seen then .error (.valueError "BUDGET cyclic work ancestry")
      else if work.workType = .verification then .ok (some work.workId)
      else
        match work.parentWorkRef with
        | none => .ok none
        | some ref => do
            let parent ← store.parentWork ref
            rootFrom fuel (work.workId :: seen) parent

/-- `verification_root`. -/
def verificationRoot (work : WorkExecutionState) : Except PyError (Option String) :=
  store.rootFrom (store.records.records.rows.length + 2) [] work

/-! ## What admission reads of a work -/

/-- The cause of the last transition of a work. -/
def transitionCause (work : WorkExecutionState) : Except PyError (Option String) :=
  match work.lastTransitionRef with
  | none => .ok none
  | some ref => do
      match ← store.resolveCandidate ref with
      | .transition transition => .ok (some transition.cause)
      | _ => .ok none

/-- The trigger of the active attempt of a work. -/
def attemptTrigger (work : WorkExecutionState) : Option AttemptTrigger := do
  let attemptId ← work.activeAttemptId
  let row ← store.attempts.find attemptId
  some row.payload.trigger

/-- The rows of an analysis that are not released. -/
def standingRows (analysisId : String) : List ReservationRow :=
  store.reservations.rows.filter fun row =>
    decide (row.analysisId = analysisId ∧ row.status ≠ .released)

/-- The work of a reservation, which need not be published. -/
def reservedWork (reservation : BudgetReservation) : Except PyError WorkExecutionState := do
  match ← store.resolveCandidate reservation.workRef with
  | .work work => .ok work
  | _ => .error assertionError

/-- The type of the action of a reservation. -/
def reservedAction (reservation : BudgetReservation) : Except PyError (Option ActionType) := do
  match ← store.resolve reservation.actionRef with
  | .action action => .ok (some action.actionType)
  | _ => .ok none

/-- What a reservation counts for: the debited units once it is committed. -/
def countedUnits (reservation : BudgetReservation) : Except PyError BudgetUnits :=
  match reservation.ledgerEntryRef with
  | none => .ok reservation.requestedUnits
  | some ref => do
      match ← store.resolve ref with
      | .ledgerEntry entry => .ok entry.actualUnits
      | _ => .error assertionError

/-! ## Limits of a verification -/

/-- What `check_hierarchy` adds up. -/
structure HierarchyTotals where
  scopeUnits : List BudgetUnits
  workUnits : List BudgetUnits
  attempts : Nat
  evidenceCalls : Nat

/-- The works whose external calls share the parallel evidence limit. -/
def collectsEvidence (workType : WorkType) : Bool :=
  decide (workType = .proEvidence ∨ workType = .conEvidence)

/-- Whether a reservation is a pending evidence call below the same root. -/
def evidenceCall (root : Option String) (totals : HierarchyTotals) (other : BudgetReservation)
    (otherWork : WorkExecutionState) (otherAction : Option ActionType) : Except PyError Bool :=
  if totals.evidenceCalls ≠ 0 ∧ other.status = .reserved
      ∧ collectsEvidence otherWork.workType = true then do
    let otherRoot ← store.verificationRoot otherWork
    .ok (decide (otherRoot = root) && otherAction.any ActionType.isExternal)
  else .ok false

/-- Whether a work lies below the root, when there is one. -/
def below (root : Option String) (otherWork : WorkExecutionState) : Except PyError Bool :=
  if root.isSome = true then do
    let otherRoot ← store.verificationRoot otherWork
    .ok (decide (otherRoot = root))
  else .ok false

/-- One turn of the loop of `check_hierarchy`. -/
def hierarchyTurn (reservation : BudgetReservation) (work : WorkExecutionState)
    (root : Option String) (totals : HierarchyTotals) (row : ReservationRow) :
    Except PyError HierarchyTotals :=
  if row.payload.reservationId = reservation.reservationId then .ok totals
  else do
    let otherWork ← store.reservedWork row.payload
    let otherAction ← store.reservedAction row.payload
    let evidence ← store.evidenceCall root totals row.payload otherWork otherAction
    let units ← store.countedUnits row.payload
    let inScope ← store.below root otherWork
    .ok
      { scopeUnits := if inScope then totals.scopeUnits ++ [units] else totals.scopeUnits
        workUnits :=
          if otherWork.workId = work.workId then totals.workUnits ++ [units]
          else totals.workUnits
        attempts :=
          if otherWork.workId = work.workId ∧ otherAction = some .startAttempt then
            totals.attempts + 1
          else totals.attempts
        evidenceCalls :=
          if evidence then totals.evidenceCalls + 1 else totals.evidenceCalls }

/-- The checks of `check_hierarchy` on the sums of a verification. -/
def checkVerification (profile : VerificationBudgetProfile) (repair : Nat)
    (totals : HierarchyTotals) : Except PyError Unit := do
  raiseIf (profile.maxWorkPerVerification < totalUnits .workCount totals.scopeUnits)
    (.valueError "BUDGET_EXCEEDED: Verification work_count")
  raiseIf (profile.maxVerificationElapsedMs < totalUnits .elapsedMs totals.scopeUnits)
    (.valueError "BUDGET_EXCEEDED: Verification elapsed_ms")
  raiseIf (profile.maxLlmCallsPerVerification < totalUnits .llmCallCount totals.scopeUnits)
    (.valueError "BUDGET_EXCEEDED: Verification llm_call_count")
  raiseIf (profile.maxRetriesPerWork + repair < totalUnits .retryCount totals.workUnits)
    (.valueError "BUDGET_EXCEEDED: retries per work")

/-- The preflight profile of a dynamic reproduction is the work profile of its binding. -/
def preflightProfile (dynamic : DynamicReproductionLifecycleProfile)
    (binding : BudgetProfileBinding) : Except PyError WorkBudgetProfile := do
  match ← store.resolve dynamic.preflightBudgetRef with
  | .workProfile preflight =>
      if dynamic.preflightBudgetRef = binding.workBudgetProfileRef then .ok preflight
      else .error (.valueError "BLOCKED waiting_for=BUDGET: preflight evidence unavailable")
  | _ => .error (.valueError "BLOCKED waiting_for=BUDGET: preflight evidence unavailable")

/-- The checks of `check_hierarchy` on a dynamic reproduction. -/
def checkDynamic (reservation : BudgetReservation) (work : WorkExecutionState)
    (action : ActionRequest) (binding : BudgetProfileBinding)
    (dynamic : DynamicReproductionLifecycleProfile) (repair : Nat) (totals : HierarchyTotals) :
    Except PyError Unit := do
  raiseIf (dynamic.maxNewAttempts + 1 + repair < totals.attempts)
    (.valueError "BUDGET_EXCEEDED: dynamic attempts")
  let preflight ← store.preflightProfile dynamic binding
  let (kind, role) := operation work.workType action
  let limit ← selectWorkLimit preflight work.workType kind role
  let maximum ← required limit.timeoutMs
    (.valueError "BLOCKED waiting_for=BUDGET: work timeout unavailable")
  let previous := totalUnits .elapsedMs (totals.workUnits.drop 1)
  raiseIf (maximum ≤ previous ∨ maximum - previous < reservation.requestedUnits.elapsedMs)
    (.valueError "BUDGET_EXCEEDED: dynamic remaining time")

/-- The verification profile of a binding. -/
def verificationProfile (binding : BudgetProfileBinding) :
    Except PyError VerificationBudgetProfile := do
  match ← store.resolve binding.verificationBudgetProfileRef with
  | .verificationProfile profile => .ok profile
  | _ => .error assertionError

/-- The dynamic profile of a binding. -/
def dynamicProfile (binding : BudgetProfileBinding) :
    Except PyError DynamicReproductionLifecycleProfile := do
  match ← store.resolve binding.dynamicLifecycleProfileRef with
  | .dynamicProfile profile => .ok profile
  | _ => .error assertionError

/-- `check_hierarchy`. -/
def checkHierarchy (reservation : BudgetReservation) (work : WorkExecutionState)
    (action : ActionRequest) (binding : BudgetProfileBinding) : Except PyError Unit := do
  let root ← store.verificationRoot work
  let profile ← store.verificationProfile binding
  let dynamic ← store.dynamicProfile binding
  let cause ← store.transitionCause work
  let run ← store.getRun work.metadata.analysisId
  let repair :=
    if allowsLocalManualRepairScope run.purpose work.status cause (store.attemptTrigger work)
    then localManualRepairAttempts else 0
  let totals ← (store.standingRows work.metadata.analysisId).foldlM
    (hierarchyTurn store reservation work root)
    { scopeUnits := [reservation.requestedUnits]
      workUnits := [reservation.requestedUnits]
      attempts := if action.actionType = .startAttempt then 1 else 0
      evidenceCalls :=
        if collectsEvidence work.workType = true ∧ action.actionType.isExternal = true then 1
        else 0 }
  checkIf (root.isSome = true) (checkVerification profile repair totals)
  raiseIf (profile.maxParallelEvidenceCalls < totals.evidenceCalls)
    (.valueError "BUDGET_EXCEEDED: parallel evidence calls")
  checkIf (work.workType = .dynamicRepro)
    (store.checkDynamic reservation work action binding dynamic repair totals)

/-! ## Limits of a work -/

/-- What is left without the reservation covers what it requests, and a work that is registered
or started finds executable capacity. -/
def checkCapacity (reservation : BudgetReservation) (work : WorkExecutionState)
    (action : ActionRequest) : Except PyError Unit := do
  let remaining ← store.available reservation.budgetBindingRef work.metadata.analysisId
    (some reservation.reservationId)
  raiseIf (reservation.requestedUnits.exceeds remaining.availableUnits)
    (.valueError "BUDGET_EXCEEDED: requested capacity no longer fits")
  raiseIf ((action.actionType = .registerWork ∨ action.actionType = .startAttempt)
      ∧ ∃ field ∈ [UnitField.elapsedMs, .costMinorUnits, .llmCallCount, .workCount],
        remaining.availableUnits.get field = 0)
    (.valueError "BUDGET_EXCEEDED: executable capacity exhausted")

/-- The units an external action must request and find. -/
def applicableUnits (actionType : ActionType) : List UnitField :=
  [.elapsedMs, .costMinorUnits] ++ if actionType.callsModel then [.llmCallCount] else []

/-- An external action finds execution capacity and requests a positive, priced amount. -/
def checkExternal (evidence : TrustedEvidence) (reservation : BudgetReservation)
    (work : WorkExecutionState) (action : ActionRequest) : Except PyError Unit := do
  let profile ← store.execution reservation.budgetBindingRef work.metadata.analysisId
  let remaining ← store.available reservation.budgetBindingRef work.metadata.analysisId
    (some reservation.reservationId)
  raiseIf (∃ field ∈ applicableUnits action.actionType, remaining.availableUnits.get field = 0)
    (.valueError "BUDGET_EXCEEDED: execution capacity exhausted")
  raiseIf (evidence.pricing profile = false
      ∨ ∃ field ∈ applicableUnits action.actionType, reservation.requestedUnits.get field = 0)
    (.valueError "BLOCKED waiting_for=BUDGET: positive execution/pricing proof required")

/-- One turn of the loop over the items admitted for a work. -/
def itemsTurn (work : WorkExecutionState) (admitted : Int) (row : ReservationRow) :
    Except PyError Int := do
  match ← store.resolveCandidate row.payload.workRef with
  | .work prior =>
      if prior.workId = work.workId then do
        let items ← required row.itemCount
          (.valueError "BLOCKED waiting_for=BUDGET: item history unproven")
        .ok (admitted + items)
      else .ok admitted
  | _ => .ok admitted

/-- The items of the reservation and of the others of its work stay within the limit. -/
def checkItems (evidence : TrustedEvidence) (reservation : BudgetReservation)
    (work : WorkExecutionState) (action : ActionRequest) (limit : WorkBudgetLimit) :
    Except PyError Unit := do
  let maximum ← required limit.maxItemsPerWork
    (.valueError "BLOCKED waiting_for=BUDGET: trusted item admission unavailable")
  let items ← required ((evidence.itemCount action work).filter fun items => decide (0 ≤ items))
    (.valueError "BLOCKED waiting_for=BUDGET: trusted item admission unavailable")
  raiseIf ((maximum : Int) < items) (.valueError "BUDGET_EXCEEDED: work items")
  let admitted ← ((store.standingRows work.metadata.analysisId).filter fun row =>
    decide (row.reservationId ≠ reservation.reservationId)).foldlM (itemsTurn store work) items
  raiseIf ((maximum : Int) < admitted) (.valueError "BUDGET_EXCEEDED: cumulative work items")

/-- The operations that share a limit with an action: attempts, or external calls. -/
def sharesLimit (actionType other : ActionType) : Bool :=
  if actionType = .startAttempt then decide (other = .startAttempt)
  else actionType.isExternal && other.isExternal

/-- One turn of the loop over the operations of a work. -/
def operationsTurn (reservation : BudgetReservation) (work : WorkExecutionState)
    (actionType : ActionType) (count : Nat) (row : ReservationRow) : Except PyError Nat :=
  if row.payload.reservationId = reservation.reservationId then .ok count
  else do
    let otherWork ← store.resolveCandidate row.payload.workRef
    let otherAction ← store.resolve row.payload.actionRef
    match otherWork, otherAction with
    | .work otherWork, .action otherAction =>
        if otherWork.workId = work.workId ∧ sharesLimit actionType otherAction.actionType = true
        then .ok (count + 1) else .ok count
    | _, _ => .ok count

/-- The limit on the operations of the action's kind, with the local repair allowance. -/
def operationCeiling (work : WorkExecutionState) (action : ActionRequest)
    (limit : WorkBudgetLimit) (purpose : Purpose) (cause : Option String) : Option Nat :=
  if action.actionType = .startAttempt then
    limit.maxAttempts.map fun ceiling =>
      if allowsLocalManualRepairAttempt purpose action.actionType action.reason work.status cause
        none
      then ceiling + localManualRepairAttempts else ceiling
  else
    limit.maxCallsPerWork.map fun ceiling =>
      ceiling + localManualRepairCallAllowance purpose action.actionType work.status cause
        (store.attemptTrigger work)

/-- Fewer operations of the action's kind than the ceiling are admitted. -/
def checkCeiling (reservation : BudgetReservation) (work : WorkExecutionState)
    (action : ActionRequest) (ceiling : Option Nat) : Except PyError Unit := do
  let ceiling ← required ceiling
    (.valueError "BUDGET unavailable: operation limit is unspecified")
  let count ← (store.standingRows work.metadata.analysisId).foldlM
    (operationsTurn store reservation work action.actionType) 0
  raiseIf (ceiling ≤ count) (.valueError "BUDGET_EXCEEDED: work operation limit")

/-- The attempts or external calls of a work stay within their limit. -/
def checkOperations (reservation : BudgetReservation) (work : WorkExecutionState)
    (action : ActionRequest) (limit : WorkBudgetLimit) : Except PyError Unit := do
  let cause ← store.transitionCause work
  let run ← store.getRun work.metadata.analysisId
  checkIf (action.actionType = .startAttempt ∨ action.actionType.isExternal = true)
    (store.checkCeiling reservation work action
      (store.operationCeiling work action limit run.purpose cause))

/-- The limit of a work's operation in the work profile of a binding. -/
def workLimit (binding : BudgetProfileBinding) (work : WorkExecutionState)
    (action : ActionRequest) : Except PyError WorkBudgetLimit := do
  match ← store.resolve binding.workBudgetProfileRef with
  | .workProfile profile =>
      let (kind, role) := operation work.workType action
      selectWorkLimit profile work.workType kind role
  | _ => .error assertionError

/-- The checks of `validate_operation` against the work profile. -/
def checkWorkLimits (evidence : TrustedEvidence) (reservation : BudgetReservation)
    (work : WorkExecutionState) (action : ActionRequest) (binding : BudgetProfileBinding) :
    Except PyError Unit := do
  let limit ← store.workLimit binding work action
  store.checkItems evidence reservation work action limit
  store.checkOperations reservation work action limit
  raiseIf (∃ maximum ∈ limit.timeoutMs, maximum < reservation.requestedUnits.elapsedMs)
    (.valueError "BUDGET_EXCEEDED: work timeout")

/-- The checks of `validate_operation` that depend on the kind of the scope. -/
def checkBound (reservation : BudgetReservation) (work : WorkExecutionState)
    (action : ActionRequest) : Record → Except PyError Unit
  | .binding binding => do
      store.validateBinding binding
      store.checkHierarchy reservation work action binding
  | _ => .ok ()

/-- A workspace is prepared on the profile of the run, every other work on a binding. -/
def checkScope (evidence : TrustedEvidence) (reservation : BudgetReservation)
    (work : WorkExecutionState) (action : ActionRequest) : Record → Except PyError Unit
  | .binding binding =>
      if work.workType = .workspacePrep then
        .error (.valueError "BUDGET bootstrap requires run execution profile")
      else store.checkWorkLimits evidence reservation work action binding
  | _ =>
      if work.workType = .workspacePrep then .ok ()
      else .error (.valueError "BUDGET requires full ACTIVE binding")

/-- `validate_operation`. -/
def validateOperation (evidence : TrustedEvidence) (reservation : BudgetReservation)
    (work : WorkExecutionState) (action : ActionRequest) : Except PyError Unit := do
  store.checkCapacity reservation work action
  let scope ← store.resolve reservation.budgetBindingRef
  store.checkBound reservation work action scope
  checkIf (action.actionType.isExternal = true)
    (store.checkExternal evidence reservation work action)
  store.checkScope evidence reservation work action scope

/-! ## Transactions -/

/-- The row of a new reservation. -/
def newReservation (evidence : TrustedEvidence) (reservation : BudgetReservation)
    (work : WorkExecutionState) (action : ActionRequest) : ReservationRow where
  reservationId := reservation.reservationId
  analysisId := reservation.metadata.analysisId
  actionId := reservation.actionRef.recordId.getD "None"
  status := reservation.status
  payload := reservation
  initialRef := reference (.reservation reservation)
  itemCount := evidence.itemCount action work

/-- Insert a reservation.  An action is reserved at most once. -/
def insertReservation (row : ReservationRow) : Except PyError Store := do
  raiseIf (store.reservations.rows.any (fun other => decide (other.actionId = row.actionId)) = true)
    .sqliteError
  let reservations ← required (store.reservations.insert row) .sqliteError
  .ok { store with reservations }

/-- The work a new reservation is for. -/
def admittedWork (reservation : BudgetReservation) (action : RecordMeta) :
    Record → Except PyError WorkExecutionState
  | .work work =>
      if work.metadata.analysisId = reservation.metadata.analysisId
          ∧ action.analysisId = reservation.metadata.analysisId then .ok work
      else .error (.valueError "BUDGET analysis/work mismatch")
  | _ => .error (.valueError "BUDGET analysis/work mismatch")

/-- The action a new reservation is for. -/
def admittedAction : Record → Except PyError ActionRequest
  | .action action => .ok action
  | _ => .error (.valueError "BUDGET requires exact action")

/-- The checks of a new reservation against what is left. -/
def checkAdmission (evidence : TrustedEvidence) (reservation : BudgetReservation)
    (work : WorkExecutionState) (action : ActionRequest) : Except PyError Unit := do
  store.validateOperation evidence reservation work action
  let remaining ← store.available reservation.budgetBindingRef reservation.metadata.analysisId
  raiseIf (reservation.requestedUnits.currency ≠ remaining.availableUnits.currency)
    (.valueError "BUDGET currency unavailable")
  raiseIf (reservation.requestedUnits.exceeds remaining.availableUnits)
    (.valueError "BUDGET_EXCEEDED")

/-- Admit a reservation that the analysis has not made before. -/
def reserveNew (evidence : TrustedEvidence) (reservation : BudgetReservation) :
    Except PyError Store := do
  raiseIf (reservation.status ≠ .reserved) (.valueError "New reservation must be RESERVED")
  let workRecord ← store.resolveCandidate reservation.workRef
  let actionRecord ← store.resolveCandidate reservation.actionRef
  let work ← admittedWork reservation actionRecord.metadata workRecord
  let action ← admittedAction actionRecord
  let records ← store.records.publish reservation.actionRef
  let published : Store := { store with records }
  published.checkAdmission evidence reservation work action
  let saved ← published.save (.reservation reservation)
  saved.insertReservation (newReservation evidence reservation work action)

/-- `reserve`.  A repeated reservation is answered as it stands now. -/
def reserve (evidence : TrustedEvidence) (reservation : BudgetReservation) :
    Except PyError (Store × BudgetReservation) := do
  match store.reservations.find reservation.reservationId with
  | some existing => do
      let initial ← store.resolve existing.initialRef
      raiseIf (initial ≠ .reservation reservation) (.valueError "Reservation identity mismatch")
      .ok (store, existing.payload)
  | none => do
      let after ← store.reserveNew evidence reservation
      .ok (after, reservation)

/-- `finalize`. -/
def finalize (previous current : BudgetReservation) : Except PyError Store := do
  validateReservationRevision previous current
  let saved ← store.save (.reservation current)
  .ok
    { saved with
      reservations := saved.reservations.update
        (fun row => decide (row.reservationId = current.reservationId))
        (fun row => row.finalized current)
        (fun row => row.finalized_reservationId current) }

/-- The row of a new ledger entry. -/
def ledgerRow (reservationId : String) (entry : BudgetLedgerEntry) : LedgerRow where
  ledgerEntryId := entry.ledgerEntryId
  reservationId := reservationId
  analysisId := entry.metadata.analysisId
  sequence := entry.sequence
  payload := entry

/-- Insert a ledger entry.  A reservation has one, and an analysis one of each number. -/
def insertLedger (row : LedgerRow) : Except PyError Store := do
  raiseIf (store.ledger.rows.any (fun other =>
      decide (other.reservationId = row.reservationId
        ∨ other.analysisId = row.analysisId ∧ other.sequence = row.sequence)) = true)
    .sqliteError
  let ledger ← required (store.ledger.insert row) .sqliteError
  .ok { store with ledger }

/-- The usage of an entry is recorded in its analysis. -/
def checkUsage (entry : BudgetLedgerEntry) (usage : RecordRef) : Except PyError Unit := do
  let resolved ← store.resolve usage
  raiseIf (resolved.metadata.analysisId ≠ entry.metadata.analysisId)
    (.valueError "Usage analysis mismatch")

/-- Debit a reservation that no entry has debited yet. -/
def commitNew (stamp : Stamp) (reservationId : String) (entry : BudgetLedgerEntry) :
    Except PyError Store := do
  let row ← required (store.reservations.find reservationId)
    (.lookupError "No row was found when one was required")
  let reservation := row.payload
  raiseIf (reservation.status ≠ .reserved) (.valueError "Reservation already finalized")
  raiseIf (¬ (entry.budgetBindingRef = reservation.budgetBindingRef
      ∧ entry.actionRef = reservation.actionRef ∧ entry.workRef = reservation.workRef))
    (.valueError "Ledger scope mismatch")
  raiseIf (entry.metadata.analysisId ≠ reservation.metadata.analysisId
      ∨ entry.actualUnits.currency ≠ reservation.requestedUnits.currency)
    (.valueError "Ledger analysis/currency mismatch")
  let remaining ← store.available entry.budgetBindingRef entry.metadata.analysisId
  raiseIf (entry.sequence ≠ remaining.asOfSequence + 1)
    (.valueError "Ledger sequence must be consecutive")
  forM entry.usageRefs (store.checkUsage entry)
  let saved ← store.save (.ledgerEntry entry)
  let committed ← ReservationFields.validate
    { reservation.toReservationFields with
      metadata := reservation.metadata.next stamp
      status := .committed
      finalizedAt := some stamp.now
      ledgerEntryRef := some (reference (.ledgerEntry entry)) }
  let finalized ← saved.finalize reservation committed
  finalized.insertLedger (ledgerRow reservationId entry)

/-- The reservation a reference resolves to. -/
def exactReservation (ref : RecordRef) (message : String) : Except PyError BudgetReservation := do
  match ← store.resolve ref with
  | .reservation reservation => .ok reservation
  | _ => .error (.valueError message)

/-- The ledger row of a reservation. -/
def debitOf (reservationId : String) : Option LedgerRow :=
  store.ledger.rows.find? fun row => decide (row.reservationId = reservationId)

/-- `commit_usage`.  A repeated entry is answered as it was committed. -/
def commitUsage (stamp : Stamp) (entry : BudgetLedgerEntry) :
    Except PyError (Store × BudgetLedgerEntry) := do
  let initial ← store.exactReservation entry.reservationRef "Expected exact reservation"
  match store.debitOf initial.reservationId with
  | some old =>
      if old.payload = entry then .ok (store, old.payload)
      else .error (.valueError "Duplicate debit differs from committed usage")
  | none => do
      let after ← store.commitNew stamp initial.reservationId entry
      .ok (after, entry)

/-- Release a row that is still reserved and was never claimed. -/
def releaseRow (row : ReservationRow) (released : BudgetReservation) :
    Except PyError (Store × BudgetReservation) :=
  if row.payload.status ≠ .reserved then .ok (store, row.payload)
  else do
    raiseIf (row.claimed = true ∨ released.status ≠ .released)
      (.valueError "BUDGET: cannot release uncertain or used reservation")
    let after ← store.finalize row.payload released
    .ok (after, released)

/-- `release`. -/
def release (released : BudgetReservation) : Except PyError (Store × BudgetReservation) := do
  let row ← required (store.reservations.find released.reservationId)
    (.lookupError "No row was found when one was required")
  store.releaseRow row released

end Store

end Sastsimi.Storage
