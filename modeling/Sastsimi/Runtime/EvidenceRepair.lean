import Sastsimi.Lib.Closure
import Sastsimi.Lib.Json
import Sastsimi.Lib.Program
import Sastsimi.Lib.Table
import Sastsimi.Runtime.CandidateBatch

/-!
# The repair of legacy evidence

`repair_legacy_pro_con_evidence` reopens one hypothesis whose recorded evidence is invalid.  In
one transaction it withdraws every hypothesis that descends from the repaired one, rewinds each
chaining result that considered a primitive of a withdrawn hypothesis, and clears the terminal
result of the analysis.

A table lists its rows, since the repair reads all rows of a stage or a scope.  A column that
holds JSON text is the value that was encoded.
-/

namespace Sastsimi.Runtime

open SimpleStage Lib

variable [Platform]

/-! ## The tables -/

/-- `CandidateTerminal`, as far as the repair reads it. -/
structure CandidateTerminal where
  status : String
  deriving DecidableEq

/-- A row of `simple_analysis_runs`. -/
structure AnalysisRun where
  analysisId : String
  workspaceId : String
  commitId : String
  candidateTerminal : Option CandidateTerminal
  deriving DecidableEq

/-- The primary key of `simple_pro_con_batch_evidence`. -/
structure RoleKey where
  scope : ScopeKey
  hypothesisId : String
  role : String
  inputHash : String
  deriving DecidableEq

/-- A row of `simple_pro_con_batch_evidence`. -/
structure RoleEvidence where
  key : RoleKey
  evidenceRef : StoredDataRef
  deriving DecidableEq

/-- The primary key of `simple_candidate_hypotheses` and `simple_candidate_child_claims`. -/
structure HypothesisKey where
  scope : ScopeKey
  hypothesisId : String
  deriving DecidableEq

/-- A row of `simple_candidate_hypotheses`. -/
structure RegisteredHypothesis where
  key : HypothesisKey
  hypothesisRef : Option StoredDataRef
  chainDepth : Int
  parentHypothesisIds : Json

/-- A row of `simple_candidate_hypothesis_links`; all columns are its key. -/
structure HypothesisLink where
  candidate : CandidateKey
  hypothesisId : String
  deriving DecidableEq

/-- A row of `simple_candidate_child_claims`. -/
structure ChildClaim where
  key : HypothesisKey
  turnId : String
  deriving DecidableEq

/-- The key of a checkpoint row. -/
def StageCheckpoint.key (checkpoint : StageCheckpoint) : CheckpointKey :=
  checkpoint.identity.key checkpoint.stage

/-- The tables the repair reads and writes. -/
structure RepairStore where
  checkpoints : Table StageCheckpoint.key
  runs : Table AnalysisRun.analysisId
  evidence : Table RoleEvidence.key
  registrations : Table RegisteredHypothesis.key
  links : Table (id : HypothesisLink → HypothesisLink)
  claims : Table ChildClaim.key
  activity : List AgentActivityEvent
  dashboard : Option (String → Option DashboardMark)

/-- `SimpleArtifactRepository.read` and `json.loads` for the files of one identity. -/
abbrev ArtifactReader : Type := StoredDataRef → Except PyError Json

/-- What the repair reads outside the database: the artifact directory, if there is one, and
the validation of a stored reference. -/
structure RepairFiles where
  artifacts : Option (CheckpointIdentity → Except PyError ArtifactReader)
  validateRef : Json → Except PyError StoredDataRef

/-! ## Errors -/

def repairInvalid : PyError := .valueError "PRO_CON_LEGACY_REPAIR_INVALID"

def repairStale : PyError := .valueError "PRO_CON_LEGACY_REPAIR_STALE"

def repairCoparent : PyError := .valueError "PRO_CON_LEGACY_REPAIR_COPARENT"

def repairDependentChaining : PyError := .valueError "PRO_CON_LEGACY_REPAIR_DEPENDENT_CHAINING"

/-- `TypeError`, which a set raises for a value that cannot be hashed. -/
def typeError : PyError := .runtimeError "TypeError"

/-- `except (OSError, ValueError, TypeError)`. -/
def unreadable (reason : PyError) : PyError :=
  match reason with
  | .osError | .valueError _ => repairDependentChaining
  | other => other

/-- `except (OSError, ValueError, KeyError, TypeError)`. -/
def unreadableResult (reason : PyError) : PyError :=
  match reason with
  | .lookupError _ => repairDependentChaining
  | other => unreadable other

/-! ## The arguments -/

/-- `checkpoint.output_refs[0 if role == "pro" else 1]`. -/
def StageCheckpoint.roleOutput (checkpoint : StageCheckpoint) (role : String) :
    Option StoredDataRef :=
  if role = "pro" then checkpoint.outputRefs[0]? else checkpoint.outputRefs[1]?

/-- What a repair is called with: the checkpoint, the invalid roles with their references, and
the cached reference that the caller saw for every role. -/
structure RepairRequest where
  checkpoint : StageCheckpoint
  invalidRoles : List (String × StoredDataRef)
  expectedRoleCache : List (String × Option StoredDataRef)

/-- The checks on the arguments. -/
def RepairRequest.Valid (request : RepairRequest) : Prop :=
  request.checkpoint.stage = proConDone
    ∧ request.checkpoint.status = .succeeded
    ∧ request.checkpoint.outputRefs.length = 2
    ∧ request.invalidRoles ≠ []
    ∧ (∀ role ∈ request.invalidRoles.map Prod.fst, role ∈ ["pro", "con"])
    ∧ (∀ role ∈ request.expectedRoleCache.map Prod.fst, role ∈ ["pro", "con"])
    ∧ (∀ role ∈ ["pro", "con"], role ∈ request.expectedRoleCache.map Prod.fst)
    ∧ ∀ entry ∈ request.invalidRoles, some entry.2 = request.checkpoint.roleOutput entry.1

instance (request : RepairRequest) : Decidable request.Valid :=
  inferInstanceAs (Decidable (_ ∧ _ ∧ _ ∧ _ ∧ _ ∧ _ ∧ _ ∧ _))

/-- `invalid_roles` names a role. -/
def RepairRequest.invalid (request : RepairRequest) (role : String) : Bool :=
  role ∈ request.invalidRoles.map Prod.fst

/-! ## The cached evidence -/

/-- `_pro_con_batch_key`. -/
def proConBatchKey (identity : CheckpointIdentity) (role inputHash : String) :
    Except PyError RoleKey :=
  match identity.hypothesisId with
  | none => .error (.valueError "PRO_CON_BATCH_EVIDENCE_INVALID")
  | some hypothesis =>
      if hypothesis = "" ∨ role ∉ ["pro", "con"] ∨ isBlank inputHash then
        .error (.valueError "PRO_CON_BATCH_EVIDENCE_INVALID")
      else .ok ⟨identity.scopeKey, hypothesis, role, inputHash⟩

namespace RepairStore

def deleteEvidence (store : RepairStore) (key : RoleKey) : RepairStore :=
  { store with evidence := store.evidence.delete fun row => row.key = key }

def putEvidence (store : RepairStore) (row : RoleEvidence) : RepairStore :=
  { store with evidence := store.evidence.put row }

end RepairStore

/-- Check that the cached reference of a role is the one the caller saw, and one of the
checkpoint. -/
def checkCached (request : RepairRequest) (role : String) (actual : Option StoredDataRef) :
    Except PyError Unit :=
  raiseIf (actual ≠ (request.expectedRoleCache.lookup role).join
    ∨ (actual ≠ none ∧ actual ≠ request.checkpoint.roleOutput role)) repairStale

/-- Drop the cached reference of an invalid role, and record that of a valid role that was never
cached. -/
def reviseCached (request : RepairRequest) (role : String) (key : RoleKey)
    (actual : Option StoredDataRef) : Prog RepairStore PyError Unit :=
  match request.invalid role, actual, request.checkpoint.roleOutput role with
  | true, some _, _ => Prog.change fun store => store.deleteEvidence key
  | false, none, some valid => do
      let _ ← Prog.ofExcept (candidateRef request.checkpoint.identity (some valid))
      Prog.change fun store => store.putEvidence ⟨key, valid⟩
  | _, _, _ => pure ()

/-- The turn of the loop over the roles. -/
def reviseRole (request : RepairRequest) (role : String) : Prog RepairStore PyError Unit := do
  let key ← Prog.ofExcept
    (proConBatchKey request.checkpoint.identity role request.checkpoint.inputHash)
  let store ← Prog.look
  Prog.ofExcept (checkCached request role ((store.evidence.find key).map (·.evidenceRef)))
  reviseCached request role key ((store.evidence.find key).map (·.evidenceRef))

/-! ## The closure -/

/-- The parents a registration lists. -/
def registeredParents (row : RegisteredHypothesis) : Except PyError (String × List String) :=
  match row.parentHypothesisIds.arr?.bind fun items => items.mapM Json.str? with
  | none => .error repairStale
  | some parents =>
      if ¬ parents.Nodup ∨ row.key.hypothesisId ∈ parents then .error repairStale
      else .ok (row.key.hypothesisId, parents)

/-- The registrations of one scope. -/
def RepairStore.registered (store : RepairStore) (scope : ScopeKey) :
    List RegisteredHypothesis :=
  store.registrations.rows.filter fun row => row.key.scope = scope

/-- `parents_by_id`. -/
def RepairStore.parentsById (store : RepairStore) (scope : ScopeKey) :
    Except PyError (List (String × List String)) :=
  (store.registered scope).mapM registeredParents

/-- A parent of a withdrawn hypothesis that is neither withdrawn nor repaired. -/
def HasCoparent (graph : List (String × List String)) (repaired : String)
    (withdrawn : List String) : Prop :=
  ∃ entry ∈ graph, entry.1 ∈ withdrawn ∧ ∃ parent ∈ entry.2, parent ∉ withdrawn ∧ parent ≠ repaired

instance (graph : List (String × List String)) (repaired : String) (withdrawn : List String) :
    Decidable (HasCoparent graph repaired withdrawn) :=
  inferInstanceAs (Decidable (∃ entry ∈ graph, _))

/-! ## The revoked primitives -/

/-- Open the artifacts of an identity, and read one. -/
def RepairFiles.document (files : RepairFiles) (caught : PyError → PyError)
    (identity : CheckpointIdentity) (ref : StoredDataRef) : Except PyError Json :=
  match files.artifacts with
  | none => .error repairDependentChaining
  | some begin => do
      let read ← begin identity
      (read ref).mapError caught

/-- A text field of a document. -/
def textField (document : Json) (key : String) : Option String :=
  (document.get? key).bind Json.str?

/-- The checks on the admission record of a hypothesis without a primitive. -/
def checkAdmission (analysisId : String) (hypothesisId : Option String) (admission : Json) :
    Except PyError Unit :=
  if ¬ admission.isObj
      ∨ textField admission "kind" ≠ some "simple_primitive_admission"
      ∨ textField admission "analysis_id" ≠ some analysisId
      ∨ textField admission "hypothesis_id" ≠ hypothesisId then
    .error repairDependentChaining
  else
    match admission.get? "decision" with
    | some (.arr _) | some (.obj _) => .error typeError
    | some (.str decision) =>
        raiseIf (decision ∉ ["ALLOW", "DENY"]) repairDependentChaining
    | _ => .error repairDependentChaining

/-- Whether a hypothesis is among those listed is decided by its identifier. -/
local instance decidableMemSome (ids : List String) :
    (hypothesisId : Option String) → Decidable (hypothesisId ∈ ids.map some)
  | none => .isFalse (by simp)
  | some hypothesisId => decidable_of_iff (hypothesisId ∈ ids) (by simp)

/-- The primitive that a `PRIMITIVE_ADMISSION_DONE` checkpoint of an affected hypothesis
admitted. -/
def revokedPrimitive (files : RepairFiles) (identity : CheckpointIdentity)
    (affected : List String) (checkpoint : StageCheckpoint) :
    Except PyError (Option StoredDataRef) :=
  if checkpoint.identity.hypothesisId ∉ affected.map some then .ok none
  else if checkpoint.identity.scopeKey ≠ identity.scopeKey then .error repairStale
  else if checkpoint.status ≠ .succeeded then .ok none
  else if checkpoint.stageVersion ≠ primitiveAdmissionDone.stageVersion then
    .error repairDependentChaining
  else
    match checkpoint.outputRefs with
    | [admissionRef] => do
        let admission ← files.document unreadable checkpoint.identity admissionRef
        checkAdmission identity.analysisId checkpoint.identity.hypothesisId admission
        pure none
    | [_, primitive] => .ok (some primitive)
    | _ => .error repairDependentChaining

/-! ## The dependent chaining results -/

/-- The primitives a chaining result considered. -/
def consideredPrimitives (files : RepairFiles) (analysisId : String) (owner : String)
    (result : Json) : Except PyError (List StoredDataRef) :=
  if ¬ result.isObj
      ∨ textField result "kind" ≠ some "simple_chaining_result"
      ∨ textField result "analysis_id" ≠ some analysisId
      ∨ textField result "source_hypothesis_id" ≠ some owner then
    .error repairDependentChaining
  else
    match (result.get? "considered_primitive_refs").bind Json.arr? with
    | none => .error repairDependentChaining
    | some items => (items.mapM files.validateRef).mapError unreadableResult

/-- `result.get("children") == []`. -/
def childless (result : Json) : Bool :=
  match result.get? "children" with
  | some (.arr []) => true
  | _ => false

/-- A dependent result may be rewound when it has no child and no hypothesis descends from its
owner. -/
def Rewindable (graph : List (String × List String)) (chain : StageCheckpoint) (owner : String)
    (result : Json) (considered : List StoredDataRef) : Prop :=
  chain.stageVersion = chainingDone.stageVersion
    ∧ textField result "status" = some "NO_MATERIAL_CHILD"
    ∧ childless result = true
    ∧ considered.Nodup
    ∧ owner ∈ graph.map Prod.fst
    ∧ ∀ entry ∈ graph, owner ∉ entry.2

instance (graph : List (String × List String)) (chain : StageCheckpoint) (owner : String)
    (result : Json) (considered : List StoredDataRef) :
    Decidable (Rewindable graph chain owner result considered) :=
  inferInstanceAs (Decidable (_ ∧ _ ∧ _ ∧ _ ∧ _ ∧ _))

/-- The owner of a `CHAINING_DONE` checkpoint that considered a revoked primitive. -/
def dependentOwner (files : RepairFiles) (identity : CheckpointIdentity)
    (graph : List (String × List String)) (affected : List String)
    (revoked : List StoredDataRef) (chain : StageCheckpoint) :
    Except PyError (Option String) :=
  if chain.status ≠ .succeeded ∨ chain.identity.hypothesisId ∈ affected.map some then .ok none
  else if chain.identity.scopeKey ≠ identity.scopeKey then .error repairDependentChaining
  else
    match chain.identity.hypothesisId, chain.outputRefs with
    | some owner, [resultRef] => do
        let result ← files.document unreadableResult chain.identity resultRef
        let considered ← consideredPrimitives files identity.analysisId owner result
        if ∃ primitive ∈ considered, primitive ∈ revoked then
          raiseIf (¬ Rewindable graph chain owner result considered) repairDependentChaining
          pure (some owner)
        else pure none
    | _, _ => .error repairDependentChaining

/-- The owners of the chaining results that considered a revoked primitive; without one no result
is read. -/
def dependentOwners (files : RepairFiles) (identity : CheckpointIdentity)
    (graph : List (String × List String)) (affected : List String)
    (revoked : List StoredDataRef) (chains : List StageCheckpoint) :
    Except PyError (List (Option String)) :=
  if revoked = [] then .ok []
  else chains.mapM (dependentOwner files identity graph affected revoked)

/-! ## The changes -/

/-- The checkpoints of one stage of an analysis. -/
def RepairStore.stageCheckpoints (store : RepairStore) (analysisId : String)
    (stage : SimpleStage) : List StageCheckpoint :=
  store.checkpoints.rows.filter fun checkpoint =>
    checkpoint.identity.analysisId = analysisId ∧ checkpoint.stage = stage

/-- What the repair found in the tables. -/
structure RepairPlan where
  withdrawn : List String
  rewound : List String

/-- Find the withdrawn hypotheses, and the owners of the results that considered a primitive of an
affected one. -/
def planRepair (files : RepairFiles) (identity : CheckpointIdentity) (repaired : String)
    (store : RepairStore) : Except PyError RepairPlan := do
  let graph ← store.parentsById identity.scopeKey
  raiseIf (repaired ∉ graph.map Prod.fst) repairStale
  -- the loop ends on every graph (`descendants_ends`)
  let withdrawn ← required (descendants graph repaired (enoughRounds graph)) repairStale
  raiseIf (HasCoparent graph repaired withdrawn) repairCoparent
  let primitives ← (store.stageCheckpoints identity.analysisId primitiveAdmissionDone).mapM
    (revokedPrimitive files identity (repaired :: withdrawn))
  let owners ← dependentOwners files identity graph (repaired :: withdrawn)
    primitives.reduceOption (store.stageCheckpoints identity.analysisId chainingDone)
  pure ⟨withdrawn, owners.reduceOption⟩

/-- A checkpoint of a hypothesis, from a stage on. -/
def StageCheckpoint.IsFrom (checkpoint : StageCheckpoint) (analysisId hypothesisId : String)
    (stage : SimpleStage) : Prop :=
  checkpoint.key.analysisId = analysisId ∧ checkpoint.key.hypothesisKey = hypothesisId
    ∧ stage.index ≤ checkpoint.stage.index

instance (checkpoint : StageCheckpoint) (analysisId hypothesisId : String)
    (stage : SimpleStage) : Decidable (checkpoint.IsFrom analysisId hypothesisId stage) :=
  inferInstanceAs (Decidable (_ ∧ _ ∧ _))

namespace RepairStore

/-- Delete the checkpoints of a hypothesis from a stage on. -/
def deleteStages (store : RepairStore) (analysisId : String) (stage : SimpleStage)
    (hypothesisId : String) : RepairStore :=
  { store with
    checkpoints := store.checkpoints.delete fun checkpoint =>
      checkpoint.IsFrom analysisId hypothesisId stage }

/-- Delete every row of a withdrawn hypothesis. -/
def deleteHypothesis (store : RepairStore) (scope : ScopeKey) (hypothesisId : String) :
    RepairStore :=
  { store.deleteStages scope.analysisId staticDone hypothesisId with
    evidence := store.evidence.delete fun row =>
      row.key.scope = scope ∧ row.key.hypothesisId = hypothesisId
    claims := store.claims.delete fun row =>
      row.key.scope = scope ∧ row.key.hypothesisId = hypothesisId
    links := store.links.delete fun row =>
      row.candidate.scope = scope ∧ row.hypothesisId = hypothesisId
    registrations := store.registrations.delete fun row =>
      row.key.scope = scope ∧ row.key.hypothesisId = hypothesisId }

/-- `_upsert_checkpoint_connection`. -/
def putCheckpoint (store : RepairStore) (checkpoint : StageCheckpoint) : RepairStore :=
  { store with checkpoints := store.checkpoints.put checkpoint }

/-- Clear the terminal result of a run. -/
def clearTerminal (store : RepairStore) (run : AnalysisRun) : RepairStore :=
  if run.candidateTerminal ≠ none then
    { store with runs := store.runs.put { run with candidateTerminal := none } }
  else store

/-- `_mark_dashboard_dirty_connection`. -/
def markDirty (store : RepairStore) (analysisId marker : String) : RepairStore :=
  { store with
    dashboard := store.dashboard.map fun rows => Function.update rows analysisId (some ⟨marker⟩) }

/-- Rewind the owners of dependent chaining results. -/
def rewind (store : RepairStore) (scope : ScopeKey) (owners : List String) : RepairStore :=
  owners.foldl (fun store owner => store.deleteStages scope.analysisId chainingDone owner) store

/-- Withdraw the descendants. -/
def withdraw (store : RepairStore) (scope : ScopeKey) (ids : List String) : RepairStore :=
  ids.foldl (fun store id => store.deleteHypothesis scope id) store

/-- Rewind the owners, withdraw the descendants, and reopen the repaired hypothesis. -/
def applyPlan (store : RepairStore) (scope : ScopeKey) (repaired : String) (plan : RepairPlan)
    (pending : StageCheckpoint) : RepairStore :=
  (((store.rewind scope plan.rewound).withdraw scope plan.withdrawn).deleteStages
    scope.analysisId proConDone repaired).putCheckpoint pending

end RepairStore

/-- The checkpoint that reopens the repaired hypothesis. -/
def StageCheckpoint.reopened (checkpoint : StageCheckpoint) (now : Nat) : StageCheckpoint :=
  { checkpoint with
    status := .pending
    outputRefs := []
    attemptId := none
    errorCode := none
    retryable := false
    updatedAt := now }

/-- The event of a repair. -/
def repairEvent (request : RepairRequest) : Except PyError AgentActivityEvent :=
  lifecycleEvent request.checkpoint .evidenceReviewed (stageSequence proConDone 88) .blocked
    "Pro/Con 근거 해시 오류로 후속 검증을 다시 시작합니다." (request.invalidRoles.map Prod.snd)
    (some "PRO_CON_LEGACY_EVIDENCE_REPAIRED")

/-! ## The repair -/

/-- The run of the repaired checkpoint, when the stored rows are those the caller saw. -/
def repairRun (checkpoint : StageCheckpoint) (store : RepairStore) :
    Except PyError AnalysisRun := do
  raiseIf (store.checkpoints.find checkpoint.key ≠ some checkpoint) repairStale
  let run ← required (store.runs.find checkpoint.identity.analysisId) repairStale
  raiseIf ((run.workspaceId, run.commitId) ≠
    (checkpoint.identity.workspaceId, checkpoint.identity.commitId)) repairStale
  pure run

/-- The statements of the repair of a hypothesis; `marker` is what `uuid4` answers. -/
def repairStatements (files : RepairFiles) (request : RepairRequest) (repaired : String)
    (now : Nat) (marker : String) : Prog RepairStore PyError Unit := do
  let stored ← Prog.look
  let run ← Prog.ofExcept (repairRun request.checkpoint stored)
  reviseRole request "pro"
  reviseRole request "con"
  let revised ← Prog.look
  let plan ← Prog.ofExcept (planRepair files request.checkpoint.identity repaired revised)
  Prog.change fun store => store.applyPlan request.checkpoint.identity.scopeKey repaired plan
    (request.checkpoint.reopened now)
  Prog.change fun store => store.clearTerminal run
  let event ← Prog.ofExcept (repairEvent request)
  let activity ← Prog.ofExcept (appendEvent revised.activity event)
  Prog.change fun store => { store with activity }
  Prog.change fun store => store.markDirty request.checkpoint.identity.analysisId marker

/-- `repair_legacy_pro_con_evidence`. -/
def repairLegacyProConEvidence (files : RepairFiles) (request : RepairRequest) (now : Nat)
    (marker : String) : Prog RepairStore PyError Bool :=
  match request.checkpoint.identity.hypothesisId with
  | none => Prog.exit repairInvalid
  | some repaired =>
      if ¬ request.Valid then Prog.exit repairInvalid
      else Prog.transaction do
        repairStatements files request repaired now marker
        pure true

end Sastsimi.Runtime
