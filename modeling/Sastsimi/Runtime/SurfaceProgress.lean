import Sastsimi.Runtime.Listing

/-!
# Surface exploration progress

`simple_surface_exploration_progress` and the operations that commit one context part with its
free hypotheses, replay a committed part, and list the progress of a scope.  A replay checks
each registered child against its seed: the inputs of its first stage are those of the seed, or
evolved from them by recoveries that the activity log records.
-/

namespace Sastsimi.Runtime

open SimpleStage Lib

variable [Platform]

/-! ## Committed parts -/

/-- One registration of a part: a free hypothesis with its pending first stage. -/
structure SurfaceRegistration where
  hypothesisId : String
  hypothesisRef : StoredDataRef
  checkpoint : StageCheckpoint
  deriving DecidableEq

/-- One context part, with the keyword arguments of `commit_surface_exploration`. -/
structure SurfacePart where
  surfaceId : String
  contextId : String
  staticBundleHash : String
  indexHash : String
  contextHash : String
  sourceSha256 : Option String
  status : String
  resultRef : StoredDataRef
  registrations : List SurfaceRegistration
  proposalVersion : Int := 1
  deriving DecidableEq

/-- The registration as stored, which leaves the time of its checkpoint out. -/
def SurfaceRegistration.recorded (registration : SurfaceRegistration) : SurfaceRegistration :=
  { registration with checkpoint := { registration.checkpoint with updatedAt := 0 } }

/-- The part as stored. -/
def SurfacePart.recorded (part : SurfacePart) : SurfacePart :=
  { part with registrations := part.registrations.map (·.recorded) }

/-- A row of `simple_surface_exploration_progress` of one scope. -/
structure SurfaceRow where
  scopeFingerprint : String
  part : SurfacePart

/-- The store of a scope with its surface progress. -/
structure SurfaceStore extends ScopeStore where
  progress : List SurfaceRow

/-- The row with a primary key. -/
def SurfaceStore.row (store : SurfaceStore) (scopeFingerprint surfaceId contextId : String) :
    Option SurfaceRow :=
  store.progress.find? fun row =>
    decide (row.scopeFingerprint = scopeFingerprint)
      && decide (row.part.surfaceId = surfaceId)
      && decide (row.part.contextId = contextId)

/-! ## Surroundings -/

/-- The fields of `SimpleAnalysisRun` that pin an enrichment plan. -/
structure SimpleAnalysisRun where
  workspaceId : String
  commitId : String
  candidateScopeFingerprint : Option String
  surfaceEnrichmentV8PlanRef : Option StoredDataRef
  surfaceEnrichmentV9PlanRef : Option StoredDataRef

/-- One expected part of an enrichment plan. -/
structure SurfacePlanPart where
  surfaceId : Option String
  contextId : Option String
  contextHash : Option String
  sourceSha256 : Option String

/-- An enrichment plan. -/
structure SurfacePlan where
  kind : Option String
  staticBundleHash : Option String
  indexHash : Option String
  expectedParts : List SurfacePlanPart

/-- What the artifact files of the scope hold. -/
structure SurfaceArtifacts where
  /-- The kind of a stored result document. -/
  resultKind : StoredDataRef → Except PyError (Option String)
  plan : StoredDataRef → Except PyError SurfacePlan

/-! ## Recovery lineage -/

/-- The events of one hypothesis, in insertion order. -/
def Database.hypothesisEvents (db : Database) (identity : CheckpointIdentity) :
    List AgentActivityEvent :=
  db.activity.filter fun event =>
    decide (event.analysisId = identity.analysisId)
      && decide (event.hypothesisId.getD "" = hypothesisKey identity)

/-- The stage with a stored spelling. -/
def SimpleStage.ofValue (text : String) : Option SimpleStage :=
  stageOrder.find? fun stage => decide (stage.value = text)

/-- An event that records the decision behind a recovery. -/
def AgentActivityEvent.decides (event : AgentActivityEvent) (decisionRef : StoredDataRef) :
    Bool :=
  decide (event.kind = .decisionRecorded)
    && decide (event.status = StageStatus.blocked.value)
    && decide (event.outputRefs = [decisionRef])

/-- An event that records a failed stage. -/
def AgentActivityEvent.isFailure (event : AgentActivityEvent) : Bool :=
  decide (event.kind = .stageBlocked) || decide (event.kind = .stageFailed)

/-- The failure a decision was made about. -/
def AgentActivityEvent.failedFor (failure decision : AgentActivityEvent) : Bool :=
  failure.isFailure
    && decide (failure.attemptId = decision.attemptId)
    && decide (failure.stage = decision.stage)
    && decide (failure.inputRefs = decision.inputRefs)
    && decide (failure.errorCode = decision.errorCode)

/-- The last failure a decision was made about. -/
def lastFailure (events : List AgentActivityEvent) (decision : AgentActivityEvent) :
    Option (AgentActivityEvent × Nat) :=
  events.zipIdx.reverse.find? fun failure => failure.1.failedFor decision

/-- A decision event with the failure before it. -/
structure DecidedFailure where
  decisionIndex : Nat
  failureIndex : Nat
  failure : AgentActivityEvent

/-- The first decision event from an index on that has a failure before it. -/
def findDecision (events : List AgentActivityEvent) (start : Nat)
    (decisionRef : StoredDataRef) : Option DecidedFailure :=
  events.zipIdx.findSome? fun decision =>
    if start ≤ decision.2 ∧ decision.1.decides decisionRef then
      (lastFailure (events.take decision.2) decision.1).map fun failure =>
        ⟨decision.2, failure.2, failure.1⟩
    else none

/-- The decisions matched so far: where the next one may be, the lineages of the failures, and
the last failure. -/
structure MatchedLineage where
  start : Nat := 0
  lineages : List String := []
  last : Option (Nat × AgentActivityEvent) := none

/-- Match one more decision reference. -/
def matchDecision (events : List AgentActivityEvent) (identity : CheckpointIdentity)
    (matched : MatchedLineage) (decisionRef : StoredDataRef) : Option MatchedLineage := do
  let found ← findDecision events matched.start decisionRef
  let stage ← SimpleStage.ofValue found.failure.stage
  pure
    { start := found.decisionIndex + 1
      lineages := matched.lineages ++
        [Platform.sha256 (.recoveryLineage identity stage.value stage.stageVersion
          (inputReferenceHash found.failure.inputRefs) found.failure.errorCode)]
      last := some (found.failureIndex, found.failure) }

/-- Match the decision references in order. -/
def matchDecisions (events : List AgentActivityEvent) (identity : CheckpointIdentity)
    (decisionRefs : List StoredDataRef) : Option MatchedLineage :=
  decisionRefs.foldlM (matchDecision events identity) {}

/-- The start of an attempt of the first stage. -/
def AgentActivityEvent.startsProCon (event : AgentActivityEvent) : Bool :=
  decide (event.stage = proConDone.value) && decide (event.kind = .stageStarted)

/-- The inputs of the attempt that failed: those of the last start of the first stage. -/
def originalInputs (events : List AgentActivityEvent) (seed : StageCheckpoint)
    (failureIndex : Nat) : List StoredDataRef :=
  let started := (events.take (failureIndex + 1)).reverse.find? (·.startsProCon)
  (started.map (·.inputRefs)).getD seed.inputRefs

/-- An event of the child in the workspace and commit of the scope. -/
def AgentActivityEvent.ownedBy (event : AgentActivityEvent) (identity : CheckpointIdentity) :
    Bool :=
  decide (event.workspaceId = identity.workspaceId)
    && decide (event.commitId = identity.commitId)
    && decide (event.hypothesisId = identity.hypothesisId)

/-- The part of `_surface_v4_child_inputs_bound` about evolved inputs. -/
def evolvedInputsBound (events : List AgentActivityEvent) (seed child : StageCheckpoint) :
    Bool :=
  match matchDecisions events child.identity child.recoveryDecisionRefs with
  | none => false
  | some matched =>
      match child.recoveryLineageId, matched.last with
      | some lineage, some (failureIndex, failure) =>
          decide (lineage ∈ matched.lineages)
            && decide (child.inputRefs =
              (originalInputs events seed failureIndex ++ failure.inputRefs
                ++ failure.outputRefs ++ child.recoveryDecisionRefs).eraseDups)
      | _, _ => false

/-- `_surface_v4_child_inputs_bound`, over the events of the child. -/
def surfaceV4ChildInputsBound (events : List AgentActivityEvent)
    (seed child : StageCheckpoint) : Bool :=
  if child.inputRefs = seed.inputRefs ∧ child.recoveryDecisionRefs = [] then true
  else if child.recoveryDecisionRefs = []
      ∨ textOr child.recoveryLineageId none = none
      ∨ ¬ child.recoveryDecisionRefs.Nodup
      ∨ child.inputRefs.take seed.inputRefs.length ≠ seed.inputRefs then
    false
  else if events.any fun event => !event.ownedBy child.identity then false
  else evolvedInputsBound events seed child

/-! ## Replay of one part -/

/-- `_candidate_ref_json` accepts the reference. -/
def isCandidateRef (scope : CheckpointIdentity) (ref : StoredDataRef) : Bool :=
  (candidateRef scope (some ref)).toBool

/-- The checks `_surface_registration_ids` makes on one registration. -/
def SurfaceRegistration.valid (registration : SurfaceRegistration)
    (scope : CheckpointIdentity) : Bool :=
  !isBlank registration.hypothesisId
    && isCandidateRef scope registration.hypothesisRef
    && decide (registration.checkpoint.identity = scope.child registration.hypothesisId)
    && decide (registration.checkpoint.stage = proConDone)
    && decide (registration.checkpoint.stageVersion = proConDone.stageVersion)
    && decide (registration.checkpoint.status = .pending)
    && decide (registration.checkpoint.inputRefs.head? = some registration.hypothesisRef)

/-- The statuses of a part. -/
def surfaceStatuses : List String :=
  ["HYPOTHESES", "NO_HYPOTHESIS", "INSUFFICIENT_EVIDENCE_FOR_HYPOTHESIS"]

/-- The status of a part says whether it has registrations. -/
def SurfacePart.statusInvalid (part : SurfacePart) : Bool :=
  decide (part.status ∉ surfaceStatuses)
    || decide (part.status = "HYPOTHESES") != !part.registrations.isEmpty

/-- `_surface_registration_ids`. -/
def surfaceRegistrationIds (scope : CheckpointIdentity) (part : SurfacePart) :
    Except PyError (List String) := do
  raiseIf
    (¬ part.registrations.all (·.valid scope)
      ∨ ¬ (part.registrations.map (·.hypothesisId)).Nodup
      ∨ part.statusInvalid)
    (.valueError "SURFACE_EXPLORATION_REGISTRATIONS_CORRUPT")
  pure (part.registrations.map (·.hypothesisId))

/-- The checks on one registered child. -/
def SurfaceRegistration.bound (registration : SurfaceRegistration) (db : Database)
    (table : HypothesisTable) (scope : CheckpointIdentity) (contextHash : String) : Bool :=
  let seed := registration.checkpoint
  let expectedIdentity := scope.child registration.hypothesisId
  match db.checkpoints (expectedIdentity.key proConDone),
      table.rows registration.hypothesisId with
  | some child, some row =>
      child.inputRefs.all (isCandidateRef scope)
        && decide (row.hypothesisRef = some registration.hypothesisRef)
        && decide (seed.identity = expectedIdentity)
        && decide (child.identity = expectedIdentity)
        && decide (seed.stage = proConDone)
        && decide (child.stage = proConDone)
        && decide (seed.stageVersion = proConDone.stageVersion)
        && decide (child.stageVersion = proConDone.stageVersion)
        && decide (seed.status = .pending)
        && decide (2 ≤ seed.inputRefs.length)
        && decide (seed.inputRefs.head? = some registration.hypothesisRef)
        && decide (seed.inputRefs[1]?.map (·.contentHash) = some contextHash)
        && decide (seed.inputHash = inputReferenceHash seed.inputRefs)
        && decide (child.inputHash = inputReferenceHash child.inputRefs)
        && surfaceV4ChildInputsBound (db.hypothesisEvents child.identity) seed child
  | _, _ => false

/-- The kind of the result document of a part. -/
def SurfacePart.resultKind (part : SurfacePart) : String :=
  "simple_surface_hypothesis_result_v" ++ toString part.proposalVersion

/-- The result document of a part is intact. -/
def SurfacePart.resultIntact (part : SurfacePart) (scope : CheckpointIdentity)
    (artifacts : SurfaceArtifacts) : Bool :=
  match artifacts.resultKind part.resultRef with
  | .ok kind => isCandidateRef scope part.resultRef && decide (kind = some part.resultKind)
  | .error _ => false

/-- `_assert_surface_v4_registration_connection`: every refusal raises the same error. -/
def assertSurfaceV4Registration (artifacts : SurfaceArtifacts) (db : Database)
    (table : HypothesisTable) (scope : CheckpointIdentity) (part : SurfacePart) :
    Except PyError Unit :=
  raiseIf
    (part.proposalVersion < 4
      ∨ 9 < part.proposalVersion
      ∨ ¬ part.resultIntact scope artifacts
      ∨ ¬ (surfaceRegistrationIds scope part).toBool
      ∨ ¬ part.registrations.all (·.bound db table scope part.contextHash))
    (.valueError ("SURFACE_EXPLORATION_V" ++ toString part.proposalVersion ++ "_CORRUPT"))

/-! ## Commit -/

/-- The argument checks of `commit_surface_exploration`. -/
def SurfacePart.invalid (part : SurfacePart) : Bool :=
  isBlank part.surfaceId
    || isBlank part.contextId
    || isBlank part.staticBundleHash
    || isBlank part.indexHash
    || isBlank part.contextHash
    || (part.sourceSha256.map isBlank).getD false
    || part.statusInvalid
    || decide (part.proposalVersion < 1 ∨ 9 < part.proposalVersion)
    || decide (¬ (part.registrations.map (·.hypothesisId)).Nodup)

/-- The version 9 plan expects exactly this part. -/
def SurfacePlan.expects (plan : SurfacePlan) (part : SurfacePart) : Bool :=
  decide (plan.kind = some "simple_surface_enrichment_plan_v9")
    && decide ((plan.expectedParts.countP fun expected =>
        decide (expected.surfaceId = some part.surfaceId)
          && decide (expected.contextId = some part.contextId)
          && decide (expected.contextHash = some part.contextHash)
          && decide (expected.sourceSha256 = part.sourceSha256)) = 1)
    && decide (plan.staticBundleHash = some part.staticBundleHash)
    && decide (plan.indexHash = some part.indexHash)

/-- Parts of versions 8 and 9 are committed only under the plan the run pins. -/
def checkPinned (artifacts : SurfaceArtifacts) (run : Option SimpleAnalysisRun)
    (scope : CheckpointIdentity) (scopeFingerprint : String) (part : SurfacePart) :
    Except PyError Unit :=
  if part.proposalVersion ≠ 8 ∧ part.proposalVersion ≠ 9 then .ok ()
  else
    let unpinned : PyError :=
      .valueError
        (if part.proposalVersion = 8 then "SURFACE_EXPLORATION_V8_UNPINNED"
        else "SURFACE_EXPLORATION_V9_UNPINNED")
    match run with
    | none => .error unpinned
    | some run => do
        raiseIf
          (run.workspaceId ≠ scope.workspaceId
            ∨ run.commitId ≠ scope.commitId
            ∨ run.candidateScopeFingerprint ≠ some scopeFingerprint
            ∨ part.proposalVersion = 8 ∧ run.surfaceEnrichmentV8PlanRef = none)
          unpinned
        if part.proposalVersion = 9 then
          match run.surfaceEnrichmentV9PlanRef with
          | none => .error unpinned
          | some planRef =>
              let expects : Bool :=
                match artifacts.plan planRef with
                | .ok plan => plan.expects part
                | .error _ => false
              raiseIf (¬ expects) (.valueError "SURFACE_EXPLORATION_V9_PLAN_MISMATCH")
        else pure ()

/-- Register the hypotheses of a part in order. -/
def registerParts (scope : CheckpointIdentity) :
    List SurfaceRegistration → Database → HypothesisTable →
      Except PyError (Database × HypothesisTable)
  | [], db, table => .ok (db, table)
  | registration :: rest, db, table => do
      let registered ← registerFreeHypothesis db table scope registration.hypothesisId
        registration.hypothesisRef registration.checkpoint 0 []
      registerParts scope rest registered.1 registered.2

/-- `commit_surface_exploration`. -/
def commitSurfaceExploration (artifacts : SurfaceArtifacts) (run : Option SimpleAnalysisRun)
    (store : SurfaceStore) (scope : CheckpointIdentity) (scopeFingerprint : String)
    (part : SurfacePart) : Except PyError (Bool × SurfaceStore) := do
  raiseIf (scope.hypothesisId ≠ none ∨ isBlank scopeFingerprint)
    (.valueError "CANDIDATE_SCOPE_INVALID")
  let _ ← candidateRef scope (some part.resultRef)
  raiseIf part.invalid (.valueError "SURFACE_EXPLORATION_INVALID")
  raiseIf (¬ part.registrations.all fun registration =>
      isCandidateRef scope registration.hypothesisRef)
    (.valueError "CANDIDATE_REF_SCOPE_MISMATCH")
  checkPinned artifacts run scope scopeFingerprint part
  match store.row scopeFingerprint part.surfaceId part.contextId with
  | some prior => do
      if 4 ≤ prior.part.proposalVersion then
        assertSurfaceV4Registration artifacts store.world.db store.table scope prior.part
      raiseIf (prior.part ≠ part.recorded) (.valueError "SURFACE_EXPLORATION_CONFLICT")
      pure (false, store)
  | none => do
      let registered ← registerParts scope part.registrations store.world.db store.table
      pure (true,
        { world := { store.world with db := registered.1 }
          table := registered.2
          progress := store.progress ++ [⟨scopeFingerprint, part.recorded⟩] })

/-! ## Listing -/

/-- `SurfaceExplorationProgressRecord`. -/
structure SurfaceExplorationProgressRecord where
  surfaceId : String
  contextId : String
  staticBundleHash : String
  indexHash : String
  contextHash : String
  sourceSha256 : Option String
  status : String
  resultRef : StoredDataRef
  hypothesisIds : List String
  proposalVersion : Int
  deriving DecidableEq

/-- The record of a part with its registered hypotheses. -/
def SurfacePart.record (part : SurfacePart) (hypothesisIds : List String) :
    SurfaceExplorationProgressRecord :=
  { surfaceId := part.surfaceId
    contextId := part.contextId
    staticBundleHash := part.staticBundleHash
    indexHash := part.indexHash
    contextHash := part.contextHash
    sourceSha256 := part.sourceSha256
    status := part.status
    resultRef := part.resultRef
    hypothesisIds
    proposalVersion := part.proposalVersion }

/-- The record of one row, when the row is not corrupt. -/
def surfaceRecord (artifacts : SurfaceArtifacts) (store : SurfaceStore)
    (scope : CheckpointIdentity) (part : SurfacePart) :
    Except PyError SurfaceExplorationProgressRecord := do
  raiseIf (part.proposalVersion < 1 ∨ 9 < part.proposalVersion)
    (.valueError "SURFACE_EXPLORATION_VERSION_CORRUPT")
  if 4 ≤ part.proposalVersion then
    assertSurfaceV4Registration artifacts store.world.db store.table scope part
  let hypothesisIds ← surfaceRegistrationIds scope part
  pure (part.record hypothesisIds)

/-- `list_surface_exploration_progress`. -/
def listSurfaceExplorationProgress (artifacts : SurfaceArtifacts) (store : SurfaceStore)
    (scope : CheckpointIdentity) (scopeFingerprint : String) :
    Except PyError (List SurfaceExplorationProgressRecord) := do
  raiseIf (scope.hypothesisId ≠ none ∨ isBlank scopeFingerprint)
    (.valueError "CANDIDATE_SCOPE_INVALID")
  (store.progress.filter fun row => decide (row.scopeFingerprint = scopeFingerprint)).mapM
    fun row => surfaceRecord artifacts store scope row.part

end Sastsimi.Runtime
