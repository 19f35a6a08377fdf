import Sastsimi.Lib.Json
import Sastsimi.Lib.Program
import Sastsimi.Lib.Transaction
import Sastsimi.Runtime.CandidateBatch

/-!
# The replay of a surface hold

`prepare_surface_hold_replay` records one review of a terminal `HOLD`, or reopens the stage that
its evidence allows to run again.  What it reads before its transaction (the run, the
registration, the files) may be older than the tables the transaction runs on.

A column that holds JSON text is the value that was encoded.
-/

namespace Sastsimi.Runtime

open SimpleStage Lib

variable [Platform]

/-! ## Decisions -/

/-- `ReplayAction`. -/
inductive ReplayAction where
  | replayInitialOnce
  | regeneratePocOnce
  | reexecutePocOnce
  | keepHold
  deriving DecidableEq

/-- `replay_stages`. -/
def ReplayAction.replayStage : ReplayAction → Option SimpleStage
  | replayInitialOnce => some verificationInitialDone
  | regeneratePocOnce => some pocCandidateDone
  | reexecutePocOnce => some pocExecutionDone
  | keepHold => none

/-- `HoldReplayDecision`. -/
structure HoldReplayDecision where
  action : ReplayAction
  restartStage : Option SimpleStage
  evidenceRefs : List StoredDataRef
  reason : String
  checkpointSha256 : String
  deriving DecidableEq

/-- The references of a review. -/
structure ReviewRefs where
  planRef : StoredDataRef
  contextRef : StoredDataRef
  resultRef : StoredDataRef
  deriving DecidableEq

/-- The digests a replay compares and stores: SHA-256 over the canonical bytes of a checkpoint,
and of a decision with the references of its review. -/
class HoldDigests where
  checkpointSha256 : StageCheckpoint → String
  decisionHash : HoldReplayDecision → Option ReviewRefs → String

/-! ## The tables -/

/-- The fields of `SimpleAnalysisRun` that a replay reads. -/
structure HoldRun where
  workspaceId : String
  commitId : String
  candidatePipelineVersion : Option Int
  hypothesisIds : List String
  workspacePath : Option String
  surfaceEnrichmentPlanRef : Option StoredDataRef
  surfaceEnrichmentV5PlanRef : Option StoredDataRef
  pythonScopeCertificateRef : Option StoredDataRef
  candidateScopeFingerprint : Option String
  candidateTerminal : Option String
  deriving DecidableEq

/-- The primary key of `simple_surface_exploration_progress`. -/
structure ProgressKey where
  scope : ScopeKey
  scopeFingerprint : String
  surfaceId : String
  contextId : String
  deriving DecidableEq

/-- The other columns of a row of `simple_surface_exploration_progress`. -/
structure HoldProgress where
  staticBundleHash : String
  indexHash : String
  contextHash : String
  sourceSha256 : Option String
  status : String
  proposalVersion : Int
  resultRef : StoredDataRef

/-- The child a marker is about: analysis, hypothesis and stage. -/
structure HoldChild where
  analysisId : String
  hypothesisKey : String
  childStage : SimpleStage
  deriving DecidableEq

/-- A row of `simple_surface_hold_replay_markers`. -/
structure HoldMarker where
  child : HoldChild
  workspaceId : String
  commitId : String
  decisionHash : String
  action : ReplayAction
  restartStage : Option SimpleStage
  oldCheckpointSha256 : String
  oldCheckpointRef : StoredDataRef
  markerRef : StoredDataRef
  evidenceRefs : List StoredDataRef
  createdAt : Nat

namespace HoldMarker

/-- The primary key of a marker. -/
def key (marker : HoldMarker) : HoldChild × String := (marker.child, marker.decisionHash)

/-- The partial index is over markers of other actions than `KEEP_HOLD`. -/
def isReplay (marker : HoldMarker) : Bool := marker.action ≠ .keepHold

end HoldMarker

/-- The markers, with the primary key and the index `idx_surface_hold_one_replay_per_child`. -/
structure HoldMarkers where
  rows : List HoldMarker
  keys : (rows.map HoldMarker.key).Nodup
  oneReplay : ((rows.filter HoldMarker.isReplay).map HoldMarker.child).Nodup

namespace HoldMarkers

/-- A marker of a child with an action other than `KEEP_HOLD`. -/
def replayOf (markers : HoldMarkers) (child : HoldChild) : Option HoldMarker :=
  markers.rows.find? fun marker => marker.isReplay && marker.child = child

/-- A row that a uniqueness constraint keeps from being inserted. -/
def Conflicts (markers : HoldMarkers) (marker : HoldMarker) : Prop :=
  marker.key ∈ markers.rows.map HoldMarker.key
    ∨ marker.isReplay = true
      ∧ marker.child ∈ (markers.rows.filter HoldMarker.isReplay).map HoldMarker.child

instance (markers : HoldMarkers) (marker : HoldMarker) : Decidable (markers.Conflicts marker) :=
  inferInstanceAs (Decidable (_ ∨ _ ∧ _))

/-- `INSERT OR IGNORE`, with the number of inserted rows. -/
def insertOrIgnore (markers : HoldMarkers) (marker : HoldMarker) : Option HoldMarkers :=
  if conflict : markers.Conflicts marker then none
  else
    some
      { rows := markers.rows ++ [marker]
        keys := by
          rw [List.map_append, List.map_singleton, List.nodup_append]
          refine ⟨markers.keys, by simp, ?_⟩
          intro left member right last same
          rw [List.mem_singleton] at last
          exact conflict (.inl (last ▸ same ▸ member))
        oneReplay := by
          rw [List.filter_append, List.map_append, List.nodup_append]
          refine ⟨markers.oneReplay, ?_, ?_⟩
          · exact (List.nodup_singleton marker.child).sublist
              (List.filter_sublist.map HoldMarker.child)
          · intro left member right last same
            obtain ⟨other, chosen, rfl⟩ := List.mem_map.1 last
            obtain ⟨single, replay⟩ := List.mem_filter.1 chosen
            rw [List.mem_singleton] at single
            subst single
            exact conflict (.inr ⟨replay, same ▸ member⟩) }

end HoldMarkers

/-- The tables a replay reads and writes. -/
structure HoldStore where
  db : Database
  runs : String → Option HoldRun
  hypotheses : ScopeKey → HypothesisTable
  progress : ProgressKey → Option HoldProgress
  markers : HoldMarkers
  dashboard : Option (String → Option DashboardMark)

/-! ## Files -/

/-- A document that a replay writes. -/
inductive HoldDocument where
  | oldRestart (checkpoint : StageCheckpoint) (checkpointSha256 : String)
  | oldCheckpoint (checkpoint : StageCheckpoint) (checkpointSha256 : String)
  | marker (identity : CheckpointIdentity) (childStage : SimpleStage)
      (restartStage : Option SimpleStage) (oldCheckpointRef : StoredDataRef)
      (oldRestartRef : Option StoredDataRef) (planRef : StoredDataRef)
      (review : Option ReviewRefs) (decision : HoldReplayDecision) (decisionHash : String)

/-- A document that was read, and whether its bytes are the canonical ones of its value. -/
structure ReadDocument where
  value : Json
  canonical : Bool

/-- The artifact repository of a call: which identity and database it is for, what it reads and
writes, and how the saved proof is classified (`classify_hold_replay`, which reads only
files). -/
structure HoldFiles where
  identity : CheckpointIdentity
  sameDatabase : Bool
  readBounded : StoredDataRef → Nat → Except PyError ReadDocument
  put : HoldDocument → Except PyError StoredDataRef
  classify : HoldRun → StageCheckpoint → StoredDataRef → Except PyError HoldReplayDecision
  isAbsolute : String → Bool

/-! ## Errors -/

def replayInvalid : PyError := .valueError "SURFACE_HOLD_REPLAY_INVALID"

def reviewUnverified : PyError := .valueError "SURFACE_HOLD_REVIEW_UNVERIFIED"

def planMissing : PyError := .valueError "SURFACE_HOLD_REPLAY_PLAN_MISSING"

def replayProofInvalid : PyError := .valueError "SURFACE_HOLD_REPLAY_PROOF_INVALID"

def replayStale : PyError := .valueError "SURFACE_HOLD_REPLAY_STALE"

def replayAlreadyUsed : PyError := .valueError "SURFACE_HOLD_REPLAY_ALREADY_USED"

def lineageInvalid : PyError := .valueError "SURFACE_HOLD_REPLAY_LINEAGE_INVALID"

/-- `except (KeyError, OSError, TypeError, ValueError, UnicodeError, sqlite3.Error)`. -/
def PyError.isReadError : PyError → Bool
  | .valueError _ | .lookupError _ | .osError | .sqliteError => true
  | .runtimeError text => text = "TypeError"

/-- Raise another exception for one that is caught. -/
def reraise {α : Type} (replacement : PyError) (result : Except PyError α) : Except PyError α :=
  result.mapError fun reason => if reason.isReadError then replacement else reason

/-! ## The request -/

/-- The arguments of a call. -/
structure HoldRequest where
  child : StageCheckpoint
  decision : HoldReplayDecision
  reviewPlanRef : Option StoredDataRef
  reviewContextRef : Option StoredDataRef
  reviewResultRef : Option StoredDataRef
  failBeforeCommit : Bool

namespace HoldRequest

/-- The review of a call that names all three references. -/
def review (request : HoldRequest) : Option ReviewRefs :=
  match request.reviewPlanRef, request.reviewContextRef, request.reviewResultRef with
  | some planRef, some contextRef, some resultRef => some ⟨planRef, contextRef, resultRef⟩
  | _, _, _ => none

/-- The child whose markers a call reads. -/
def holdChild (request : HoldRequest) : HoldChild :=
  ⟨request.child.identity.analysisId, hypothesisKey request.child.identity, request.child.stage⟩

end HoldRequest

/-- `[A-Z][A-Z0-9_]{0,95}`. -/
def reasonMatches (reason : String) : Bool :=
  match reason.toList with
  | [] => false
  | first :: rest =>
      first.isUpper && decide (rest.length ≤ 95)
        && rest.all fun letter => letter.isUpper || letter.isDigit || letter = '_'

variable [HoldDigests]

/-- The hash a call stores: a review is hashed with its references. -/
def HoldRequest.decisionHash (request : HoldRequest) : String :=
  HoldDigests.decisionHash request.decision
    (if request.decision.action = .keepHold then request.review else none)

/-- The checks on the arguments. -/
def checkRequest (files : HoldFiles) (request : HoldRequest) : Except PyError Unit := do
  raiseIf
    (request.child.identity.hypothesisId = none
      ∨ request.child.status ≠ .succeeded
      ∨ request.child.verdict ≠ some .hold
      ∨ request.child.stage ∉ [verificationInitialDone, pocExecutionDone]
      ∨ request.child.stageVersion ≠ request.child.stage.stageVersion
      ∨ files.identity ≠ request.child.identity
      ∨ ¬ files.sameDatabase
      ∨ request.decision.checkpointSha256 ≠ HoldDigests.checkpointSha256 request.child
      ∨ ¬ reasonMatches request.decision.reason)
    replayInvalid
  if request.decision.action = .keepHold then
    raiseIf
      (request.decision.restartStage ≠ none
        ∨ request.decision.evidenceRefs ≠ []
        ∨ request.review = none)
      reviewUnverified
  else
    raiseIf
      (request.reviewPlanRef ≠ none ∨ request.reviewContextRef ≠ none
        ∨ request.reviewResultRef ≠ none)
      replayInvalid
    raiseIf
      (request.decision.action.replayStage ≠ request.decision.restartStage
        ∨ request.decision.reason ≠ "SOURCE_BOUND_REPLAY_ELIGIBLE"
        ∨ request.decision.evidenceRefs = []
        ∨ 16 < request.decision.evidenceRefs.length
        ∨ ¬ request.decision.evidenceRefs.Nodup)
      replayInvalid

/-! ## The pinned plan -/

/-- `document.get(key)`. -/
def field (document : Json) (key : String) : Json := document.getD key .null

/-- A document that spells out a reference. -/
def spells (document : Json) (ref : StoredDataRef) : Bool :=
  match document with
  | .obj fields =>
      decide (fields.length = 6)
        && fields.lookup "stored_data_id" == some (.str ref.storedDataId)
        && fields.lookup "data_kind" == some (.str ref.dataKind)
        && fields.lookup "content_hash" == some (.str ref.contentHash)
        && fields.lookup "workspace_id" == some (.str ref.workspaceId)
        && fields.lookup "commit_id" == some (.str ref.commitId)
        && fields.lookup "record_id" == some ((ref.recordId.map Json.str).getD .null)
  | _ => false

/-- The plan that a run pins for a hypothesis. -/
def HoldRun.pinnedPlan (run : HoldRun) (files : HoldFiles) (identity : CheckpointIdentity)
    (registered : Bool) : Option StoredDataRef :=
  if run.workspaceId = identity.workspaceId
      ∧ run.commitId = identity.commitId
      ∧ run.candidatePipelineVersion = some 2
      ∧ ((∃ id ∈ run.hypothesisIds, identity.hypothesisId = some id) ∨ registered)
      ∧ (run.workspacePath.any files.isAbsolute)
      ∧ run.surfaceEnrichmentPlanRef ≠ none
      ∧ run.pythonScopeCertificateRef ≠ none
      ∧ run.candidateScopeFingerprint ≠ none then
    run.surfaceEnrichmentV5PlanRef
  else none

/-- The checks on the saved plan. -/
def planMatches (run : HoldRun) (identity : CheckpointIdentity) (plan : Json) : Bool :=
  plan.isObj
    && field plan "kind" == .str "simple_surface_enrichment_plan_v5"
    && field plan "analysis_id" == .str identity.analysisId
    && field plan "workspace_id" == .str identity.workspaceId
    && field plan "commit_id" == .str identity.commitId
    && field plan "scope_fingerprint" == ((run.candidateScopeFingerprint.map Json.str).getD .null)
    && (match run.surfaceEnrichmentPlanRef with
        | none => false
        | some ref =>
            spells (field plan "v4_plan_ref") ref
              && field plan "v4_plan_hash" == .str ref.contentHash)
    && (field plan "expected_parts").arr?.isSome
    && (field plan "targets").arr?.isSome
    && (field plan "target_surface_ids").arr?.isSome

/-- The pinned plan of a run, with its reference. -/
def loadPlan (files : HoldFiles) (identity : CheckpointIdentity) (registered : Bool)
    (run : HoldRun) : Except PyError (StoredDataRef × Json) := do
  let planRef ← required (run.pinnedPlan files identity registered) planMissing
  let document ← reraise planMissing (files.readBounded planRef 1048576)
  raiseIf (¬ planMatches run identity document.value) planMissing
  pure (planRef, document.value)

/-! ## The review -/

/-- A reviewed part of the plan. -/
structure ReviewedPart where
  surfaceId : String
  contextId : String
  sourceSha256 : Json
  status : Json

/-- The items of a list field. -/
def items (document : Json) (key : String) : List Json :=
  ((field document key).arr?).getD []

/-- The context of a review is the one the plan expects. -/
def contextMatches (run : HoldRun) (identity : CheckpointIdentity) (review : ReviewRefs)
    (plan part target context : Json) (surfaceId : String) : Bool :=
  field context "kind" == .str "simple_surface_context_v5"
    && field context "analysis_id" == .str identity.analysisId
    && field context "workspace_id" == .str identity.workspaceId
    && field context "commit_id" == .str identity.commitId
    && field context "scope_fingerprint"
      == ((run.candidateScopeFingerprint.map Json.str).getD .null)
    && field context "static_bundle_hash" == field plan "static_bundle_hash"
    && field context "surface_index_hash" == field plan "index_hash"
    && field context "surface_id" == .str surfaceId
    && field context "source_sha256" == field part "source_sha256"
    && field context "graph_hash" == field target "graph_hash"
    && field context "plan_binding_hash" == field plan "plan_binding_hash"
    && field context "part_index" == field part "part_index"
    && field context "part_count" == field part "part_count"
    && (.str review.contextRef.contentHash) == field part "context_hash"

/-- The result of a review is a valid one for the context. -/
def resultMatches (identity : CheckpointIdentity) (review : ReviewRefs)
    (plan part target result : Json) : Bool :=
  field result "kind" == .str "simple_surface_hypothesis_result_v5"
    && field result "analysis_id" == .str identity.analysisId
    && field result "context_hash" == .str review.contextRef.contentHash
    && field result "part_index" == field part "part_index"
    && field result "part_count" == field part "part_count"
    && field result "static_bundle_hash" == field plan "static_bundle_hash"
    && field result "graph_hash" == field target "graph_hash"
    && field result "validation_status" == .str "VALID"
    && ["HYPOTHESES", "NO_HYPOTHESIS", "INSUFFICIENT_EVIDENCE_FOR_HYPOTHESIS"].any
      (fun status => field result "status" == .str status)
    && (field result "seed_ids").arr?.isSome
    && (field result "response").isObj

/-- The part a review is about, when the plan pins the child and expects exactly one such
part and one such target. -/
def reviewedPart (run : HoldRun) (identity : CheckpointIdentity) (review : ReviewRefs)
    (plan context result : Json) : Option ReviewedPart :=
  match field result "surface_id", field result "context_id" with
  | .str surfaceId, .str contextId =>
      match
        (items plan "expected_parts").filter fun part =>
          part.isObj && field part "surface_id" == .str surfaceId
            && field part "context_id" == .str contextId,
        (items plan "targets").filter fun target =>
          target.isObj && field target "surface_id" == .str surfaceId with
      | [part], [target] =>
          if surfaceId ≠ "" ∧ contextId ≠ ""
              ∧ (items plan "target_surface_ids").any (· == .str surfaceId)
              ∧ contextMatches run identity review plan part target context surfaceId
              ∧ resultMatches identity review plan part target result then
            some ⟨surfaceId, contextId, field context "source_sha256", field result "status"⟩
          else none
      | _, _ => none
  | _, _ => none

/-- The plan lists the child. -/
def pinsChild (plan : Json) (identity : CheckpointIdentity) : Bool :=
  match field plan "child_checkpoint_hashes", identity.hypothesisId with
  | .obj children, some hypothesis => (children.lookup hypothesis).isSome
  | _, _ => false

/-- The checks of a review before the transaction. -/
def verifyReview (files : HoldFiles) (run : HoldRun) (identity : CheckpointIdentity)
    (planRef : StoredDataRef) (plan : Json) (review : ReviewRefs) :
    Except PyError ReviewedPart := do
  let _ ← reraise reviewUnverified
    ([review.planRef, review.contextRef, review.resultRef].mapM fun ref =>
      candidateRef identity (some ref))
  raiseIf (review.planRef ≠ planRef) reviewUnverified
  raiseIf (¬ pinsChild plan identity) reviewUnverified
  let context ← reraise reviewUnverified (files.readBounded review.contextRef 262144)
  let result ← reraise reviewUnverified (files.readBounded review.resultRef 1048576)
  raiseIf
    (¬ context.value.isObj ∨ ¬ result.value.isObj ∨ ¬ context.canonical ∨ ¬ result.canonical)
    reviewUnverified
  required (reviewedPart run identity review plan context.value result.value) reviewUnverified

/-- Check the references of the evidence, and find those that are replay proofs. -/
def findProofs (files : HoldFiles) (identity : CheckpointIdentity) :
    List StoredDataRef → Except PyError (List StoredDataRef)
  | [] => .ok []
  | ref :: rest => do
      raiseIf (ref.workspaceId ≠ identity.workspaceId ∨ ref.commitId ≠ identity.commitId)
        replayProofInvalid
      match files.readBounded ref 65536 with
      | .error reason => do
          raiseIf (¬ reason.isReadError) reason
          findProofs files identity rest
      | .ok document => do
          let proofs ← findProofs files identity rest
          pure
            (if field document.value "kind" == .str "simple_surface_hold_replay_proof_v1" then
              ref :: proofs
            else proofs)

/-- What a call holds when its transaction begins. -/
structure HoldCase where
  run : HoldRun
  planRef : StoredDataRef
  plan : Json
  reviewed : Option (ReviewRefs × ReviewedPart)
  proofRef : Option StoredDataRef

/-- Everything a call does before its transaction, on the tables as it read them. -/
def openCase (files : HoldFiles) (request : HoldRequest) (read : HoldStore) :
    Except PyError HoldCase := do
  checkRequest files request
  let identity := request.child.identity
  let run ← required (read.runs identity.analysisId) planMissing
  let registered :=
    (identity.hypothesisId.bind (read.hypotheses identity.scopeKey).rows).isSome
  let (planRef, plan) ← loadPlan files identity registered run
  match request.decision.action, request.review with
  | .keepHold, some review => do
      let part ← verifyReview files run identity planRef plan review
      pure ⟨run, planRef, plan, some (review, part), none⟩
  | .keepHold, none => .error reviewUnverified
  | _, _ => do
      let proofs ← findProofs files identity request.decision.evidenceRefs
      match proofs with
      | [proofRef] => pure ⟨run, planRef, plan, none, some proofRef⟩
      | _ => .error replayProofInvalid

/-! ## The transaction -/

/-- The tables still hold the run that was read and the child of the call. -/
def checkLive (request : HoldRequest) (case : HoldCase) (store : HoldStore) :
    Except PyError Unit :=
  raiseIf
    (store.runs request.child.identity.analysisId ≠ some case.run
      ∨ store.db.checkpoints (request.child.identity.key request.child.stage)
        ≠ some request.child)
    replayStale

/-- The stored progress of the reviewed part is that of the review. -/
def progressMatches (case : HoldCase) (review : ReviewRefs) (part : ReviewedPart)
    (progress : HoldProgress) : Bool :=
  decide (progress.proposalVersion = 5)
    && .str progress.staticBundleHash == field case.plan "static_bundle_hash"
    && .str progress.indexHash == field case.plan "index_hash"
    && decide (progress.contextHash = review.contextRef.contentHash)
    && (progress.sourceSha256.map Json.str).getD .null == part.sourceSha256
    && .str progress.status == part.status
    && decide (progress.resultRef = review.resultRef)

/-- A review must be the stored progress of its part. -/
def checkProgress (request : HoldRequest) (case : HoldCase) (store : HoldStore) :
    Except PyError Unit :=
  match case.reviewed with
  | none => .ok ()
  | some (review, part) =>
      let key : ProgressKey :=
        ⟨request.child.identity.scopeKey, case.run.candidateScopeFingerprint.getD "",
          part.surfaceId, part.contextId⟩
      raiseIf (¬ (store.progress key).any (progressMatches case review part)) reviewUnverified

/-- A replay must be the one its proof is classified as. -/
def checkProof (files : HoldFiles) (request : HoldRequest) (case : HoldCase) :
    Except PyError Unit :=
  match case.proofRef with
  | none => .ok ()
  | some proofRef => do
      let expected ← files.classify case.run request.child proofRef
      raiseIf (expected ≠ request.decision) replayProofInvalid

/-- A succeeded candidate whose outputs are inputs of the child. -/
def Feeds (candidate child : StageCheckpoint) : Prop :=
  candidate.identity = child.identity
    ∧ candidate.stageVersion = pocCandidateDone.stageVersion
    ∧ candidate.status = .succeeded
    ∧ candidate.outputRefs ≠ []
    ∧ ∀ ref ∈ candidate.outputRefs, ref ∈ child.inputRefs

omit [HoldDigests] in
instance (candidate child : StageCheckpoint) : Decidable (Feeds candidate child) :=
  inferInstanceAs (Decidable (_ ∧ _ ∧ _ ∧ _ ∧ _))

/-- The checkpoint that a replay reopens, and the document that keeps a regenerated candidate. -/
def replayTarget (files : HoldFiles) (request : HoldRequest) (store : HoldStore) :
    Except PyError (StageCheckpoint × Option StoredDataRef) :=
  match request.decision.action with
  | .regeneratePocOnce => do
      let target ← required
        (store.db.checkpoints (request.child.identity.key pocCandidateDone)) lineageInvalid
      raiseIf (¬ Feeds target request.child) lineageInvalid
      let kept ← files.put (.oldRestart target (HoldDigests.checkpointSha256 target))
      pure (target, some kept)
  | .reexecutePocOnce => do
      let candidate ← required
        (store.db.checkpoints (request.child.identity.key pocCandidateDone)) lineageInvalid
      raiseIf (¬ Feeds candidate request.child) lineageInvalid
      pure (request.child, none)
  | _ => .ok (request.child, none)

/-- No later stage of the child is stored. -/
def checkDownstream (request : HoldRequest) (store : HoldStore) : Except PyError Unit :=
  raiseIf
    (∃ stage ∈ stageOrder, request.child.stage.index < stage.index
      ∧ store.db.checkpoints (request.child.identity.key stage) ≠ none)
    lineageInvalid

/-- What a call writes once its checks have passed. -/
structure PreparedReplay where
  target : StageCheckpoint
  oldCheckpointRef : StoredDataRef
  markerRef : StoredDataRef

/-- The checks of the transaction, and the documents it writes. -/
def prepareReplay (files : HoldFiles) (request : HoldRequest) (case : HoldCase)
    (store : HoldStore) : Except PyError PreparedReplay := do
  checkLive request case store
  checkProgress request case store
  raiseIf ((store.markers.replayOf request.holdChild).isSome) replayAlreadyUsed
  checkProof files request case
  let (target, oldRestartRef) ← replayTarget files request store
  checkDownstream request store
  let oldCheckpointRef ← files.put
    (.oldCheckpoint request.child (HoldDigests.checkpointSha256 request.child))
  let markerRef ← files.put
    (.marker request.child.identity request.child.stage request.decision.restartStage
      oldCheckpointRef oldRestartRef case.planRef request.review request.decision
      request.decisionHash)
  pure ⟨target, oldCheckpointRef, markerRef⟩

/-- The marker of a call. -/
def HoldRequest.marker (request : HoldRequest) (prepared : PreparedReplay) (now : Nat) :
    HoldMarker :=
  { child := request.holdChild
    workspaceId := request.child.identity.workspaceId
    commitId := request.child.identity.commitId
    decisionHash := request.decisionHash
    action := request.decision.action
    restartStage := request.decision.restartStage
    oldCheckpointSha256 := HoldDigests.checkpointSha256 request.child
    oldCheckpointRef := prepared.oldCheckpointRef
    markerRef := prepared.markerRef
    evidenceRefs := request.decision.evidenceRefs
    createdAt := now }

/-- The event of a recorded decision. -/
def holdEvent (request : HoldRequest) (prepared : PreparedReplay) :
    Except PyError AgentActivityEvent :=
  let audit : StageCheckpoint :=
    { request.child with attemptId := some ("surface-hold-v5-" ++ request.decisionHash.take 16) }
  let kept := request.decision.action = .keepHold
  lifecycleEvent audit .decisionRecorded (stageSequence request.child.stage 120) .succeeded
    (if kept then "검증된 근거가 없어 기존 HOLD 판정을 유지합니다."
    else "고정된 근거로 HOLD 단계의 단일 재실행을 준비합니다.")
    [prepared.oldCheckpointRef, prepared.markerRef]
    (some (if kept then "SURFACE_HOLD_KEPT" else "SURFACE_HOLD_REPLAY_PREPARED"))

/-- The checkpoint that a replay reopens its stage with. -/
def replayPending (prepared : PreparedReplay) (now : Nat) : StageCheckpoint :=
  { prepared.target with
    status := .pending
    inputRefs := (prepared.target.inputRefs ++ [prepared.markerRef]).eraseDups
    inputHash := inputReferenceHash (prepared.target.inputRefs ++ [prepared.markerRef]).eraseDups
    inputHashExact := rfl
    outputRefs := []
    attemptId := none
    pocStopDecisionRef := none
    externalPrerequisitesRef := none
    environmentBlockRef := none
    containerId := none
    validatedPocRef := none
    reportRef := none
    bundleManifestRef := none
    bundleArchiveRef := none
    verdict := none
    gateDecision := none
    errorCode := none
    retryable := false
    markdownPath := none
    updatedAt := now }

/-- Delete the stored checkpoint of one stage. -/
def Database.deleteStage (db : Database) (identity : CheckpointIdentity) (stage : SimpleStage) :
    Database :=
  { db with
    checkpoints := Function.update db.checkpoints (identity.key stage) none
    keyed := by
      intro key checkpoint found
      rw [Function.update_apply] at found
      split at found
      · cases found
      · exact db.keyed key checkpoint found }

namespace HoldStore

/-- Insert a marker, its event and the mark of the dashboard. -/
def recordMarker (store : HoldStore) (markers : HoldMarkers)
    (activity : List AgentActivityEvent) (analysisId mark : String) : HoldStore :=
  { store with
    db := { store.db with activity }
    markers
    dashboard := store.dashboard.map fun rows => Function.update rows analysisId (some ⟨mark⟩) }

/-- Clear the terminal result of a run. -/
def clearRunTerminal (store : HoldStore) (analysisId : String) (run : HoldRun) : HoldStore :=
  if run.candidateTerminal ≠ none then
    { store with
      runs := Function.update store.runs analysisId (some { run with candidateTerminal := none }) }
  else store

/-- Reopen the target of a replay, drop the child when it is another stage, and clear the
terminal result.  The conditions of these updates repeat what the transaction has read. -/
def reopen (store : HoldStore) (request : HoldRequest) (case : HoldCase)
    (target pending : StageCheckpoint) : HoldStore :=
  let reopened := store.db.upsertCheckpoint pending
  let db :=
    if target.stage ≠ request.child.stage then
      reopened.deleteStage request.child.identity request.child.stage
    else reopened
  { store with db }.clearRunTerminal request.child.identity.analysisId case.run

end HoldStore

/-- Record the decision: the marker with its event, unless the marker is already there, which
only a review allows. -/
def recordDecision (request : HoldRequest) (prepared : PreparedReplay) (now : Nat)
    (mark : String) : Prog HoldStore PyError Unit := do
  let store ← Prog.look
  match store.markers.insertOrIgnore (request.marker prepared now) with
  | none => Prog.ofExcept (raiseIf (request.decision.action ≠ .keepHold) replayAlreadyUsed)
  | some markers => do
      let event ← Prog.ofExcept (holdEvent request prepared)
      let activity ← Prog.ofExcept (appendEvent store.db.activity event)
      Prog.change fun store =>
        store.recordMarker markers activity request.child.identity.analysisId mark

/-- Reopen the target of a replay; a review reopens nothing. -/
def reopenTarget (request : HoldRequest) (case : HoldCase) (prepared : PreparedReplay)
    (now : Nat) : Prog HoldStore PyError (Option StageCheckpoint) :=
  if request.decision.action = .keepHold then pure none
  else do
    Prog.change fun store =>
      store.reopen request case prepared.target (replayPending prepared now)
    pure (some (replayPending prepared now))

/-- The transaction of a call; `mark` is what `uuid4` answers. -/
def holdTransaction (files : HoldFiles) (request : HoldRequest) (case : HoldCase) (now : Nat)
    (mark : String) : Prog HoldStore PyError (Option StageCheckpoint) := do
  let store ← Prog.look
  let prepared ← Prog.ofExcept (prepareReplay files request case store)
  recordDecision request prepared now mark
  let pending ← reopenTarget request case prepared now
  Prog.ofExcept
    (raiseIf (request.failBeforeCommit = true) (.runtimeError "simulated crash"))
  pure pending

/-- `prepare_surface_hold_replay`; `read` is the state of the tables when the call read the run
and the registration. -/
def prepareSurfaceHoldReplay (files : HoldFiles) (request : HoldRequest) (read : HoldStore)
    (now : Nat) (mark : String) : Prog HoldStore PyError (Option StageCheckpoint) := do
  let case ← Prog.ofExcept (openCase files request read)
  (holdTransaction files request case now mark).transaction

end Sastsimi.Runtime
