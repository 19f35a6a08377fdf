import Sastsimi.Lib.Transaction
import Sastsimi.Runtime.Catalogue
import Sastsimi.Runtime.Runner

/-!
# Candidate outcomes

The candidate tables of the store: `simple_static_candidates`, the links of candidates to
hypotheses and `simple_candidate_batch_outcomes`, with every operation that writes them.
`commit_candidate_batch_outcome` registers all hypotheses of one verdict and stores the verdict
in one transaction.

A column that holds JSON text is the value that was encoded, and a table of the dashboard index
that does not exist is not there.
-/

namespace Sastsimi.Runtime

open SimpleStage Lib

variable [Platform]

/-! ## The tables -/

/-- The key of a scope: analysis, workspace and commit. -/
structure ScopeKey where
  analysisId : String
  workspaceId : String
  commitId : String
  deriving DecidableEq

/-- The key of a candidate. -/
structure CandidateKey where
  scope : ScopeKey
  scopeFingerprint : String
  candidateId : String
  deriving DecidableEq

/-- The decision columns of a row of `simple_static_candidates`. -/
structure CandidateRow where
  decision : String := "PENDING"
  decisionReason : String := ""
  decisionEvidenceRefs : List StoredDataRef := []
  decisionAttemptRef : Option StoredDataRef := none
  deepStatus : String := "PENDING"
  deriving DecidableEq

/-- The other columns of a row of `simple_candidate_batch_outcomes`. -/
structure BatchOutcome where
  batchId : String
  staticBundleHash : String
  sourceSha256 : Option String
  contextHash : String
  status : String
  resultRef : StoredDataRef
  deriving DecidableEq

/-- A row of `dashboard_index_state` that a writer marked as outdated. -/
structure DashboardMark where
  sourceMarker : String
  deriving DecidableEq

/-- The durable world with the tables of hypotheses and candidates. -/
structure CandidateStore where
  world : World
  hypotheses : ScopeKey → HypothesisTable
  candidates : CandidateKey → Option CandidateRow
  links : CandidateKey → Finset String
  outcomes : CandidateKey → Option BatchOutcome
  dashboard : Option (String → Option DashboardMark)

/-- The key columns of a scope. -/
def CheckpointIdentity.scopeKey (identity : CheckpointIdentity) : ScopeKey :=
  ⟨identity.analysisId, identity.workspaceId, identity.commitId⟩

/-- `_candidate_scope_key`, with the candidate. -/
def candidateKey (scope : CheckpointIdentity) (scopeFingerprint candidateId : String) :
    Except PyError CandidateKey := do
  raiseIf (scope.hypothesisId ≠ none ∨ isBlank scopeFingerprint)
    (.valueError "CANDIDATE_SCOPE_INVALID")
  pure ⟨scope.scopeKey, scopeFingerprint, candidateId⟩

namespace CandidateStore

/-- `mark_index_dirty_connection`. -/
def markDashboardDirty (store : CandidateStore) (analysisId marker : String) :
    CandidateStore :=
  { store with
    dashboard := store.dashboard.map fun rows =>
      Function.update rows analysisId (some ⟨marker⟩) }

/-! ## Candidates -/

/-- The part of `upsert_candidate_page` that concerns the decision columns: a new candidate
starts with the defaults, and a known one keeps its columns. -/
def upsertCandidate (store : CandidateStore) (scope : CheckpointIdentity)
    (scopeFingerprint candidateId : String) : Except PyError CandidateStore := do
  let key ← candidateKey scope scopeFingerprint candidateId
  match store.candidates key with
  | none => pure { store with candidates := Function.update store.candidates key (some {}) }
  | some _ => pure store

/-- `save_candidate_decision`. -/
def saveCandidateDecision (store : CandidateStore) (scope : CheckpointIdentity)
    (scopeFingerprint candidateId decision reason : String)
    (evidenceRefs : List StoredDataRef) (attemptRef : Option StoredDataRef) :
    Except PyError CandidateStore := do
  let key ← candidateKey scope scopeFingerprint candidateId
  raiseIf (decision ∉ ["PENDING", "INCLUDE", "EXCLUDE", "UNDECIDED", "ERROR"])
    (.valueError "CANDIDATE_DECISION_INVALID")
  raiseIf (decision ≠ "PENDING" ∧ isBlank reason)
    (.valueError "CANDIDATE_DECISION_REASON_REQUIRED")
  let _ ← evidenceRefs.mapM fun ref => candidateRef scope (some ref)
  let attemptRef ← candidateRef scope attemptRef
  match store.candidates key with
  | none => .error (.valueError "CANDIDATE_NOT_FOUND")
  | some row =>
      if row.decision ≠ "PENDING" ∧ row.decision ≠ "ERROR" then
        if row.decision = decision ∧ row.decisionReason = reason
            ∧ row.decisionEvidenceRefs = evidenceRefs ∧ row.decisionAttemptRef = attemptRef then
          pure store
        else .error (.valueError "CANDIDATE_DECISION_CONFLICT")
      else
        let decided : CandidateRow :=
          { row with
            decision
            decisionReason := reason
            decisionEvidenceRefs := evidenceRefs
            decisionAttemptRef := attemptRef }
        pure { store with candidates := Function.update store.candidates key (some decided) }

/-- `save_candidate_deep_status`. -/
def saveCandidateDeepStatus (store : CandidateStore) (scope : CheckpointIdentity)
    (scopeFingerprint candidateId deepStatus : String) : Except PyError CandidateStore := do
  let key ← candidateKey scope scopeFingerprint candidateId
  raiseIf
    (deepStatus ∉ ["PENDING", "RUNNING", "COMPLETE", "NO_HYPOTHESIS", "INCONCLUSIVE", "ERROR"])
    (.valueError "CANDIDATE_DEEP_STATUS_INVALID")
  match store.candidates key with
  | none => .error (.valueError "CANDIDATE_NOT_FOUND")
  | some row => do
      raiseIf (row.decision ≠ "INCLUDE" ∧ row.decision ≠ "UNDECIDED")
        (.valueError "CANDIDATE_DEEP_STATUS_CONFLICT")
      pure { store with
        candidates := Function.update store.candidates key (some { row with deepStatus }) }

/-- `link_candidate_hypothesis`. -/
def linkCandidateHypothesis (store : CandidateStore) (scope : CheckpointIdentity)
    (scopeFingerprint candidateId hypothesisId : String) : Except PyError CandidateStore := do
  let key ← candidateKey scope scopeFingerprint candidateId
  raiseIf
    (store.candidates key = none ∨ (store.hypotheses scope.scopeKey).rows hypothesisId = none)
    (.valueError "CANDIDATE_HYPOTHESIS_LINK_INVALID")
  pure { store with
    links := Function.update store.links key (insert hypothesisId (store.links key)) }

/-! ## Registration -/

/-- `upsert_hypothesis`. -/
def upsertHypothesis (store : CandidateStore) (scope : CheckpointIdentity)
    (hypothesisId : String) (row : HypothesisRow) : Except PyError CandidateStore := do
  let table ← Runtime.upsertHypothesis (store.hypotheses scope.scopeKey) scope hypothesisId row
  pure { store with
    hypotheses := Function.update store.hypotheses scope.scopeKey table }

/-- A hypothesis that a call registers: its identifier, its reference and its first
checkpoint. -/
structure Registration where
  hypothesisId : String
  hypothesisRef : StoredDataRef
  checkpoint : StageCheckpoint

/-- The tables after one registration wrote its row and its first checkpoint. -/
def withRegistered (store : CandidateStore) (scope : CheckpointIdentity)
    (tables : Database × HypothesisTable) : CandidateStore :=
  { store with
    world := { store.world with db := tables.1 }
    hypotheses := Function.update store.hypotheses scope.scopeKey tables.2 }

/-- `_register_candidate_hypothesis_connection`. -/
def registerCandidateConnection (store : CandidateStore) (scope : CheckpointIdentity)
    (scopeFingerprint candidateId hypothesisId : String) (hypothesisRef : StoredDataRef)
    (checkpoint : Option StageCheckpoint) (chainDepth : Int) (parents : List String) :
    Except PyError CandidateStore := do
  let key : CandidateKey := ⟨scope.scopeKey, scopeFingerprint, candidateId⟩
  let tables ← registerCandidateHypothesis store.world.db (store.hypotheses scope.scopeKey)
    scope scopeFingerprint ((store.candidates key).map (·.decision)) hypothesisId hypothesisRef
    checkpoint chainDepth parents
  let registered := store.withRegistered scope tables
  pure { registered with
    links := Function.update store.links key (insert hypothesisId (store.links key)) }

/-- `_register_free_hypothesis_connection`. -/
def registerFreeConnection (store : CandidateStore) (scope : CheckpointIdentity)
    (hypothesisId : String) (hypothesisRef : StoredDataRef) (checkpoint : StageCheckpoint)
    (chainDepth : Int) (parents : List String) : Except PyError CandidateStore := do
  let tables ← registerFreeHypothesis store.world.db (store.hypotheses scope.scopeKey) scope
    hypothesisId hypothesisRef checkpoint chainDepth parents
  pure (store.withRegistered scope tables)

/-- `connection.total_changes > before_changes`, for a registration: a row was inserted or
updated, a link was inserted, or the first checkpoint was inserted. -/
def registrationChanged (before after : CandidateStore) (scope : CheckpointIdentity)
    (key : Option CandidateKey) (hypothesisId : String) : Bool :=
  decide ((after.hypotheses scope.scopeKey).rows hypothesisId
      ≠ (before.hypotheses scope.scopeKey).rows hypothesisId)
    || (match key with
      | none => false
      | some key => decide (after.links key ≠ before.links key))
    || decide (after.world.db.checkpoints ((scope.child hypothesisId).key proConDone)
      ≠ before.world.db.checkpoints ((scope.child hypothesisId).key proConDone))

/-- Mark the dashboard as outdated when a registration changed a row. -/
def dirtyWhenChanged (before after : CandidateStore) (scope : CheckpointIdentity)
    (key : Option CandidateKey) (hypothesisId marker : String) : CandidateStore :=
  if registrationChanged before after scope key hypothesisId then
    after.markDashboardDirty scope.analysisId marker
  else after

/-- `register_free_hypothesis`. -/
def registerFreeHypothesis (store : CandidateStore) (scope : CheckpointIdentity)
    (hypothesisId : String) (hypothesisRef : StoredDataRef) (checkpoint : StageCheckpoint)
    (chainDepth : Int) (parents : List String) (marker : String) :
    CandidateStore × Except PyError Unit :=
  atomically
    (fun before =>
      match before.registerFreeConnection scope hypothesisId hypothesisRef checkpoint chainDepth
          parents with
      | .error reason => (before, .error reason)
      | .ok after =>
          (dirtyWhenChanged before after scope none hypothesisId marker, .ok ()))
    store

/-- `register_candidate_hypothesis`. -/
def registerCandidateHypothesis (store : CandidateStore) (scope : CheckpointIdentity)
    (scopeFingerprint candidateId hypothesisId : String) (hypothesisRef : StoredDataRef)
    (checkpoint : Option StageCheckpoint) (chainDepth : Int) (parents : List String)
    (marker : String) : CandidateStore × Except PyError Unit :=
  atomically
    (fun before =>
      match before.registerCandidateConnection scope scopeFingerprint candidateId hypothesisId
          hypothesisRef checkpoint chainDepth parents with
      | .error reason => (before, .error reason)
      | .ok after =>
          (dirtyWhenChanged before after scope
            (some ⟨scope.scopeKey, scopeFingerprint, candidateId⟩) hypothesisId marker, .ok ()))
    store

/-- The registrations of one proposal, one after the other. -/
def registerAll (store : CandidateStore) (scope : CheckpointIdentity)
    (scopeFingerprint candidateId : String) (registrations : List Registration) :
    CandidateStore × Except PyError Unit :=
  runAll
    (fun store registration => store.registerCandidateConnection scope scopeFingerprint
      candidateId registration.hypothesisId registration.hypothesisRef
      (some registration.checkpoint) 0 [])
    store registrations

/-- `register_candidate_hypotheses_batch`. -/
def registerCandidateHypothesesBatch (store : CandidateStore) (scope : CheckpointIdentity)
    (scopeFingerprint candidateId : String) (registrations : List Registration)
    (marker : String) : CandidateStore × Except PyError Unit :=
  if registrations = [] then (store, .error (.valueError "CANDIDATE_HYPOTHESIS_BATCH_EMPTY"))
  else
    atomically
      (fun before =>
        match before.registerAll scope scopeFingerprint candidateId registrations with
        | (worked, .error reason) => (worked, .error reason)
        | (after, .ok ()) =>
            let key : CandidateKey := ⟨scope.scopeKey, scopeFingerprint, candidateId⟩
            (if registrations.any fun registration =>
                registrationChanged before after scope (some key) registration.hypothesisId then
              after.markDashboardDirty scope.analysisId marker
            else after, .ok ()))
      store

/-! ## Outcomes -/

/-- The statuses of a batch outcome with the `deep_status` each one stores. -/
def outcomeStatuses : List (String × String) :=
  [("HYPOTHESES", "RUNNING"), ("NO_HYPOTHESIS", "NO_HYPOTHESIS"),
    ("INSUFFICIENT_EVIDENCE_FOR_HYPOTHESIS", "INCONCLUSIVE")]

/-- The `deep_status` of an outcome. -/
def deepStatusOf (status : String) : Option String := outcomeStatuses.lookup status

/-- The checks of `commit_candidate_batch_outcome` on its arguments. -/
def outcomeInvalid (candidateId : String) (outcome : BatchOutcome)
    (registrations : List Registration) : Bool :=
  decide (candidateId = "")
    || decide (outcome.batchId = "")
    || decide (outcome.staticBundleHash = "")
    || decide (outcome.contextHash = "")
    || decide (deepStatusOf outcome.status = none)
    || decide (outcome.status = "HYPOTHESES") != !registrations.isEmpty

/-- A candidate that may get an outcome. -/
def awaitsOutcome (candidate : Option CandidateRow) : Bool :=
  match candidate with
  | none => false
  | some row =>
      decide (row.decision ∈ ["INCLUDE", "UNDECIDED"])
        && decide (row.deepStatus ∈ ["PENDING", "ERROR"])

/-- The transaction of `commit_candidate_batch_outcome`. -/
def commitOutcomeTransaction (scope : CheckpointIdentity) (key : CandidateKey)
    (outcome : BatchOutcome) (deepStatus : String) (registrations : List Registration)
    (marker : String) (store : CandidateStore) : CandidateStore × Except PyError Bool :=
  match store.outcomes key with
  | some prior =>
      if prior ≠ outcome then
        (store, .error (.valueError "CANDIDATE_BATCH_OUTCOME_CONFLICT"))
      else (store, .ok false)
  | none =>
      if !awaitsOutcome (store.candidates key) then
        (store, .error (.valueError "CANDIDATE_BATCH_OUTCOME_CONFLICT"))
      else
        match store.registerAll scope key.scopeFingerprint key.candidateId registrations with
        | (worked, .error reason) => (worked, .error reason)
        | (worked, .ok ()) =>
            let settled : CandidateStore :=
              { worked with
                candidates := Function.update worked.candidates key
                  ((worked.candidates key).map fun row => { row with deepStatus })
                outcomes := Function.update worked.outcomes key (some outcome) }
            (settled.markDashboardDirty scope.analysisId marker, .ok true)

/-- `commit_candidate_batch_outcome`. -/
def commitCandidateBatchOutcome (store : CandidateStore) (scope : CheckpointIdentity)
    (scopeFingerprint candidateId : String) (outcome : BatchOutcome)
    (registrations : List Registration) (marker : String) :
    CandidateStore × Except PyError Bool :=
  match candidateKey scope scopeFingerprint candidateId with
  | .error reason => (store, .error reason)
  | .ok key =>
      match candidateRef scope (some outcome.resultRef) with
      | .error reason => (store, .error reason)
      | .ok _ =>
          if outcomeInvalid candidateId outcome registrations then
            (store, .error (.valueError "CANDIDATE_BATCH_OUTCOME_INVALID"))
          else
            match deepStatusOf outcome.status with
            | none => (store, .error (.valueError "CANDIDATE_BATCH_OUTCOME_INVALID"))
            | some deepStatus =>
                atomically
                  (commitOutcomeTransaction scope key outcome deepStatus registrations marker)
                  store

end CandidateStore

/-! ## Calls -/

/-- A call that writes the candidate tables, or a step of a child. -/
inductive CandidateCall where
  | upsertCandidate (scope : CheckpointIdentity) (scopeFingerprint candidateId : String)
  | saveDecision (scope : CheckpointIdentity)
      (scopeFingerprint candidateId decision reason : String)
      (evidenceRefs : List StoredDataRef) (attemptRef : Option StoredDataRef)
  | saveDeepStatus (scope : CheckpointIdentity)
      (scopeFingerprint candidateId deepStatus : String)
  | linkHypothesis (scope : CheckpointIdentity)
      (scopeFingerprint candidateId hypothesisId : String)
  | upsertHypothesis (scope : CheckpointIdentity) (hypothesisId : String) (row : HypothesisRow)
  | registerFree (scope : CheckpointIdentity) (hypothesisId : String)
      (hypothesisRef : StoredDataRef) (checkpoint : StageCheckpoint) (chainDepth : Int)
      (parents : List String)
  | registerCandidate (scope : CheckpointIdentity)
      (scopeFingerprint candidateId hypothesisId : String) (hypothesisRef : StoredDataRef)
      (checkpoint : Option StageCheckpoint) (chainDepth : Int) (parents : List String)
  | registerBatch (scope : CheckpointIdentity) (scopeFingerprint candidateId : String)
      (registrations : List CandidateStore.Registration)
  | commitOutcome (scope : CheckpointIdentity) (scopeFingerprint candidateId : String)
      (outcome : BatchOutcome) (registrations : List CandidateStore.Registration)
  | resume (env : RunnerEnv) (passes : Nat) (identity : CheckpointIdentity)

namespace CandidateStore

/-- A call that commits one transaction or raises. -/
def committed (store : CandidateStore) (result : Except PyError CandidateStore) :
    CandidateStore × Except PyError Bool :=
  match result with
  | .ok after => (after, .ok true)
  | .error reason => (store, .error reason)

/-- A call without a value answers `True`. -/
def answered (result : CandidateStore × Except PyError Unit) :
    CandidateStore × Except PyError Bool :=
  (result.1, result.2.map fun _ => true)

/-- Perform a call; `marker` is what `uuid4` answers in it. -/
def perform (store : CandidateStore) (call : String × CandidateCall) :
    CandidateStore × Except PyError Bool :=
  match call.2 with
  | .upsertCandidate scope fingerprint candidateId =>
      store.committed (store.upsertCandidate scope fingerprint candidateId)
  | .saveDecision scope fingerprint candidateId decision reason evidenceRefs attemptRef =>
      store.committed (store.saveCandidateDecision scope fingerprint candidateId decision reason
        evidenceRefs attemptRef)
  | .saveDeepStatus scope fingerprint candidateId deepStatus =>
      store.committed (store.saveCandidateDeepStatus scope fingerprint candidateId deepStatus)
  | .linkHypothesis scope fingerprint candidateId hypothesisId =>
      store.committed
        (store.linkCandidateHypothesis scope fingerprint candidateId hypothesisId)
  | .upsertHypothesis scope hypothesisId row =>
      store.committed (store.upsertHypothesis scope hypothesisId row)
  | .registerFree scope hypothesisId ref checkpoint depth parents =>
      answered
        (store.registerFreeHypothesis scope hypothesisId ref checkpoint depth parents call.1)
  | .registerCandidate scope fingerprint candidateId hypothesisId ref checkpoint depth parents =>
      answered (store.registerCandidateHypothesis scope fingerprint candidateId hypothesisId ref
        checkpoint depth parents call.1)
  | .registerBatch scope fingerprint candidateId registrations =>
      answered (store.registerCandidateHypothesesBatch scope fingerprint candidateId
        registrations call.1)
  | .commitOutcome scope fingerprint candidateId outcome registrations =>
      store.commitCandidateBatchOutcome scope fingerprint candidateId outcome registrations
        call.1
  | .resume env passes identity =>
      ({ store with world := (resumeHypothesis env passes identity store.world).2 }, .ok true)

end CandidateStore

end Sastsimi.Runtime
