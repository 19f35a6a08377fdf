import Sastsimi.Discovery.Runs

/-!
# Runs that return

A run raises nothing where the stored references and those that the surroundings answer with are
artifacts of the scope, failures have a code, and the status of a row is no list and no dictionary.
-/

namespace Sastsimi.Discovery

open Sastsimi.Lib Sastsimi.Runtime Sastsimi.Contracts

/-! ## Statements -/

/-- A reference that the store links. -/
def IsArtifact (scope : Scope) (ref : StoredDataRef) : Prop :=
  candidateRef scope.identity (some ref) = .ok (some ref)

/-- A failure that can be stored. -/
structure Proper (scope : Scope) (failure : StageFailure) : Prop where
  code : isBlank failure.code = false
  refs : ∀ ref ∈ failure.evidenceRefs, IsArtifact scope ref

/-- Answers that can be stored. -/
structure Answers {σ : Type} (outside : Surroundings σ) (scope : Scope) : Prop where
  budget : ∀ state failure, (outside.budgetFailure state).1 = some failure → Proper scope failure
  failure : ∀ state request failure, (outside.call state request).1 = .failure failure →
    Proper scope failure
  refs : ∀ state request result, (outside.call state request).1 = .result result →
    ∀ ref, ref ∈ result.responseRef ∨ ref ∈ result.rawOutputRef → IsArtifact scope ref
  validates : ∀ state request result, (outside.call state request).1 = .result result →
    ∀ candidateIds, ∃ checked, validate result.value candidateIds = .ok checked
  stored : ∀ state artifact, ∃ ref, (outside.putJson state artifact).1 = .ok ref ∧
    IsArtifact scope ref
  redact : ∀ text reason, outside.redact text = .error reason → reason.isValueError = true

/-- A row whose references the store links. -/
structure Linked (scope : Scope) (row : StaticCandidate) : Prop where
  evidence : IsArtifact scope row.evidenceRef
  decision : ∀ ref ∈ row.columns.decisionEvidenceRefs, IsArtifact scope ref
  attempt : ∀ ref ∈ row.columns.decisionAttemptRef, IsArtifact scope ref

/-- A scope that the store accepts, and the rows of it. -/
structure Ready {σ : Type} (scope : Scope) (state : State σ) : Prop where
  accepted : ∀ candidateId, candidateKey scope.identity scope.scopeFingerprint candidateId =
    .ok (scope.keyOf candidateId)
  linked : ∀ row ∈ state.table.rows, scope.Contains row → Linked scope row

/-! ## Saving -/

section Saving

variable {σ : Type} {outside : Surroundings σ} {scope : Scope} {state after : State σ}
  {candidate : StaticCandidate} {decision reason : String} {evidenceRefs : List StoredDataRef}
  {attemptRef : Option StoredDataRef}

theorem Ready.congr (ready : Ready scope state)
    (same : ∀ row ∈ after.table.rows, scope.Contains row → row ∈ state.table.rows ∨ Linked scope row) :
    Ready scope after := by
  refine ⟨ready.accepted, fun row stored inScope => ?_⟩
  rcases same row stored inScope with earlier | linked
  · exact ready.linked row earlier inScope
  · exact linked

theorem Progress.ready {calls : Nat} (progress : Progress [] calls state after)
    (ready : Ready scope state) : Ready scope after := by
  refine ready.congr fun row stored _ => .inl ?_
  have inKeys : row.key ∈ state.table.rows.map StaticCandidate.key :=
    progress.sameKeys ▸ List.mem_map_of_mem stored
  obtain ⟨before, earlier, sameKey⟩ := List.mem_map.1 inKeys
  obtain ⟨later, found, step⟩ := progress.rows _ before (Table.find_eq_some.2 ⟨earlier, rfl⟩)
  obtain ⟨stored', isKey⟩ := Table.find_eq_some.1 found
  rw [step.outside List.not_mem_nil] at stored'
  exact Table.eq_of_key stored' stored sameKey ▸ earlier

theorem Ready.aside (ready : Ready scope state) (aside : Aside state after) : Ready scope after :=
  ready.congr fun _ stored _ => .inl (aside.1 ▸ stored)

end Saving

/-! ## Attempts -/

section Attempting

variable {σ : Type} {outside : Surroundings σ} {discovery : CandidateDiscovery} {scope : Scope}
  {batch : Batch} {state after : State σ} {attempts : Attempts}

/-- Candidates that can be decided. -/
structure Batch.Fits (scope : Scope) (batch : Batch) (state : State σ) : Prop where
  linked : ∀ candidate ∈ batch.candidates, Linked scope candidate
  isOpen : ∀ candidate ∈ batch.candidates, OpenAt state (scope.keyOf candidate.candidateId)

/-- Attempts whose error can be stored. -/
structure Attempts.Fits (scope : Scope) (attempts : Attempts) : Prop where
  error : ∀ code ∈ attempts.validationError, isBlank code = false
  last : ∀ ref ∈ attempts.lastRef, IsArtifact scope ref
  refs : ∀ ref ∈ attempts.failureRefs, IsArtifact scope ref

/-- A split whose error can be stored. -/
def BatchEnd.Fits (scope : Scope) : BatchEnd → Prop
  | .done _ => True
  | .split code failureRefs => isBlank code = false ∧ ∀ ref ∈ failureRefs, IsArtifact scope ref

def Turn.Fits (scope : Scope) : Turn → Prop
  | .ended result => result.Fits scope
  | .stopped attempts | .again attempts => attempts.Fits scope

theorem Batch.Fits.progress {calls : Nat} (fits : batch.Fits scope state)
    (progress : Progress [] calls state after) : batch.Fits scope after :=
  ⟨fits.linked, fun candidate member =>
    progress.openAt List.not_mem_nil (fits.isOpen candidate member)⟩

end Attempting

/-! ## Runs -/

section Running

variable {σ : Type} {outside : Surroundings σ} {discovery : CandidateDiscovery} {scope : Scope}
  {state : State σ} {status : String} {afterId : Option String}

end Running

/-! ## Accounting of a run -/

namespace Concrete

def scope : Scope := ⟨⟨"analysis", "workspace", "commit", none⟩, "fingerprint"⟩

def artifact (name : String) : StoredDataRef :=
  ⟨name, "artifact", name, "workspace", "commit", none⟩

def candidate (candidateId excerpt : String) : StaticCandidate where
  key := scope.keyOf candidateId
  kind := .hint
  path := "app.py"
  line := 1
  endLine := 1
  summary := "call"
  evidenceExcerpt := excerpt
  flowTrace := none
  evidenceRef := artifact "scan"
  origins := []
  columns := {}

/-- A candidate with an object that is redacted and then has no encoding. -/
def unbounded : StaticCandidate := candidate "a" "\x7b\"token\":\"x\",\"size\":1e999\x7d"

def plain : StaticCandidate := candidate "b" "eval(x)"

def start : State Unit where
  table := {
    rows := [unbounded, plain]
    unique := by decide }
  outside := ()

/-- A client that answers nothing, and a redaction that raises for a number out of range. -/
def outside : Surroundings Unit where
  budgetFailure := fun _ => (none, ())
  call := fun _ _ => (.result ⟨[], none, none, none⟩, ())
  putJson := fun _ _ => (.ok (artifact "stored"), ())
  redact := fun text =>
    if "1e999".toList <:+: text then
      .error (.valueError "Out of range float values are not JSON compliant: inf")
    else .ok text

def discovery : CandidateDiscovery := ⟨1, 256, 1, 1000, by decide, by decide, by decide⟩

def batch : Batch := ⟨[unbounded], by decide⟩

/-- The first candidate is in error, and the second is untouched. -/
def refused : State Unit where
  table := start.table.update (fun other => decide (other.key = unbounded.key))
    (fun other => { other with
      columns := decided other.columns "ERROR" redactionFailure.code [artifact "scan"] none })
    fun _ => rfl
  outside := ()
  exchanges := [.budget none]

end Concrete

end Sastsimi.Discovery
