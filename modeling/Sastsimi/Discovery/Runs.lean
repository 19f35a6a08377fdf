import Sastsimi.Discovery.Accounting

/-!
# Runs of the discovery

Every round of a run settles a batch or ends it: the errors are retried in the order of their ids,
and a pending candidate that was reviewed is pending no more.
-/

namespace Sastsimi.Discovery

open Sastsimi.Lib Sastsimi.Runtime

section Runs

variable {σ : Type} {outside : Surroundings σ} {discovery : CandidateDiscovery} {scope : Scope}
  {start state after : State σ} {row : StaticCandidate} {table : CandidateTable}
  {status : String} {afterId : Option String} {limit : Nat} {rows : List StaticCandidate}

/-! ## Listing -/

/-- The row is of the scope. -/
def Scope.Contains (scope : Scope) (row : StaticCandidate) : Prop :=
  row.ofScope scope.identity.scopeKey scope.scopeFingerprint = true

theorem Scope.contains_iff : scope.Contains row ↔ row.key = scope.keyOf row.candidateId := by
  obtain ⟨⟨key, fingerprint, id⟩, _⟩ := row
  simp [Scope.Contains, StaticCandidate.ofScope, Scope.keyOf, StaticCandidate.candidateId]

theorem Scope.Contains.find (contains : scope.Contains row) (member : row ∈ table.rows) :
    table.find (scope.keyOf row.candidateId) = some row :=
  Table.find_eq_some.2 ⟨member, Scope.contains_iff.1 contains⟩

/-- A row that a listing selects. -/
structure Selected (table : CandidateTable) (scope : Scope) (status : String)
    (afterId : Option String) (row : StaticCandidate) : Prop where
  stored : row ∈ table.rows
  inScope : scope.Contains row
  status : row.columns.decision = status
  later : ∀ after ∈ afterId, after < row.candidateId

/-- A page of the selected rows, in the order of their ids. -/
structure IsPage (table : CandidateTable) (scope : Scope) (status : String)
    (afterId : Option String) (rows : List StaticCandidate) : Prop where
  selected : ∀ row ∈ rows, Selected table scope status afterId row
  ordered : rows.Pairwise fun left right => left.candidateId ≤ right.candidateId
  distinct : (rows.map (·.candidateId)).Nodup
  last : rows = [] → ∀ row, ¬ Selected table scope status afterId row

/-- The keys of the rows of the scope. -/
def Scope.keys (scope : Scope) (state : State σ) : List CandidateKey :=
  (state.table.rows.map StaticCandidate.key).filter fun key =>
    key.scope = scope.identity.scopeKey ∧ key.scopeFingerprint = scope.scopeFingerprint

/-- Only rows of the scope change. -/
def Steady (scope : Scope) (before after : State σ) : Prop :=
  ∃ calls, Progress (scope.keys before) calls before after

theorem Steady.refl (scope : Scope) (state : State σ) : Steady scope state state :=
  ⟨0, Progress.refl _ _ _⟩

theorem Steady.keys (steady : Steady scope start state) : scope.keys state = scope.keys start := by
  obtain ⟨calls, progress⟩ := steady
  rw [Scope.keys, progress.sameKeys]
  rfl

theorem Steady.trans (first : Steady scope start state) {batch : Batch} {calls : Nat}
    (page : IsPage state.table scope status afterId batch.candidates)
    (second : Progress (scope.keysOf batch.candidates) calls state after) :
    Steady scope start after := by
  have same := first.keys
  obtain ⟨earlier, progress⟩ := first
  refine ⟨earlier + calls, progress.trans second (List.Subset.refl _) ?_ (Nat.le_refl _)⟩
  intro key member
  obtain ⟨row, inside, rfl⟩ := List.mem_map.1 member
  have selected := page.selected row inside
  rw [← same, Scope.keys, List.mem_filter, ← Scope.contains_iff.1 selected.inScope]
  exact ⟨List.mem_map_of_mem selected.stored, selected.inScope⟩

/-- The rows of the scope behind an id. -/
def remaining (scope : Scope) (state : State σ) (afterId : Option String) : Nat :=
  (scope.keys state).countP fun key => afterId.all fun after => decide (after < key.candidateId)

/-- No row of the scope is pending. -/
def NonePending (scope : Scope) (state : State σ) : Prop :=
  ∀ row ∈ state.table.rows, scope.Contains row → row.columns.decision ≠ "PENDING"

/-- No row of the scope is pending or in error. -/
def NoneOpen (scope : Scope) (state : State σ) : Prop :=
  ∀ row ∈ state.table.rows, scope.Contains row → ¬ row.IsOpen

/-- The outcome of a run: complete exactly when no row is open, and a row is pending only behind a
reported failure. -/
structure Accounts (scope : Scope) (outcome : DiscoveryOutcome) (after : State σ) : Prop where
  complete : outcome.status = .complete ↔ NoneOpen scope after
  pending : NonePending scope after ∨ ∃ failure, Reported after.exchanges failure ∧
    outcome.errorCode = some failure.code ∧
    outcome.status = if failure.code ∈ budgetPauseCodes then .paused else .error

/-- The outcome of a run that changed only open rows of the scope. -/
def Accounted (scope : Scope) (start : State σ) (result : Option DiscoveryOutcome)
    (after : State σ) : Prop :=
  Steady scope start after ∧ ∃ outcome, result = some outcome ∧ Accounts scope outcome after

end Runs

end Sastsimi.Discovery
