import Sastsimi.Discovery.Validation

/-!
# What a review of a batch changes

A review changes only candidates of its batch that were pending or in error.  A decision that it
stores is one of a validated answer; the halves of a batch share its calls.
-/

namespace Sastsimi.Discovery

open Sastsimi.Lib Sastsimi.Runtime Sastsimi.Contracts

/-! ## Statements -/

/-- A row that may still be decided. -/
def StaticCandidate.IsOpen (row : StaticCandidate) : Prop :=
  row.columns.decision ∈ ["PENDING", "ERROR"]

/-- A decision of a validated answer about candidates that were sent together. -/
def Validated (exchanges : List Exchange) (candidateId status reason : String) : Prop :=
  ∃ candidateIds request result, Exchange.call candidateIds request (.result result) ∈ exchanges ∧
    ∃ output, NamesExactly result.value candidateIds output ∧ ∃ decision ∈ output,
      decision.candidateId = candidateId ∧ decision.status = status ∧ decision.reason = reason

/-- A failure that the client reported, or that the redaction of a prompt led to. -/
def Reported (exchanges : List Exchange) (failure : StageFailure) : Prop :=
  Exchange.budget (some failure) ∈ exchanges ∨
    (∃ candidateIds request, Exchange.call candidateIds request (.failure failure) ∈ exchanges) ∨
    failure = redactionFailure

/-- A row that is kept, or an open row of the listed keys with an error or a validated decision. -/
inductive RowStep (exchanges : List Exchange) (keys : List CandidateKey) (row : StaticCandidate) :
    StaticCandidate → Prop
  | kept : RowStep exchanges keys row row
  | settled (columns : CandidateRow) (listed : row.key ∈ keys) (isOpen : row.IsOpen)
      (cause : columns.decision = "ERROR" ∨
        Validated exchanges row.candidateId columns.decision columns.decisionReason) :
      RowStep exchanges keys row { row with columns }

/-- The rows stay in place and change as they may, behind a bounded number of calls. -/
structure Progress {σ : Type} (keys : List CandidateKey) (calls : Nat) (before after : State σ) :
    Prop where
  sameKeys : after.table.rows.map StaticCandidate.key = before.table.rows.map StaticCandidate.key
  rows : ∀ key row, before.table.find key = some row → ∃ later,
    after.table.find key = some later ∧ RowStep after.exchanges keys row later
  logged : ∃ more, after.exchanges = before.exchanges ++ more ∧
    more.countP Exchange.isCall ≤ calls

/-- The row of a key has a decision. -/
def HasDecision {σ : Type} (state : State σ) (key : CandidateKey) (test : String → Prop) : Prop :=
  ∃ row, state.table.find key = some row ∧ test row.columns.decision

/-- The row of a key is pending or in error. -/
def OpenAt {σ : Type} (state : State σ) (key : CandidateKey) : Prop :=
  HasDecision state key (· ∈ ["PENDING", "ERROR"])

/-- The key of a candidate in a scope. -/
def Scope.keyOf (scope : Scope) (candidateId : String) : CandidateKey :=
  ⟨scope.identity.scopeKey, scope.scopeFingerprint, candidateId⟩

/-- The keys of candidates in a scope. -/
def Scope.keysOf (scope : Scope) (candidates : List StaticCandidate) : List CandidateKey :=
  candidates.map fun candidate => scope.keyOf candidate.candidateId

/-! ## Progress -/

section Progress

variable {σ : Type} {exchanges more : List Exchange} {keys others : List CandidateKey}
  {candidateId status reason : String} {row middle later : StaticCandidate} {calls : Nat}
  {start between state : State σ} {key : CandidateKey}

theorem Validated.append (validated : Validated exchanges candidateId status reason) :
    Validated (exchanges ++ more) candidateId status reason := by
  obtain ⟨candidateIds, request, result, inside, rest⟩ := validated
  exact ⟨candidateIds, request, result, List.mem_append_left _ inside, rest⟩

theorem Validated.decided (validated : Validated exchanges candidateId status reason) :
    status ∈ decisions := by
  obtain ⟨_, _, _, _, output, names, decision, inside, -, rfl, -⟩ := validated
  exact (names.valid decision inside).status

theorem Reported.append {failure : StageFailure} (reported : Reported exchanges failure) :
    Reported (exchanges ++ more) failure := by
  rcases reported with budget | ⟨candidateIds, request, call⟩ | redaction
  · exact .inl (List.mem_append_left _ budget)
  · exact .inr (.inl ⟨candidateIds, request, List.mem_append_left _ call⟩)
  · exact .inr (.inr redaction)

theorem RowStep.sameKey (step : RowStep exchanges keys row later) : later.key = row.key := by
  cases step <;> rfl

theorem RowStep.mono (step : RowStep exchanges keys row later) (more : List Exchange)
    (listed : keys ⊆ others) :
    RowStep (exchanges ++ more) others row later := by
  cases step with
  | kept => exact .kept
  | settled columns inKeys isOpen cause =>
      exact .settled columns (listed inKeys) isOpen (cause.imp_right Validated.append)

theorem RowStep.trans (first : RowStep exchanges keys row middle)
    (second : RowStep exchanges keys middle later) : RowStep exchanges keys row later := by
  cases first with
  | kept => exact second
  | settled columns inKeys isOpen cause =>
      cases second with
      | kept => exact .settled columns inKeys isOpen cause
      | settled columns' inKeys' isOpen' cause' => exact .settled columns' inKeys isOpen cause'

/-- A row that is not open is kept. -/
theorem RowStep.closed (step : RowStep exchanges keys row later) (closed : ¬ row.IsOpen) :
    later = row := by
  cases step with
  | kept => rfl
  | settled columns inKeys isOpen cause => exact absurd isOpen closed

/-- A row outside of the keys is kept. -/
theorem RowStep.outside (step : RowStep exchanges keys row later) (unlisted : row.key ∉ keys) :
    later = row := by
  cases step with
  | kept => rfl
  | settled columns inKeys isOpen cause => exact absurd inKeys unlisted

/-- A row that changes is not pending behind the change. -/
theorem RowStep.pending (step : RowStep exchanges keys row later)
    (isPending : later.columns.decision = "PENDING") : later = row := by
  cases step with
  | kept => rfl
  | settled columns inKeys isOpen cause =>
      rcases cause with isError | validated
      · exact absurd (isError.symm.trans isPending) (by decide)
      · have listed := validated.decided
        rw [show columns.decision = "PENDING" from isPending] at listed
        exact absurd listed (by decide)

theorem Progress.refl (keys : List CandidateKey) (calls : Nat) (state : State σ) :
    Progress keys calls state state :=
  ⟨rfl, fun _ row found => ⟨row, found, .kept⟩, [], by simp, Nat.zero_le _⟩

theorem Progress.trans {first second : Nat} {firstKeys secondKeys : List CandidateKey}
    (left : Progress firstKeys first start between) (right : Progress secondKeys second between state)
    (inKeys : firstKeys ⊆ keys) (inKeys' : secondKeys ⊆ keys) (within : first + second ≤ calls) :
    Progress keys calls start state := by
  obtain ⟨more, isMore, fewMore⟩ := left.logged
  obtain ⟨rest, isRest, fewRest⟩ := right.logged
  refine ⟨right.sameKeys.trans left.sameKeys, ?_, more ++ rest, ?_, ?_⟩
  · intro key row found
    obtain ⟨middle, found', firstStep⟩ := left.rows key row found
    obtain ⟨later, found'', secondStep⟩ := right.rows key middle found'
    refine ⟨later, found'', ?_⟩
    have early := firstStep.mono rest inKeys
    have late := secondStep.mono [] inKeys'
    rw [← isRest] at early
    rw [List.append_nil] at late
    exact early.trans late
  · rw [isRest, isMore, List.append_assoc]
  · rw [List.countP_append]
    omega

theorem Progress.mono {few : Nat} (progress : Progress others few start state)
    (inKeys : others ⊆ keys) (within : few ≤ calls) : Progress keys calls start state :=
  progress.trans (Progress.refl [] 0 state) inKeys (List.nil_subset _) (by omega)

/-- What the client was asked is not forgotten. -/
theorem Progress.append (progress : Progress keys calls start state) :
    ∃ more, state.exchanges = start.exchanges ++ more := by
  obtain ⟨more, isMore, -⟩ := progress.logged
  exact ⟨more, isMore⟩

theorem Progress.validated (progress : Progress keys calls start state)
    (validated : Validated start.exchanges candidateId status reason) :
    Validated state.exchanges candidateId status reason := by
  obtain ⟨more, isMore⟩ := progress.append
  rw [isMore]
  exact validated.append

theorem Progress.reported {failure : StageFailure} (progress : Progress keys calls start state)
    (reported : Reported start.exchanges failure) : Reported state.exchanges failure := by
  obtain ⟨more, isMore⟩ := progress.append
  rw [isMore]
  exact reported.append

theorem Progress.openAt (progress : Progress keys calls start state) (unlisted : key ∉ keys)
    (isOpen : OpenAt start key) : OpenAt state key := by
  obtain ⟨row, found, isOpen⟩ := isOpen
  obtain ⟨later, found', step⟩ := progress.rows key row found
  have same : row.key = key := (Table.find_eq_some.1 found).2
  rw [step.outside (same ▸ unlisted)] at found'
  exact ⟨row, found', isOpen⟩

end Progress

/-! ## Saving -/

section Saving

variable {σ : Type} {outside : Surroundings σ} {scope : Scope} {state : State σ}
  {table after : CandidateTable} {identity : CheckpointIdentity}
  {scopeFingerprint candidateId decision reason : String} {evidenceRefs : List StoredDataRef}
  {attemptRef : Option StoredDataRef}

theorem candidateKey_ok {key : CandidateKey}
    (known : candidateKey identity scopeFingerprint candidateId = .ok key) :
    key = ⟨identity.scopeKey, scopeFingerprint, candidateId⟩ := by
  obtain ⟨-, -, last⟩ := except_bind_ok known
  cases last
  rfl

theorem candidateRef_ok {ref linked : Option StoredDataRef}
    (checked : candidateRef identity ref = .ok linked) : linked = ref := by
  unfold candidateRef at checked
  split at checked
  · cases checked
    rfl
  · split at checked <;> cases checked
    rfl

/-- The row of a candidate has the decision, and the others are as before. -/
structure Stored (scope : Scope) (candidateId decision : String) (before after : State σ) :
    Prop where
  here : HasDecision after (scope.keyOf candidateId) (· = decision)
  others : ∀ key, key ≠ scope.keyOf candidateId → after.table.find key = before.table.find key

/-- Saving a decision keeps what another row says. -/
theorem Stored.keeps {before after : State σ} {key : CandidateKey} {test : String → Prop}
    (saved : Stored scope candidateId decision before after) (passes : test decision)
    (stored : HasDecision before key test) : HasDecision after key test := by
  by_cases same : key = scope.keyOf candidateId
  · obtain ⟨row, found, isDecision⟩ := saved.here
    exact ⟨row, same ▸ found, isDecision ▸ passes⟩
  · obtain ⟨row, found, holds⟩ := stored
    exact ⟨row, (saved.others key same).trans found, holds⟩

/-- The table and the exchanges are as before. -/
def Aside (before after : State σ) : Prop :=
  after.table = before.table ∧ after.exchanges = before.exchanges

theorem Aside.progress {before after : State σ} (aside : Aside before after)
    (keys : List CandidateKey) (calls : Nat) : Progress keys calls before after := by
  obtain ⟨sameTable, sameExchanges⟩ := aside
  refine ⟨by rw [sameTable], ?_, [], by simp [sameExchanges], Nat.zero_le _⟩
  intro key row found
  exact ⟨row, by rw [sameTable, found], .kept⟩

theorem Progress.aside {keys : List CandidateKey} {calls : Nat} {start before after : State σ}
    (progress : Progress keys calls start before) (aside : Aside before after) :
    Progress keys calls start after :=
  progress.trans (aside.progress [] 0) (List.Subset.refl _) (List.nil_subset _) (Nat.le_refl _)

end Saving

/-! ## Attempts -/

section Attempting

variable {σ : Type} {outside : Surroundings σ} {discovery : CandidateDiscovery} {scope : Scope}
  {batch : Batch} {state : State σ}

end Attempting

/-! ## Halving -/

section Halving

variable {σ : Type} {outside : Surroundings σ} {discovery : CandidateDiscovery} {scope : Scope}

/-- The halves of a batch are its candidates. -/
theorem Batch.halves (batch : Batch) (several : 1 < batch.candidates.length) :
    (batch.first several).candidates ++ (batch.second several).candidates = batch.candidates :=
  List.take_append_drop _ _

end Halving

end Sastsimi.Discovery
