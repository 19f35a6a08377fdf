import Sastsimi.Runtime.CandidateBatch
import Sastsimi.Runtime.StoreSpec

/-!
# What a registration accepts

A registration succeeds exactly when its arguments are valid, a stored row agrees with the new
one, and a stored first checkpoint has the inputs of the seed.  It then leaves a stored row and
a stored first checkpoint as they are.
-/

namespace Sastsimi.Runtime

open SimpleStage Lib

variable [Platform] {scope : CheckpointIdentity} {hypothesisId : String}
  {hypothesisRef : StoredDataRef} {chainDepth : Int} {parents : List String}

/-! ## Rows -/

/-- A reference that names an artifact of the scope. -/
def LinkableRef (scope : CheckpointIdentity) (ref : StoredDataRef) : Prop :=
  candidateRef scope (some ref) = .ok (some ref)

omit [Platform] in
theorem candidateRef_ok {ref : StoredDataRef} {result : Option StoredDataRef} :
    candidateRef scope (some ref) = .ok result ↔
      LinkableRef scope ref ∧ result = some ref := by
  rw [LinkableRef, candidateRef]
  split <;> simp [eq_comm]

/-- A stored row that a registration of another row accepts. -/
structure HypothesisRow.Agrees (stored row : HypothesisRow) : Prop where
  ref : stored.hypothesisRef = none ∨ stored.hypothesisRef = row.hypothesisRef
  chainDepth : stored.chainDepth = row.chainDepth
  parents : stored.parentHypothesisIds = row.parentHypothesisIds

/-- The row a registration writes. -/
def registeredRow (hypothesisRef : StoredDataRef) (chainDepth : Int) (parents : List String) :
    HypothesisRow :=
  ⟨some hypothesisRef, chainDepth, parents⟩

omit [Platform] in
/-- A registration completes a stored row that agrees with its own. -/
theorem HypothesisRow.Agrees.merged {stored : HypothesisRow}
    (agrees : stored.Agrees (registeredRow hypothesisRef chainDepth parents)) :
    ({ stored with
        hypothesisRef := stored.hypothesisRef.or
          (registeredRow hypothesisRef chainDepth parents).hypothesisRef } : HypothesisRow) =
      registeredRow hypothesisRef chainDepth parents := by
  obtain ⟨storedRef, storedDepth, storedParents⟩ := stored
  obtain ⟨ref, depth, same⟩ := agrees
  simp only [registeredRow] at ref depth same ⊢
  rcases ref with rfl | rfl <;> simp [depth, same]

omit [Platform] in
theorem checkRegistration_eq {checked : HypothesisRow} :
    checkRegistration scope hypothesisId (registeredRow hypothesisRef chainDepth parents) =
        .ok checked ↔
      LinkableRef scope hypothesisRef
        ∧ hypothesisIdInvalid hypothesisId (registeredRow hypothesisRef chainDepth parents)
          = false
        ∧ checked = registeredRow hypothesisRef chainDepth parents := by
  constructor
  · intro committed
    obtain ⟨ref, linked, rest⟩ := except_bind_ok committed
    obtain ⟨linkable, rfl⟩ := candidateRef_ok.1 linked
    obtain ⟨_, valid, stored⟩ := except_bind_ok rest
    rw [raiseIf_ok] at valid
    cases stored
    exact ⟨linkable, by simpa using valid, rfl⟩
  · rintro ⟨linkable, valid, rfl⟩
    have linked : candidateRef scope (registeredRow hypothesisRef chainDepth parents).hypothesisRef
        = .ok (some hypothesisRef) := linkable
    simp only [checkRegistration, linked, valid, raiseIf, bind, Except.bind, pure, Except.pure]
    rfl

omit [Platform] in
theorem HypothesisTable.put_self {table : HypothesisTable} {row : HypothesisRow}
    (stored : table.rows hypothesisId = some row) : table.put hypothesisId row = table := by
  have member : hypothesisId ∈ table.ids := (table.listed hypothesisId).2 (by simp [stored])
  have rows : Function.update table.rows hypothesisId (some row) = table.rows := by
    rw [← stored]
    exact Function.update_eq_self hypothesisId table.rows
  simp only [HypothesisTable.put, rows, Finset.insert_eq_of_mem member]

omit [Platform] in
@[simp] theorem HypothesisTable.put_rows_self {table : HypothesisTable} {row : HypothesisRow} :
    (table.put hypothesisId row).rows hypothesisId = some row := by
  simp [HypothesisTable.put]

omit [Platform] in
theorem HypothesisTable.put_rows_of_ne {table : HypothesisTable} {row : HypothesisRow}
    {other : String} (different : other ≠ hypothesisId) :
    (table.put hypothesisId row).rows other = table.rows other := by
  simp [HypothesisTable.put, different]

omit [Platform] in
theorem registerRow_eq {table after : HypothesisTable} :
    registerRow table hypothesisId (registeredRow hypothesisRef chainDepth parents) =
        .ok after ↔
      (∀ stored, table.rows hypothesisId = some stored →
          stored.Agrees (registeredRow hypothesisRef chainDepth parents))
        ∧ after = table.put hypothesisId (registeredRow hypothesisRef chainDepth parents) := by
  unfold registerRow
  cases found : table.rows hypothesisId with
  | none => simp [pure, Except.pure, eq_comm]
  | some stored =>
      change (raiseIf _ _ >>= _) = _ ↔ _
      rw [raiseIf_bind_ok]
      simp only [Option.some.injEq, forall_eq']
      constructor
      · rintro ⟨accepted, written⟩
        obtain ⟨refs, columns⟩ := not_or.1 accepted
        obtain ⟨depth, same⟩ := Prod.mk.inj (not_not.1 columns)
        have ref : stored.hypothesisRef ≠ none → stored.hypothesisRef = some hypothesisRef :=
          fun known => not_not.1 fun other => refs ⟨known, other⟩
        have fits : stored.Agrees (registeredRow hypothesisRef chainDepth parents) :=
          ⟨or_iff_not_imp_left.2 ref, depth, same⟩
        cases written
        exact ⟨fits, by rw [fits.merged]⟩
      · rintro ⟨fits, rfl⟩
        refine ⟨?_, by rw [fits.merged]; rfl⟩
        rintro (⟨known, other⟩ | other)
        · exact other (fits.ref.resolve_left known)
        · exact other (by rw [fits.chainDepth, fits.parents])

omit [Platform] in
/-- An upsert writes one row. -/
theorem upsertHypothesis_put {table after : HypothesisTable} {row : HypothesisRow}
    (committed : upsertHypothesis table scope hypothesisId row = .ok after) :
    ∃ written, after = table.put hypothesisId written := by
  obtain ⟨-, rest⟩ := raiseIf_bind_ok.1 committed
  obtain ⟨-, rest⟩ := raiseIf_bind_ok.1 rest
  obtain ⟨ref, -, rest⟩ := except_bind_ok rest
  split at rest
  · cases rest
    exact ⟨_, rfl⟩
  · obtain ⟨-, rest⟩ := raiseIf_bind_ok.1 rest
    obtain ⟨-, stored⟩ := raiseIf_bind_ok.1 rest
    cases stored
    exact ⟨_, rfl⟩

/-! ## First checkpoints -/

/-- A seed that `_insert_pending_pro_con_connection` accepts. -/
structure ValidSeed (scope : CheckpointIdentity) (hypothesisId : String)
    (hypothesisRef : StoredDataRef) (seed : StageCheckpoint) : Prop where
  owned : seed.identity = scope.child hypothesisId
  isFirst : seed.stage = proConDone
  version : seed.stageVersion = proConDone.stageVersion
  pending : seed.status = .pending
  first : seed.inputRefs.head? = some hypothesisRef

/-- The first checkpoint of the hypothesis is stored with these inputs. -/
def FirstOn (db : Database) (scope : CheckpointIdentity) (hypothesisId : String)
    (inputRefs : List StoredDataRef) : Prop :=
  ∃ first, db.get (scope.child hypothesisId) proConDone = some first
    ∧ first.inputRefs = inputRefs

theorem insertPendingProCon_eq {db after : Database} {seed : StageCheckpoint} :
    insertPendingProCon db scope hypothesisId hypothesisRef seed = .ok after ↔
      ValidSeed scope hypothesisId hypothesisRef seed
        ∧ (db.checkpoints ((scope.child hypothesisId).key proConDone) = none
            ∧ after = db.upsertCheckpoint seed
          ∨ FirstOn db scope hypothesisId seed.inputRefs ∧ after = db) := by
  have valid : ValidSeed scope hypothesisId hypothesisRef seed ↔
      ¬ (seed.identity ≠ scope.child hypothesisId ∨ seed.stage ≠ proConDone
        ∨ seed.stageVersion ≠ proConDone.stageVersion ∨ seed.status ≠ .pending
        ∨ seed.inputRefs.head? ≠ some hypothesisRef
        ∨ seed.inputHash ≠ inputReferenceHash seed.inputRefs) := by
    simp only [ne_eq, not_or, not_not]
    constructor
    · exact fun valid => ⟨valid.owned, valid.isFirst, valid.version, valid.pending, valid.first,
        seed.inputHashExact⟩
    · exact fun valid => ⟨valid.1, valid.2.1, valid.2.2.1, valid.2.2.2.1, valid.2.2.2.2.1⟩
  unfold insertPendingProCon
  rw [raiseIf_bind_ok, ← valid]
  apply and_congr_right
  intro _
  cases stored : db.checkpoints ((scope.child hypothesisId).key proConDone) with
  | none =>
      have missing : ¬ FirstOn db scope hypothesisId seed.inputRefs := by
        rintro ⟨first, found, -⟩
        rw [(Database.get_eq_some.1 found).1] at stored
        cases stored
      simp [pure, Except.pure, missing, eq_comm]
  | some existing =>
      have same : FirstOn db scope hypothesisId seed.inputRefs ↔
          ¬ (existing.identity ≠ scope.child hypothesisId
            ∨ existing.inputRefs ≠ seed.inputRefs ∨ existing.inputHash ≠ seed.inputHash) := by
        constructor
        · rintro ⟨first, found, inputs⟩
          have row := Database.get_eq_some.1 found
          rw [row.1] at stored
          cases stored
          simp [row.2, inputs, existing.inputHashExact, seed.inputHashExact]
        · intro fits
          simp only [ne_eq, not_or, not_not] at fits
          exact ⟨existing, Database.get_eq_some.2 ⟨stored, fits.1⟩, fits.2.1⟩
      simp only [raiseIf_bind_ok, reduceCtorEq, false_and, false_or, same]
      apply and_congr_right
      intro _
      simp [pure, Except.pure, eq_comm]

/-- The rows after a registration: a first checkpoint that was not stored is the seed. -/
def Database.withFirst (db : Database) (scope : CheckpointIdentity) (hypothesisId : String)
    (seed : StageCheckpoint) : Database :=
  match db.checkpoints ((scope.child hypothesisId).key proConDone) with
  | none => db.upsertCheckpoint seed
  | some _ => db

theorem Database.withFirst_of_firstOn {db : Database} {seed : StageCheckpoint}
    {inputRefs : List StoredDataRef} (first : FirstOn db scope hypothesisId inputRefs) :
    db.withFirst scope hypothesisId seed = db := by
  obtain ⟨stored, found, -⟩ := first
  rw [Database.withFirst, (Database.get_eq_some.1 found).1]

/-- After a registration the first checkpoint has the inputs of the seed. -/
theorem Database.firstOn_withFirst {db : Database} {seed : StageCheckpoint}
    (valid : ValidSeed scope hypothesisId hypothesisRef seed)
    (accepted : db.checkpoints ((scope.child hypothesisId).key proConDone) = none
      ∨ FirstOn db scope hypothesisId seed.inputRefs) :
    FirstOn (db.withFirst scope hypothesisId seed) scope hypothesisId seed.inputRefs := by
  rcases accepted with missing | first
  · refine ⟨seed, Database.get_eq_some.2 ⟨?_, valid.owned⟩, rfl⟩
    have ownKey : seed.identity.key seed.stage = (scope.child hypothesisId).key proConDone := by
      rw [valid.owned, valid.isFirst]
    simp [Database.withFirst, missing, Database.upsertCheckpoint, ownKey]
  · rwa [Database.withFirst_of_firstOn first]

/-- A registration leaves every stored first checkpoint alone. -/
theorem Database.withFirst_keeps {db : Database} {seed stored : StageCheckpoint}
    {other : CheckpointIdentity} {otherId : String}
    (valid : ValidSeed scope hypothesisId hypothesisRef seed)
    (found : db.get (other.child otherId) proConDone = some stored) :
    (db.withFirst scope hypothesisId seed).get (other.child otherId) proConDone =
      some stored := by
  obtain ⟨row, owned⟩ := Database.get_eq_some.1 found
  refine Database.get_eq_some.2 ⟨?_, owned⟩
  unfold Database.withFirst
  split
  · rename_i missing
    have different : (other.child otherId).key proConDone ≠ seed.identity.key seed.stage := by
      rw [valid.owned, valid.isFirst]
      intro same
      rw [same, missing] at row
      cases row
    simp only [Database.upsertCheckpoint, Function.update_apply, if_neg different]
    exact row
  · exact row

/-- A registration writes rows of the first stage only. -/
theorem Database.withFirst_others {db : Database} {seed : StageCheckpoint}
    {identity : CheckpointIdentity} {stage : SimpleStage}
    (valid : ValidSeed scope hypothesisId hypothesisRef seed) (later : stage ≠ proConDone) :
    (db.withFirst scope hypothesisId seed).get identity stage = db.get identity stage := by
  unfold Database.withFirst
  split
  · have different : identity.key stage ≠ seed.identity.key seed.stage := by
      intro same
      exact later ((congrArg CheckpointKey.stage same).trans valid.isFirst)
    simp only [Database.get, Database.upsertCheckpoint, Function.update_apply,
      if_neg different]
  · rfl

/-! ## Registrations -/

/-- A registration whose arguments are valid and agree with what is stored. -/
structure Accepted (db : Database) (table : HypothesisTable) (scope : CheckpointIdentity)
    (hypothesisId : String) (hypothesisRef : StoredDataRef) (seed : StageCheckpoint)
    (chainDepth : Int) (parents : List String) : Prop where
  linkable : LinkableRef scope hypothesisRef
  named : hypothesisIdInvalid hypothesisId (registeredRow hypothesisRef chainDepth parents) = false
  agrees : ∀ stored, table.rows hypothesisId = some stored →
    stored.Agrees (registeredRow hypothesisRef chainDepth parents)
  validSeed : ValidSeed scope hypothesisId hypothesisRef seed
  first : db.checkpoints ((scope.child hypothesisId).key proConDone) = none
    ∨ FirstOn db scope hypothesisId seed.inputRefs

theorem insertPendingProCon_withFirst {db after : Database} {seed : StageCheckpoint} :
    insertPendingProCon db scope hypothesisId hypothesisRef seed = .ok after ↔
      ValidSeed scope hypothesisId hypothesisRef seed
        ∧ (db.checkpoints ((scope.child hypothesisId).key proConDone) = none
          ∨ FirstOn db scope hypothesisId seed.inputRefs)
        ∧ after = db.withFirst scope hypothesisId seed := by
  rw [insertPendingProCon_eq]
  apply and_congr_right
  intro _
  constructor
  · rintro (⟨missing, rfl⟩ | ⟨first, rfl⟩)
    · exact ⟨.inl missing, by simp [Database.withFirst, missing]⟩
    · exact ⟨.inr first, (Database.withFirst_of_firstOn first).symm⟩
  · rintro ⟨missing | first, rfl⟩
    · exact .inl ⟨missing, by simp [Database.withFirst, missing]⟩
    · exact .inr ⟨first, Database.withFirst_of_firstOn first⟩

/-- A free registration succeeds exactly when it is accepted. -/
theorem registerFreeHypothesis_eq {db : Database} {table : HypothesisTable}
    {seed : StageCheckpoint} {result : Database × HypothesisTable} :
    registerFreeHypothesis db table scope hypothesisId hypothesisRef seed chainDepth parents =
        .ok result ↔
      scope.hypothesisId = none
        ∧ Accepted db table scope hypothesisId hypothesisRef seed chainDepth parents
        ∧ result = (db.withFirst scope hypothesisId seed,
          table.put hypothesisId (registeredRow hypothesisRef chainDepth parents)) := by
  constructor
  · intro committed
    obtain ⟨isScope, rest⟩ := raiseIf_bind_ok.1 committed
    obtain ⟨row, checked, rest⟩ := except_bind_ok rest
    obtain ⟨linkable, named, rfl⟩ := checkRegistration_eq.1 checked
    obtain ⟨_, registered, rest⟩ := except_bind_ok rest
    obtain ⟨agrees, rfl⟩ := registerRow_eq.1 registered
    obtain ⟨_, inserted, stored⟩ := except_bind_ok rest
    obtain ⟨valid, first, rfl⟩ := insertPendingProCon_withFirst.1 inserted
    cases stored
    exact ⟨not_not.1 isScope, ⟨linkable, named, agrees, valid, first⟩, rfl⟩
  · rintro ⟨isScope, accepted, rfl⟩
    have checked := checkRegistration_eq.2 ⟨accepted.linkable, accepted.named, rfl⟩
    have registered := registerRow_eq.2 ⟨accepted.agrees, rfl⟩
    have inserted := insertPendingProCon_withFirst.2 ⟨accepted.validSeed, accepted.first, rfl⟩
    refine raiseIf_bind_ok.2 ⟨not_not.2 isScope, ?_⟩
    change (checkRegistration scope hypothesisId
      (registeredRow hypothesisRef chainDepth parents) >>= _) = _
    rw [checked]
    change (registerRow table hypothesisId _ >>= _) = _
    rw [registered]
    change (insertPendingProCon db scope hypothesisId hypothesisRef seed >>= _) = _
    rw [inserted]
    rfl

/-- A registration for a candidate succeeds exactly when the candidate is selected and the
registration is accepted. -/
theorem registerCandidateHypothesis_eq {db : Database} {table : HypothesisTable}
    {scopeFingerprint : String} {decision : Option String} {seed : StageCheckpoint}
    {result : Database × HypothesisTable} :
    registerCandidateHypothesis db table scope scopeFingerprint decision hypothesisId
        hypothesisRef (some seed) chainDepth parents = .ok result ↔
      (scope.hypothesisId = none ∧ isBlank scopeFingerprint = false)
        ∧ (decision = some "INCLUDE" ∨ decision = some "UNDECIDED")
        ∧ Accepted db table scope hypothesisId hypothesisRef seed chainDepth parents
        ∧ result = (db.withFirst scope hypothesisId seed,
          table.put hypothesisId (registeredRow hypothesisRef chainDepth parents)) := by
  constructor
  · intro committed
    obtain ⟨isScope, rest⟩ := raiseIf_bind_ok.1 committed
    obtain ⟨row, checked, rest⟩ := except_bind_ok rest
    obtain ⟨linkable, named, rfl⟩ := checkRegistration_eq.1 checked
    obtain ⟨selected, rest⟩ := raiseIf_bind_ok.1 rest
    obtain ⟨_, registered, rest⟩ := except_bind_ok rest
    obtain ⟨agrees, rfl⟩ := registerRow_eq.1 registered
    obtain ⟨_, inserted, stored⟩ := except_bind_ok rest
    obtain ⟨valid, first, rfl⟩ := insertPendingProCon_withFirst.1 inserted
    cases stored
    refine ⟨by simpa using isScope, ?_, ⟨linkable, named, agrees, valid, first⟩, rfl⟩
    rw [not_and_or, not_not, not_not] at selected
    exact selected
  · rintro ⟨isScope, selected, accepted, rfl⟩
    have checked := checkRegistration_eq.2 ⟨accepted.linkable, accepted.named, rfl⟩
    have registered := registerRow_eq.2 ⟨accepted.agrees, rfl⟩
    have inserted := insertPendingProCon_withFirst.2 ⟨accepted.validSeed, accepted.first, rfl⟩
    refine raiseIf_bind_ok.2 ⟨by simp [isScope], ?_⟩
    change (checkRegistration scope hypothesisId
      (registeredRow hypothesisRef chainDepth parents) >>= _) = _
    rw [checked]
    refine raiseIf_bind_ok.2 ⟨by rw [not_and_or, not_not, not_not]; exact selected, ?_⟩
    rw [registered]
    change (insertPendingProCon db scope hypothesisId hypothesisRef seed >>= _) = _
    rw [inserted]
    rfl

/-- A registration without a checkpoint writes its row only. -/
theorem registerCandidateHypothesis_none {db : Database} {table : HypothesisTable}
    {scopeFingerprint : String} {decision : Option String}
    {result : Database × HypothesisTable}
    (committed : registerCandidateHypothesis db table scope scopeFingerprint decision
      hypothesisId hypothesisRef none chainDepth parents = .ok result) :
    (∀ stored, table.rows hypothesisId = some stored →
        stored.Agrees (registeredRow hypothesisRef chainDepth parents))
      ∧ result = (db, table.put hypothesisId
        (registeredRow hypothesisRef chainDepth parents)) := by
  obtain ⟨-, rest⟩ := raiseIf_bind_ok.1 committed
  obtain ⟨row, checked, rest⟩ := except_bind_ok rest
  obtain ⟨-, -, rfl⟩ := checkRegistration_eq.1 checked
  obtain ⟨-, rest⟩ := raiseIf_bind_ok.1 rest
  obtain ⟨_, registered, stored⟩ := except_bind_ok rest
  obtain ⟨agrees, rfl⟩ := registerRow_eq.1 registered
  cases stored
  exact ⟨agrees, rfl⟩

/-- The store after a candidate registration. -/
def CandidateStore.registered (store : CandidateStore) (scope : CheckpointIdentity)
    (key : CandidateKey) (hypothesisId : String) (hypothesisRef : StoredDataRef)
    (seed : StageCheckpoint) (chainDepth : Int) (parents : List String) : CandidateStore :=
  { store.withRegistered scope
      (store.world.db.withFirst scope hypothesisId seed,
        (store.hypotheses scope.scopeKey).put hypothesisId
          (registeredRow hypothesisRef chainDepth parents)) with
    links := Function.update store.links key (insert hypothesisId (store.links key)) }

/-- A candidate whose decision allows hypotheses. -/
def CandidateStore.Selected (store : CandidateStore) (key : CandidateKey) : Prop :=
  ∃ row, store.candidates key = some row
    ∧ (row.decision = "INCLUDE" ∨ row.decision = "UNDECIDED")

theorem CandidateStore.registerCandidateConnection_eq {store after : CandidateStore}
    {scopeFingerprint candidateId : String} {seed : StageCheckpoint} :
    store.registerCandidateConnection scope scopeFingerprint candidateId hypothesisId
        hypothesisRef (some seed) chainDepth parents = .ok after ↔
      (scope.hypothesisId = none ∧ isBlank scopeFingerprint = false)
        ∧ store.Selected ⟨scope.scopeKey, scopeFingerprint, candidateId⟩
        ∧ Accepted store.world.db (store.hypotheses scope.scopeKey) scope hypothesisId
          hypothesisRef seed chainDepth parents
        ∧ after = store.registered scope ⟨scope.scopeKey, scopeFingerprint, candidateId⟩
          hypothesisId hypothesisRef seed chainDepth parents := by
  have selected : ∀ key, store.Selected key ↔
      ((store.candidates key).map (·.decision) = some "INCLUDE"
        ∨ (store.candidates key).map (·.decision) = some "UNDECIDED") := by
    intro key
    cases found : store.candidates key <;> simp [CandidateStore.Selected, found]
  constructor
  · intro committed
    obtain ⟨tables, registers, stored⟩ := except_bind_ok committed
    obtain ⟨isScope, decided, accepted, rfl⟩ := registerCandidateHypothesis_eq.1 registers
    cases stored
    exact ⟨isScope, (selected _).2 decided, accepted, rfl⟩
  · rintro ⟨isScope, decided, accepted, rfl⟩
    have registers := registerCandidateHypothesis_eq.2
      ⟨isScope, (selected _).1 decided, accepted, rfl⟩
    change (Runtime.registerCandidateHypothesis _ _ _ _ _ _ _ _ _ _ >>= _) = _
    rw [registers]
    rfl

end Sastsimi.Runtime
