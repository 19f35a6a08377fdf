import Mathlib.Data.List.ReduceOption
import Sastsimi.Runtime.EvidenceRepair
import Sastsimi.Runtime.Frontier

/-!
# What a repair withdraws

Which hypotheses descend from a repaired one, which primitives they admitted, and which chaining
results considered one of those, all as relations over the stored rows; and that a repair that
returns has withdrawn exactly these and changed nothing else.
-/

namespace Sastsimi.Runtime

open SimpleStage Lib

variable [Platform]

/-! ## The relations -/

namespace RepairStore

/-- A registration of the scope lists a parent. -/
def ParentIn (store : RepairStore) (scope : ScopeKey) (parent child : String) : Prop :=
  ∃ row ∈ store.registrations.rows, row.key = ⟨scope, child⟩
    ∧ ∃ items, row.parentHypothesisIds = .arr items ∧ .str parent ∈ items

/-- A transitive descendant of a hypothesis. -/
def Descends (store : RepairStore) (scope : ScopeKey) (repaired : String) : String → Prop :=
  Relation.TransGen (store.ParentIn scope) repaired

/-- A descendant other than the repaired hypothesis, which a cycle makes its own. -/
def Withdrawn (store : RepairStore) (scope : ScopeKey) (repaired hypothesisId : String) : Prop :=
  hypothesisId ≠ repaired ∧ store.Descends scope repaired hypothesisId

/-- The repaired hypothesis or one of its descendants. -/
def Affected (store : RepairStore) (scope : ScopeKey) (repaired hypothesisId : String) : Prop :=
  hypothesisId = repaired ∨ store.Withdrawn scope repaired hypothesisId

/-- A primitive that an affected hypothesis admitted. -/
def Revoked (store : RepairStore) (scope : ScopeKey) (repaired : String)
    (primitive : StoredDataRef) : Prop :=
  ∃ admission ∈ store.stageCheckpoints scope.analysisId primitiveAdmissionDone,
    admission.status = .succeeded
      ∧ (∃ hypothesis, admission.identity.hypothesisId = some hypothesis
        ∧ store.Affected scope repaired hypothesis)
      ∧ admission.outputRefs[1]? = some primitive

end RepairStore

/-- A chaining result lists a primitive as considered. -/
def Considers (files : RepairFiles) (chain : StageCheckpoint) (primitive : StoredDataRef) : Prop :=
  ∃ begin read ref result items item,
    files.artifacts = some begin ∧ begin chain.identity = .ok read
      ∧ ref ∈ chain.outputRefs ∧ read ref = .ok result
      ∧ (result.get? "considered_primitive_refs").bind Json.arr? = some items
      ∧ item ∈ items ∧ files.validateRef item = .ok primitive

/-- The owner of a succeeded chaining result, not itself affected, that considered a revoked
primitive. -/
def RepairStore.Rewound (store : RepairStore) (files : RepairFiles) (scope : ScopeKey)
    (repaired owner : String) : Prop :=
  ∃ chain ∈ store.stageCheckpoints scope.analysisId chainingDone,
    chain.status = .succeeded ∧ chain.identity.hypothesisId = some owner
      ∧ ¬ store.Affected scope repaired owner
      ∧ ∃ primitive, store.Revoked scope repaired primitive ∧ Considers files chain primitive

/-! ## The closure of a plan -/

variable {files : RepairFiles} {identity : CheckpointIdentity} {repaired : String}
  {store : RepairStore} {plan : RepairPlan} {graph : List (String × List String)}

omit [Platform] in
theorem registeredParents_ok {row : RegisteredHypothesis} {entry : String × List String}
    (parsed : registeredParents row = .ok entry) :
    entry.1 = row.key.hypothesisId ∧ ∃ items, row.parentHypothesisIds = .arr items
      ∧ ∀ parent, parent ∈ entry.2 ↔ .str parent ∈ items := by
  rw [registeredParents] at parsed
  split at parsed
  · cases parsed
  · rename_i parents listed
    split at parsed
    · cases parsed
    · cases parsed
      obtain ⟨items, array, texts⟩ := Option.bind_eq_some_iff.1 listed
      refine ⟨rfl, items, Json.arr?_eq_some.1 array, ?_⟩
      intro parent
      rw [mem_mapM_some texts]
      simp [Json.str?_eq_some]

/-- The parsed graph has the edges of the stored registrations. -/
theorem parentsById_edges {scope : ScopeKey} (parsed : store.parentsById scope = .ok graph)
    {parent child : String} : ParentOf graph parent child ↔ store.ParentIn scope parent child := by
  constructor
  · rintro ⟨entry, listed, rfl, member⟩
    obtain ⟨row, registered, entered⟩ := (mem_mapM_ok parsed entry).1 listed
    obtain ⟨named, items, array, parents⟩ := registeredParents_ok entered
    obtain ⟨stored, inScope⟩ := List.mem_filter.1 registered
    refine ⟨row, stored, ?_, items, array, (parents parent).1 member⟩
    rw [named, ← of_decide_eq_true inScope]
  · rintro ⟨row, stored, keyed, items, array, member⟩
    have registered : row ∈ store.registered scope := by
      rw [RepairStore.registered, List.mem_filter]
      exact ⟨stored, by simp [keyed]⟩
    obtain ⟨entry, entered⟩ := mapM_ok_value parsed registered
    obtain ⟨named, others, same, parents⟩ := registeredParents_ok entered
    rw [array, Json.arr.injEq] at same
    refine ⟨entry, (mem_mapM_ok parsed entry).2 ⟨row, registered, entered⟩, ?_, ?_⟩
    · rw [named, keyed]
    · rw [parents parent, ← same]
      exact member

/-- The loop over the parsed graph finds the descendants other than the start. -/
theorem parentsById_closure {scope : ScopeKey} (parsed : store.parentsById scope = .ok graph)
    {rounds : Nat} {withdrawn : List String}
    (ended : descendants graph repaired rounds = some withdrawn) (hypothesisId : String) :
    hypothesisId ∈ withdrawn ↔ store.Withdrawn scope repaired hypothesisId := by
  have edges : ParentOf graph = store.ParentIn scope := by
    funext parent child
    exact propext (parentsById_edges parsed)
  rw [mem_descendants ended, DescendsFrom, edges]
  rfl

/-! ## The primitives of a plan -/

theorem revokedPrimitive_ok {affected : List String} {checkpoint : StageCheckpoint}
    {found : Option StoredDataRef}
    (looked : revokedPrimitive files identity affected checkpoint = .ok found)
    (primitive : StoredDataRef) :
    found = some primitive ↔
      checkpoint.status = .succeeded ∧ checkpoint.identity.hypothesisId ∈ affected.map some
        ∧ checkpoint.outputRefs[1]? = some primitive := by
  rw [revokedPrimitive] at looked
  split at looked
  · rename_i spared
    cases looked
    simp [spared]
  · rename_i affects
    rw [not_not] at affects
    split at looked
    · cases looked
    · split at looked
      · rename_i unfinished
        cases looked
        simp [unfinished]
      · rename_i finished
        rw [not_not] at finished
        split at looked
        · cases looked
        · split at looked
          · rename_i single
            obtain ⟨_, _, continued⟩ := except_bind_ok looked
            obtain ⟨_, _, last⟩ := except_bind_ok continued
            cases last
            simp [single]
          · rename_i pair
            cases looked
            simp [pair, finished, affects]
          · cases looked

/-! ## The owners of a plan -/

omit [Platform] in
theorem document_ok {caught : PyError → PyError} {ref : StoredDataRef} {document : Json}
    (opened : files.document caught identity ref = .ok document) :
    ∃ begin read, files.artifacts = some begin ∧ begin identity = .ok read
      ∧ read ref = .ok document := by
  rw [RepairFiles.document] at opened
  split at opened
  · cases opened
  · rename_i begin stored
    obtain ⟨read, opens, reads⟩ := except_bind_ok opened
    refine ⟨begin, read, stored, opens, ?_⟩
    cases result : read ref with
    | error reason =>
        rw [result] at reads
        cases reads
    | ok value =>
        rw [result] at reads
        cases reads
        rfl

omit [Platform] in
theorem consideredPrimitives_ok {analysisId owner : String} {result : Json}
    {considered : List StoredDataRef}
    (parsed : consideredPrimitives files analysisId owner result = .ok considered) :
    ∃ items, (result.get? "considered_primitive_refs").bind Json.arr? = some items
      ∧ ∀ primitive, primitive ∈ considered ↔ ∃ item ∈ items,
        files.validateRef item = .ok primitive := by
  rw [consideredPrimitives] at parsed
  split at parsed
  · cases parsed
  · split at parsed
    · cases parsed
    · rename_i items listed
      refine ⟨items, listed, ?_⟩
      cases validated : items.mapM files.validateRef with
      | error reason =>
          rw [validated] at parsed
          cases parsed
      | ok refs =>
          rw [validated] at parsed
          cases parsed
          exact mem_mapM_ok validated

theorem dependentOwner_ok {affected : List String} {revoked : List StoredDataRef}
    {chain : StageCheckpoint} {found : Option String}
    (looked : dependentOwner files identity graph affected revoked chain = .ok found)
    (owner : String) :
    found = some owner ↔
      chain.status = .succeeded ∧ chain.identity.hypothesisId = some owner ∧ owner ∉ affected
        ∧ ∃ primitive ∈ revoked, Considers files chain primitive := by
  rw [dependentOwner] at looked
  split at looked
  · rename_i spared
    cases looked
    simp only [reduceCtorEq, false_iff]
    rintro ⟨finished, owned, outside, -⟩
    rcases spared with unfinished | affects
    · exact unfinished finished
    · rw [owned] at affects
      exact outside (by simpa using affects)
  · rename_i candidate
    rw [not_or, not_not] at candidate
    split at looked
    · cases looked
    · split at looked
      · rename_i holder ref owned outputs
        obtain ⟨result, opened, continued⟩ := except_bind_ok looked
        obtain ⟨considered, parsed, decided⟩ := except_bind_ok continued
        obtain ⟨begin, read, stored, opens, reads⟩ := document_ok opened
        obtain ⟨items, listed, members⟩ := consideredPrimitives_ok parsed
        have considers : ∀ primitive, Considers files chain primitive ↔ primitive ∈ considered := by
          intro primitive
          rw [members]
          constructor
          · rintro ⟨begin', read', ref', result', items', item, stored', opens', output, reads',
              listed', member, valid⟩
            rw [outputs, List.mem_singleton] at output
            rw [stored, Option.some.injEq] at stored'
            subst stored' output
            rw [opens, Except.ok.injEq] at opens'
            subst opens'
            rw [reads, Except.ok.injEq] at reads'
            subst reads'
            rw [listed, Option.some.injEq] at listed'
            exact ⟨item, listed' ▸ member, valid⟩
          · rintro ⟨item, member, valid⟩
            exact ⟨begin, read, ref, result, items, item, stored, opens, by simp [outputs], reads,
              listed, member, valid⟩
        have outside : holder ∉ affected := by
          intro inside
          apply candidate.2
          rw [owned]
          exact List.mem_map_of_mem inside
        split at decided
        · rename_i depends
          obtain ⟨primitive, member, withdrawn⟩ := depends
          obtain ⟨_, _, last⟩ := except_bind_ok decided
          cases last
          rw [owned, Option.some.injEq]
          constructor
          · rintro rfl
            exact ⟨candidate.1, rfl, outside, primitive, withdrawn, (considers primitive).2 member⟩
          · exact fun found => found.2.1
        · rename_i independent
          cases decided
          simp only [reduceCtorEq, false_iff]
          rintro ⟨-, -, -, primitive, withdrawn, considered⟩
          exact independent ⟨primitive, (considers primitive).1 considered, withdrawn⟩
      · cases looked

/-- Every succeeded chaining result that the loop accepts has an owner. -/
theorem dependentOwner_owned {affected : List String} {revoked : List StoredDataRef}
    {chain : StageCheckpoint} {found : Option String}
    (looked : dependentOwner files identity graph affected revoked chain = .ok found)
    (finished : chain.status = .succeeded) :
    ∃ owner, chain.identity.hypothesisId = some owner := by
  rw [dependentOwner] at looked
  split at looked
  · rename_i spared
    rcases spared with unfinished | affects
    · exact absurd finished unfinished
    · obtain ⟨owner, -, named⟩ := List.mem_map.1 affects
      exact ⟨owner, named.symm⟩
  · split at looked
    · cases looked
    · split at looked
      · rename_i owner _ owned _
        exact ⟨owner, owned⟩
      · cases looked

/-! ## The plan -/

/-- A plan that names what the stored rows withdraw. -/
structure RepairPlan.Exact (plan : RepairPlan) (files : RepairFiles) (scope : ScopeKey)
    (repaired : String) (store : RepairStore) : Prop where
  withdrawn : ∀ hypothesisId,
    hypothesisId ∈ plan.withdrawn ↔ store.Withdrawn scope repaired hypothesisId
  rewound : ∀ owner, owner ∈ plan.rewound ↔ store.Rewound files scope repaired owner
  owned : ∀ chain ∈ store.stageCheckpoints scope.analysisId chainingDone,
    chain.status = .succeeded → ∀ primitive, store.Revoked scope repaired primitive →
      ∃ owner, chain.identity.hypothesisId = some owner

theorem planRepair_exact (planned : planRepair files identity repaired store = .ok plan) :
    plan.Exact files identity.scopeKey repaired store := by
  rw [planRepair] at planned
  obtain ⟨graph, parsed, planned⟩ := except_bind_ok planned
  obtain ⟨_, planned⟩ := raiseIf_bind_ok.1 planned
  obtain ⟨withdrawn, ended, planned⟩ := except_bind_ok planned
  obtain ⟨_, planned⟩ := raiseIf_bind_ok.1 planned
  obtain ⟨primitives, looked, planned⟩ := except_bind_ok planned
  obtain ⟨owners, found, planned⟩ := except_bind_ok planned
  cases planned
  have closure := parentsById_closure parsed (required_ok.1 ended)
  have affected : ∀ hypothesis, hypothesis ∈ repaired :: withdrawn ↔
      store.Affected identity.scopeKey repaired hypothesis := by
    intro hypothesis
    rw [List.mem_cons, closure]
    rfl
  have revoked : ∀ primitive, primitive ∈ primitives.reduceOption ↔
      store.Revoked identity.scopeKey repaired primitive := by
    intro primitive
    rw [List.reduceOption_mem_iff, mem_mapM_ok looked]
    apply exists_congr
    intro admission
    apply and_congr_right
    intro member
    obtain ⟨value, computed⟩ := mapM_ok_value looked member
    rw [computed, Except.ok.injEq, revokedPrimitive_ok computed]
    apply and_congr_right
    intro _
    apply and_congr_left
    intro _
    rw [List.mem_map]
    constructor
    · rintro ⟨hypothesis, listed, named⟩
      exact ⟨hypothesis, named.symm, (affected hypothesis).1 listed⟩
    · rintro ⟨hypothesis, named, listed⟩
      exact ⟨hypothesis, (affected hypothesis).2 listed, named.symm⟩
  rw [dependentOwners] at found
  refine ⟨closure, ?_, ?_⟩
  · intro owner
    split at found
    · rename_i none
      cases found
      simp only [List.reduceOption_nil, List.not_mem_nil, false_iff]
      rintro ⟨_, _, _, _, _, primitive, withdrawn, _⟩
      rw [← revoked, none] at withdrawn
      exact absurd withdrawn List.not_mem_nil
    · rw [List.reduceOption_mem_iff, mem_mapM_ok found]
      apply exists_congr
      intro chain
      apply and_congr_right
      intro member
      obtain ⟨value, computed⟩ := mapM_ok_value found member
      rw [computed, Except.ok.injEq, dependentOwner_ok computed, affected]
      simp only [revoked]
  · intro chain member finished primitive withdrawn
    split at found
    · rename_i none
      rw [← revoked, none] at withdrawn
      exact absurd withdrawn List.not_mem_nil
    · obtain ⟨value, computed⟩ := mapM_ok_value found member
      exact dependentOwner_owned computed finished

/-! ## The changes -/

namespace RepairStore

/-- The stores differ at most in cached evidence of one hypothesis. -/
structure EvidenceOnly (scope : ScopeKey) (repaired : String) (before after : RepairStore) :
    Prop where
  rest : after = { before with evidence := after.evidence }
  evidence : ∀ row : RoleEvidence, ¬ (row.key.scope = scope ∧ row.key.hypothesisId = repaired) →
    (row ∈ after.evidence.rows ↔ row ∈ before.evidence.rows)

theorem EvidenceOnly.refl (scope : ScopeKey) (repaired : String) (store : RepairStore) :
    EvidenceOnly scope repaired store store :=
  ⟨rfl, fun _ _ => Iff.rfl⟩

theorem EvidenceOnly.trans {scope : ScopeKey} {first second third : RepairStore}
    (left : EvidenceOnly scope repaired first second)
    (right : EvidenceOnly scope repaired second third) :
    EvidenceOnly scope repaired first third := by
  refine ⟨?_, fun row other => (right.evidence row other).trans (left.evidence row other)⟩
  rw [right.rest, left.rest]

end RepairStore

omit [Platform] in
theorem proConBatchKey_ok {role inputHash : String} {key : RoleKey}
    (keyed : proConBatchKey identity role inputHash = .ok key) :
    key.scope = identity.scopeKey ∧ identity.hypothesisId = some key.hypothesisId := by
  rw [proConBatchKey] at keyed
  split at keyed
  · cases keyed
  · rename_i hypothesis named
    split at keyed
    · cases keyed
    · cases keyed
      exact ⟨rfl, named⟩

theorem reviseCached_evidenceOnly {request : RepairRequest} {role : String} {key : RoleKey}
    {actual : Option StoredDataRef} {after : RepairStore} {answer : Unit}
    (revised : reviseCached request role key actual store = (.ok answer, after)) :
    RepairStore.EvidenceOnly key.scope key.hypothesisId store after := by
  have other : ∀ row : RoleEvidence,
      ¬ (row.key.scope = key.scope ∧ row.key.hypothesisId = key.hypothesisId) → row.key ≠ key := by
    intro row differs same
    exact differs (same ▸ ⟨rfl, rfl⟩)
  unfold reviseCached at revised
  generalize request.invalid role = invalid, request.checkpoint.roleOutput role = output
    at revised
  cases invalid with
  | true =>
      cases actual with
      | none =>
          cases revised
          exact .refl _ _ _
      | some cached =>
          cases revised
          refine ⟨rfl, fun row differs => ?_⟩
          simp [RepairStore.deleteEvidence, other row differs]
  | false =>
      cases actual with
      | some cached =>
          cases revised
          exact .refl _ _ _
      | none =>
          cases output with
          | none =>
              cases revised
              exact .refl _ _ _
          | some valid =>
              obtain ⟨_, between, linked, changed⟩ := Prog.bind_returned revised
              obtain ⟨_, rfl⟩ := Prog.ofExcept_returned.1 linked
              cases changed
              refine ⟨rfl, fun row differs => ?_⟩
              have distinct : row.key ≠ key := other row differs
              change row ∈ (store.evidence.put ⟨key, valid⟩).rows ↔ row ∈ store.evidence.rows
              rw [Table.mem_put]
              constructor
              · rintro (⟨stored, -⟩ | rfl)
                · exact stored
                · exact absurd rfl distinct
              · exact fun stored => .inl ⟨stored, distinct⟩

theorem reviseRole_evidenceOnly {request : RepairRequest} {role : String} {after : RepairStore}
    {answer : Unit} (named : request.checkpoint.identity.hypothesisId = some repaired)
    (revised : reviseRole request role store = (.ok answer, after)) :
    RepairStore.EvidenceOnly request.checkpoint.identity.scopeKey repaired store after := by
  rw [reviseRole] at revised
  obtain ⟨key, between, keyed, revised⟩ := Prog.bind_returned revised
  obtain ⟨keys, rfl⟩ := Prog.ofExcept_returned.1 keyed
  obtain ⟨looked, between, same, revised⟩ := Prog.bind_returned revised
  cases same
  obtain ⟨_, between, checked, revised⟩ := Prog.bind_returned revised
  obtain ⟨_, rfl⟩ := Prog.ofExcept_returned.1 checked
  obtain ⟨inScope, owner⟩ := proConBatchKey_ok keys
  rw [named, Option.some.injEq] at owner
  rw [← inScope, owner]
  exact reviseCached_evidenceOnly revised

/-! ## The rows after the changes -/

namespace RepairStore

section

variable {ρ κ : Type} {key : ρ → κ} {change : RepairStore → String → RepairStore}
  {ids : List String} {row : ρ}

/-- A table after changes that each delete some of its rows. -/
theorem mem_foldl (part : RepairStore → Table key) (selects : String → ρ → Bool)
    (deletes : ∀ store id, part (change store id) = (part store).delete (selects id)) :
    row ∈ (part (ids.foldl change store)).rows ↔
      row ∈ (part store).rows ∧ ∀ id ∈ ids, ¬ selects id row = true := by
  have table : part (ids.foldl change store)
      = ids.foldl (fun table id => table.delete (selects id)) (part store) :=
    (List.foldl_hom part fun store id => (deletes store id).symm).symm
  rw [table, Table.mem_foldl_delete]

/-- What no change touches. -/
theorem foldl_same {α : Type} (part : RepairStore → α)
    (same : ∀ store id, part (change store id) = part store) :
    part (ids.foldl change store) = part store := by
  induction ids generalizing store with
  | nil => rfl
  | cons id rest ih => rw [List.foldl_cons, ih, same]

end

variable {scope : ScopeKey} {pending : StageCheckpoint} {ids : List String}

theorem checkpoints_rewind {row : StageCheckpoint} :
    row ∈ (store.rewind scope ids).checkpoints.rows ↔
      row ∈ store.checkpoints.rows
        ∧ ∀ owner ∈ ids, ¬ row.IsFrom scope.analysisId owner chainingDone := by
  rw [rewind, mem_foldl RepairStore.checkpoints
    (fun owner row => row.IsFrom scope.analysisId owner chainingDone) fun _ _ => rfl]
  simp

theorem checkpoints_withdraw {row : StageCheckpoint} :
    row ∈ (store.withdraw scope ids).checkpoints.rows ↔
      row ∈ store.checkpoints.rows
        ∧ ∀ id ∈ ids, ¬ row.IsFrom scope.analysisId id staticDone := by
  rw [withdraw, mem_foldl RepairStore.checkpoints
    (fun id row => row.IsFrom scope.analysisId id staticDone) fun _ _ => rfl]
  simp

theorem checkpoints_applyPlan {row : StageCheckpoint} :
    row ∈ (store.applyPlan scope repaired plan pending).checkpoints.rows ↔
      (((row ∈ store.checkpoints.rows
        ∧ ∀ owner ∈ plan.rewound, ¬ row.IsFrom scope.analysisId owner chainingDone)
        ∧ ∀ id ∈ plan.withdrawn, ¬ row.IsFrom scope.analysisId id staticDone)
        ∧ ¬ row.IsFrom scope.analysisId repaired proConDone) ∧ row.key ≠ pending.key
      ∨ row = pending := by
  rw [applyPlan, putCheckpoint, Table.mem_put, deleteStages, Table.mem_delete,
    checkpoints_withdraw, checkpoints_rewind, decide_eq_true_eq]

/-- A table of hypotheses after a plan: the rows of the withdrawn ones are gone. -/
theorem mem_applyPlan {ρ κ : Type} {key : ρ → κ} {row : ρ} (part : RepairStore → Table key)
    (selects : String → ρ → Bool)
    (withdraws : ∀ (store : RepairStore) id,
      part (store.deleteHypothesis scope id) = (part store).delete (selects id))
    (keeps : ∀ (store : RepairStore) stage id,
      part (store.deleteStages scope.analysisId stage id) = part store)
    (puts : ∀ (store : RepairStore), part (store.putCheckpoint pending) = part store) :
    row ∈ (part (store.applyPlan scope repaired plan pending)).rows ↔
      row ∈ (part store).rows ∧ ∀ id ∈ plan.withdrawn, ¬ selects id row = true := by
  rw [applyPlan, puts, keeps, withdraw, mem_foldl part selects withdraws, rewind,
    foldl_same part fun store id => keeps store chainingDone id]

theorem runs_applyPlan : (store.applyPlan scope repaired plan pending).runs = store.runs := by
  rw [applyPlan, putCheckpoint, deleteStages, withdraw, foldl_same RepairStore.runs, rewind,
    foldl_same RepairStore.runs]
  · exact fun _ _ => rfl
  · exact fun _ _ => rfl

theorem dashboard_applyPlan :
    (store.applyPlan scope repaired plan pending).dashboard = store.dashboard := by
  rw [applyPlan, putCheckpoint, deleteStages, withdraw, foldl_same RepairStore.dashboard, rewind,
    foldl_same RepairStore.dashboard]
  · exact fun _ _ => rfl
  · exact fun _ _ => rfl

/-- The reopened stage is the only later stage of the repaired hypothesis. -/
theorem reopened_applyPlan {row : StageCheckpoint}
    (owned : row.IsFrom scope.analysisId repaired proConDone) :
    row ∈ (store.applyPlan scope repaired plan pending).checkpoints.rows ↔ row = pending := by
  rw [checkpoints_applyPlan]
  simp [owned]

end RepairStore

/-! ## The outcome of a repair -/

/-- What a repair that returns did to the tables. -/
structure RepairOutcome (files : RepairFiles) (scope : ScopeKey) (repaired : String)
    (pending : StageCheckpoint) (before after : RepairStore) : Prop where
  checkpoints : ∀ row ∈ after.checkpoints.rows, row.key.analysisId = scope.analysisId →
    ¬ before.Withdrawn scope repaired row.key.hypothesisKey
  registrations : ∀ row ∈ after.registrations.rows, row.key.scope = scope →
    ¬ before.Withdrawn scope repaired row.key.hypothesisId
  links : ∀ row ∈ after.links.rows, row.candidate.scope = scope →
    ¬ before.Withdrawn scope repaired row.hypothesisId
  claims : ∀ row ∈ after.claims.rows, row.key.scope = scope →
    ¬ before.Withdrawn scope repaired row.key.hypothesisId
  chaining : ∀ chain ∈ after.stageCheckpoints scope.analysisId chainingDone,
    chain.status = .succeeded → ∀ primitive, before.Revoked scope repaired primitive →
      ¬ Considers files chain primitive
  terminal : ∀ run ∈ after.runs.rows, run.analysisId = scope.analysisId →
    run.candidateTerminal = none
  reopened : ∀ row : StageCheckpoint, row.IsFrom scope.analysisId repaired proConDone →
    (row ∈ after.checkpoints.rows ↔ row = pending)
  keptCheckpoints : ∀ row : StageCheckpoint,
    ¬ row.IsFrom scope.analysisId repaired proConDone →
    (row.key.analysisId = scope.analysisId →
      ¬ before.Withdrawn scope repaired row.key.hypothesisKey
        ∧ ¬ (before.Rewound files scope repaired row.key.hypothesisKey
          ∧ chainingDone.index ≤ row.stage.index)) →
      (row ∈ after.checkpoints.rows ↔ row ∈ before.checkpoints.rows)
  keptRegistrations : ∀ row : RegisteredHypothesis,
    (row.key.scope = scope → ¬ before.Withdrawn scope repaired row.key.hypothesisId) →
      (row ∈ after.registrations.rows ↔ row ∈ before.registrations.rows)
  keptLinks : ∀ row : HypothesisLink,
    (row.candidate.scope = scope → ¬ before.Withdrawn scope repaired row.hypothesisId) →
      (row ∈ after.links.rows ↔ row ∈ before.links.rows)
  keptClaims : ∀ row : ChildClaim,
    (row.key.scope = scope → ¬ before.Withdrawn scope repaired row.key.hypothesisId) →
      (row ∈ after.claims.rows ↔ row ∈ before.claims.rows)
  keptEvidence : ∀ row : RoleEvidence,
    (row.key.scope = scope → ¬ before.Affected scope repaired row.key.hypothesisId) →
      (row ∈ after.evidence.rows ↔ row ∈ before.evidence.rows)
  keptRuns : ∀ run : AnalysisRun, run.analysisId ≠ scope.analysisId →
    (run ∈ after.runs.rows ↔ run ∈ before.runs.rows)
  activity : ∃ events, after.activity = before.activity ++ events
  dashboard : ∀ analysisId, analysisId ≠ scope.analysisId →
    after.dashboard.map (fun rows => rows analysisId)
      = before.dashboard.map fun rows => rows analysisId

variable {request : RepairRequest} {now : Nat} {marker : String} {after : RepairStore}

omit [Platform] in
theorem appendEvent_appends {activity appended : List AgentActivityEvent}
    {event : AgentActivityEvent} (added : appendEvent activity event = .ok appended) :
    ∃ events, appended = activity ++ events := by
  rw [appendEvent] at added
  split at added
  · split at added
    · cases added
      exact ⟨[], (List.append_nil _).symm⟩
    · cases added
  · split at added
    · cases added
    · cases added
      exact ⟨[event], rfl⟩

/-- The tables after the statements of a repair. -/
theorem repairStatements_ok {answer : Unit}
    (named : request.checkpoint.identity.hypothesisId = some repaired)
    (ran : repairStatements files request repaired now marker store = (.ok answer, after)) :
    ∃ run revised plan events,
      store.runs.find request.checkpoint.identity.analysisId = some run
        ∧ RepairStore.EvidenceOnly request.checkpoint.identity.scopeKey repaired store revised
        ∧ RepairPlan.Exact plan files request.checkpoint.identity.scopeKey repaired revised
        ∧ after = RepairStore.markDirty
            { (revised.applyPlan request.checkpoint.identity.scopeKey repaired plan
                (request.checkpoint.reopened now)).clearTerminal run with
              activity := revised.activity ++ events }
            request.checkpoint.identity.analysisId marker := by
  rw [repairStatements] at ran
  obtain ⟨stored, between, same, ran⟩ := Prog.bind_returned ran
  cases same
  obtain ⟨run, between, checked, ran⟩ := Prog.bind_returned ran
  obtain ⟨checks, rfl⟩ := Prog.ofExcept_returned.1 checked
  obtain ⟨_, pro, first, ran⟩ := Prog.bind_returned ran
  obtain ⟨_, con, second, ran⟩ := Prog.bind_returned ran
  obtain ⟨revised, between, same, ran⟩ := Prog.bind_returned ran
  cases same
  obtain ⟨plan, between, planned, ran⟩ := Prog.bind_returned ran
  obtain ⟨plans, rfl⟩ := Prog.ofExcept_returned.1 planned
  obtain ⟨_, applied, changed, ran⟩ := Prog.bind_returned ran
  cases changed
  obtain ⟨_, cleared, changed, ran⟩ := Prog.bind_returned ran
  cases changed
  obtain ⟨event, between, built, ran⟩ := Prog.bind_returned ran
  obtain ⟨_, rfl⟩ := Prog.ofExcept_returned.1 built
  obtain ⟨activity, between, added, ran⟩ := Prog.bind_returned ran
  obtain ⟨adds, rfl⟩ := Prog.ofExcept_returned.1 added
  obtain ⟨_, logged, changed, ran⟩ := Prog.bind_returned ran
  cases changed
  cases ran
  obtain ⟨events, rfl⟩ := appendEvent_appends adds
  rw [repairRun] at checks
  obtain ⟨_, checks⟩ := raiseIf_bind_ok.1 checks
  obtain ⟨found, required, checks⟩ := except_bind_ok checks
  obtain ⟨_, last⟩ := raiseIf_bind_ok.1 checks
  cases last
  exact ⟨run, _, plan, events, required_ok.1 required,
    (reviseRole_evidenceOnly named first).trans (reviseRole_evidenceOnly named second),
    planRepair_exact plans, rfl⟩

/-! ## The parts of the outcome -/

section Outcome

variable {scope : ScopeKey} {revised : RepairStore} {pending : StageCheckpoint}
  {run : AnalysisRun}

/-- A plan over a store with other cached evidence is a plan over the store. -/
theorem RepairPlan.Exact.before (sound : plan.Exact files scope repaired revised)
    (only : RepairStore.EvidenceOnly scope repaired store revised) :
    plan.Exact files scope repaired store := by
  rw [only.rest] at sound
  exact ⟨sound.withdrawn, sound.rewound, sound.owned⟩

theorem clearTerminal_rest :
    store.clearTerminal run = { store with runs := (store.clearTerminal run).runs } := by
  rw [RepairStore.clearTerminal]
  split <;> rfl

/-- The run of the analysis loses its terminal result, and every other run is kept. -/
theorem mem_clearTerminal (found : store.runs.find scope.analysisId = some run)
    {other : AnalysisRun} :
    other ∈ (store.clearTerminal run).runs.rows ↔
      other ∈ store.runs.rows ∧ other.analysisId ≠ scope.analysisId
        ∨ other = { run with candidateTerminal := none } := by
  obtain ⟨stored, named⟩ := Table.find_eq_some.1 found
  rw [RepairStore.clearTerminal]
  split
  · rw [Table.mem_put, ← named]
  · rename_i cleared
    rw [not_not] at cleared
    have same : ({ run with candidateTerminal := none } : AnalysisRun) = run := by
      rw [← cleared]
    rw [same, ← named]
    constructor
    · intro member
      by_cases owned : other.analysisId = run.analysisId
      · exact .inr (Table.eq_of_key member stored owned)
      · exact .inl ⟨member, owned⟩
    · rintro (⟨member, -⟩ | rfl)
      · exact member
      · exact stored

/-- A checkpoint outside the closure, apart from rewound stages, is as before. -/
theorem RepairPlan.Exact.kept_checkpoint (sound : plan.Exact files scope repaired store)
    {row : StageCheckpoint}
    (keyed : pending.IsFrom scope.analysisId repaired proConDone)
    (outside : ¬ row.IsFrom scope.analysisId repaired proConDone)
    (spared : row.key.analysisId = scope.analysisId →
      ¬ store.Withdrawn scope repaired row.key.hypothesisKey
        ∧ ¬ (store.Rewound files scope repaired row.key.hypothesisKey
          ∧ chainingDone.index ≤ row.stage.index)) :
    row ∈ (store.applyPlan scope repaired plan pending).checkpoints.rows ↔
      row ∈ store.checkpoints.rows := by
  have other : row.key ≠ pending.key := by
    intro same
    have stages : row.stage = pending.stage := congrArg CheckpointKey.stage same
    exact outside ⟨same ▸ keyed.1, same ▸ keyed.2.1, stages ▸ keyed.2.2⟩
  rw [RepairStore.checkpoints_applyPlan]
  constructor
  · rintro (⟨⟨⟨⟨member, -⟩, -⟩, -⟩, -⟩ | rfl)
    · exact member
    · exact absurd keyed outside
  · intro member
    refine .inl ⟨⟨⟨⟨member, ?_⟩, ?_⟩, outside⟩, other⟩
    · rintro owner listed ⟨inAnalysis, rfl, late⟩
      exact (spared inAnalysis).2 ⟨(sound.rewound _).1 listed, late⟩
    · rintro id listed ⟨inAnalysis, rfl, -⟩
      exact (spared inAnalysis).1 ((sound.withdrawn _).1 listed)

/-- No checkpoint of a withdrawn hypothesis is left. -/
theorem RepairPlan.Exact.checkpoint_gone (sound : plan.Exact files scope repaired store)
    {row : StageCheckpoint} (keyed : pending.IsFrom scope.analysisId repaired proConDone)
    (stored : row ∈ (store.applyPlan scope repaired plan pending).checkpoints.rows)
    (inAnalysis : row.key.analysisId = scope.analysisId) :
    ¬ store.Withdrawn scope repaired row.key.hypothesisKey := by
  intro withdrawn
  rcases RepairStore.checkpoints_applyPlan.1 stored with ⟨⟨⟨-, kept⟩, -⟩, -⟩ | rfl
  · exact kept _ ((sound.withdrawn _).2 withdrawn) ⟨inAnalysis, rfl, Nat.zero_le _⟩
  · exact withdrawn.1 keyed.2.1

/-- No succeeded chaining result that is left considered a revoked primitive. -/
theorem RepairPlan.Exact.chaining (sound : plan.Exact files scope repaired store) {chain : StageCheckpoint}
    (keyed : pending.stage = proConDone)
    (stored : chain ∈ (store.applyPlan scope repaired plan pending).stageCheckpoints
      scope.analysisId chainingDone)
    (succeeded : chain.status = .succeeded) {primitive : StoredDataRef}
    (revoked : store.Revoked scope repaired primitive) : ¬ Considers files chain primitive := by
  intro considers
  obtain ⟨member, named⟩ := List.mem_filter.1 stored
  obtain ⟨inAnalysis, stage⟩ := of_decide_eq_true named
  rcases RepairStore.checkpoints_applyPlan.1 member with
    ⟨⟨⟨⟨member, unrewound⟩, kept⟩, later⟩, -⟩ | rfl
  · have listed : chain ∈ store.stageCheckpoints scope.analysisId chainingDone :=
      List.mem_filter.2 ⟨member, named⟩
    obtain ⟨owner, owned⟩ := sound.owned chain listed succeeded primitive revoked
    have key : chain.key.hypothesisKey = owner := by
      rw [StageCheckpoint.key, CheckpointIdentity.key, hypothesisKey, owned, Option.getD_some]
    by_cases affected : store.Affected scope repaired owner
    · rcases affected with rfl | withdrawn
      · exact later ⟨inAnalysis, key, by rw [stage]; decide⟩
      · exact kept owner ((sound.withdrawn owner).2 withdrawn) ⟨inAnalysis, key, Nat.zero_le _⟩
    · apply unrewound owner
      · exact (sound.rewound owner).2
          ⟨chain, listed, succeeded, owned, affected, primitive, revoked, considers⟩
      · exact ⟨inAnalysis, key, stage ▸ Nat.le_refl _⟩
  · rw [keyed] at stage
    cases stage

/-- A table of hypotheses after a plan: the rows of the withdrawn ones are gone. -/
theorem RepairPlan.Exact.mem_table {ρ κ : Type} {key : ρ → κ}
    (sound : plan.Exact files scope repaired store) (pending : StageCheckpoint)
    (part : RepairStore → Table key) (scopeOf : ρ → ScopeKey) (idOf : ρ → String)
    (withdraws : ∀ (store : RepairStore) id, part (store.deleteHypothesis scope id)
      = (part store).delete fun row => scopeOf row = scope ∧ idOf row = id)
    (keeps : ∀ (store : RepairStore) stage id,
      part (store.deleteStages scope.analysisId stage id) = part store)
    (puts : ∀ (store : RepairStore), part (store.putCheckpoint pending) = part store) (row : ρ) :
    row ∈ (part (store.applyPlan scope repaired plan pending)).rows ↔
      row ∈ (part store).rows
        ∧ (scopeOf row = scope → ¬ store.Withdrawn scope repaired (idOf row)) := by
  rw [RepairStore.mem_applyPlan part (fun id row => scopeOf row = scope ∧ idOf row = id) withdraws
    keeps puts, ← sound.withdrawn]
  apply and_congr_right
  intro _
  simp only [decide_eq_true_eq, not_and]
  constructor
  · exact fun kept inScope listed => kept _ listed inScope rfl
  · rintro kept id listed inScope rfl
    exact kept inScope listed

/-- A plan carried out in a store, its run cleared and the event recorded. -/
theorem RepairPlan.Exact.outcome (sound : plan.Exact files scope repaired store)
    (keyed : pending.IsFrom scope.analysisId repaired proConDone)
    (stage : pending.stage = proConDone)
    (found : store.runs.find scope.analysisId = some run)
    (events : List AgentActivityEvent) (marker : String) :
    RepairOutcome files scope repaired pending store
      (RepairStore.markDirty
        { (store.applyPlan scope repaired plan pending).clearTerminal run with
          activity := store.activity ++ events } scope.analysisId marker) := by
  rw [clearTerminal_rest]
  have runs : (store.applyPlan scope repaired plan pending).runs = store.runs :=
    RepairStore.runs_applyPlan
  have cleared : ∀ other : AnalysisRun, other ∈
      ((store.applyPlan scope repaired plan pending).clearTerminal run).runs.rows ↔
        other ∈ store.runs.rows ∧ other.analysisId ≠ scope.analysisId
          ∨ other = { run with candidateTerminal := none } := by
    intro other
    rw [← runs] at found ⊢
    exact mem_clearTerminal found
  have registrations := sound.mem_table pending RepairStore.registrations
    (fun row => row.key.scope) (fun row => row.key.hypothesisId) (fun _ _ => rfl)
    (fun _ _ _ => rfl) fun _ => rfl
  have links := sound.mem_table pending RepairStore.links
    (fun row => row.candidate.scope) (fun row => row.hypothesisId) (fun _ _ => rfl)
    (fun _ _ _ => rfl) fun _ => rfl
  have claims := sound.mem_table pending RepairStore.claims
    (fun row => row.key.scope) (fun row => row.key.hypothesisId) (fun _ _ => rfl)
    (fun _ _ _ => rfl) fun _ => rfl
  have evidence := sound.mem_table pending RepairStore.evidence
    (fun row => row.key.scope) (fun row => row.key.hypothesisId) (fun _ _ => rfl)
    (fun _ _ _ => rfl) fun _ => rfl
  exact
    { checkpoints := fun row stored inAnalysis => sound.checkpoint_gone keyed stored inAnalysis
      registrations := fun row stored => ((registrations row).1 stored).2
      links := fun row stored => ((links row).1 stored).2
      claims := fun row stored => ((claims row).1 stored).2
      chaining := fun chain stored succeeded primitive revoked =>
        sound.chaining stage stored succeeded revoked
      terminal := by
        intro other stored inAnalysis
        rcases (cleared other).1 stored with ⟨-, differs⟩ | rfl
        · exact absurd inAnalysis differs
        · rfl
      reopened := fun row owned => RepairStore.reopened_applyPlan owned
      keptCheckpoints := fun row outside spared => sound.kept_checkpoint keyed outside spared
      keptRegistrations := fun row spared => (registrations row).trans (and_iff_left spared)
      keptLinks := fun row spared => (links row).trans (and_iff_left spared)
      keptClaims := fun row spared => (claims row).trans (and_iff_left spared)
      keptEvidence := fun row spared => (evidence row).trans
        (and_iff_left fun inScope withdrawn => spared inScope (.inr withdrawn))
      keptRuns := by
        intro other differs
        refine (cleared other).trans ?_
        constructor
        · rintro (⟨member, -⟩ | rfl)
          · exact member
          · exact absurd (Table.find_eq_some.1 found).2 differs
        · exact fun member => .inl ⟨member, differs⟩
      activity := ⟨events, rfl⟩
      dashboard := by
        intro analysisId differs
        have kept : (store.applyPlan scope repaired plan pending).dashboard = store.dashboard :=
          RepairStore.dashboard_applyPlan
        rw [← kept, RepairStore.markDirty, Option.map_map]
        congr 1
        funext rows
        exact Function.update_of_ne differs _ _ }

/-- The outcome for a store whose cached evidence was revised first. -/
theorem RepairOutcome.before {after : RepairStore}
    (outcome : RepairOutcome files scope repaired pending revised after)
    (only : RepairStore.EvidenceOnly scope repaired store revised) :
    RepairOutcome files scope repaired pending store after := by
  obtain ⟨evidence, rfl⟩ : ∃ evidence, revised = { store with evidence } := ⟨_, only.rest⟩
  exact
    { outcome with
      keptEvidence := by
        intro row spared
        refine (outcome.keptEvidence row spared).trans (only.evidence row ?_)
        rintro ⟨inScope, owned⟩
        exact spared inScope (.inl owned) }

end Outcome

/-! ## Every repair -/

/-- The closure is found on every graph.  A repair that raises leaves every table as it was; one
that returns has withdrawn the descendants of the repaired hypothesis other than itself, left no
succeeded chaining result that considered a revoked primitive, cleared the terminal result, and
kept every row outside the closure apart from the stages it rewound and its bookkeeping. -/
theorem repair_withdraws (files : RepairFiles) (request : RepairRequest) (now : Nat)
    (marker : String) (store : RepairStore) :
    (∀ (graph : List (String × List String)) start, ∃ result, ∀ extra,
      descendants graph start (enoughRounds graph + extra) = some result)
    ∧ match repairLegacyProConEvidence files request now marker store with
      | (.error _, after) => after = store
      | (.ok _, after) => ∃ repaired,
          request.checkpoint.identity.hypothesisId = some repaired
            ∧ RepairOutcome files request.checkpoint.identity.scopeKey repaired
              (request.checkpoint.reopened now) store after := by
  refine ⟨descendants_ends, ?_⟩
  cases performed : repairLegacyProConEvidence files request now marker store with
  | mk result after =>
      rw [repairLegacyProConEvidence] at performed
      cases named : request.checkpoint.identity.hypothesisId with
      | none =>
          rw [named] at performed
          cases performed
          rfl
      | some repaired =>
          rw [named] at performed
          dsimp only at performed
          split at performed
          · cases performed
            rfl
          · rename_i valid
            rw [not_not] at valid
            cases result with
            | error reason => exact Prog.transaction_error performed
            | ok value =>
                obtain ⟨_, between, ran, last⟩ :=
                  Prog.bind_returned (Prog.transaction_ok.1 performed)
                cases last
                obtain ⟨run, revised, plan, events, found, only, sound, rfl⟩ :=
                  repairStatements_ok named ran
                have keyed : (request.checkpoint.reopened now).IsFrom
                    request.checkpoint.identity.scopeKey.analysisId repaired proConDone := by
                  refine ⟨rfl, ?_, ?_⟩
                  · exact congrArg (Option.getD · "") named
                  · exact (congrArg SimpleStage.index valid.1).ge
                have same : revised.runs = store.runs := by rw [only.rest]
                rw [← same] at found
                exact ⟨repaired, rfl,
                  (sound.outcome keyed valid.1 found events marker).before only⟩

end Sastsimi.Runtime

/-! ## A cycle of parents -/

namespace Sastsimi.Runtime.Concrete

open SimpleStage Lib

/-- The scope of the analysis. -/
def repairScope : ScopeKey := ⟨"analysis", "workspace", "commit"⟩

/-- A succeeded stage of a hypothesis. -/
def succeededStage (hypothesisId : String) (stage : SimpleStage)
    (outputRefs : List StoredDataRef) : StageCheckpoint :=
  { identity := ⟨"analysis", "workspace", "commit", some hypothesisId⟩
    stage
    stageVersion := stage.stageVersion
    status := .succeeded
    inputRefs := []
    inputHash := "input"
    outputRefs
    updatedAt := 0
    inputHashExact := rfl }

/-- The evidence of `A`, of which the supporting side is invalid. -/
def invalidEvidence : StageCheckpoint :=
  succeededStage "A" proConDone [artifact "pro", artifact "con"]

/-- The finding of `D`, after a chaining result that considered the primitive of `A`. -/
def dependentFinding : StageCheckpoint := succeededStage "D" findingDone [artifact "finding"]

/-- A reference as a document holds it. -/
def encodedRef (ref : StoredDataRef) : Json :=
  .obj [("stored_data_id", .str ref.storedDataId), ("data_kind", .str ref.dataKind),
    ("content_hash", .str ref.contentHash), ("workspace_id", .str ref.workspaceId),
    ("commit_id", .str ref.commitId), ("record_id", .null)]

/-- The reference that a document holds. -/
def decodedRef (document : Json) : Except PyError StoredDataRef :=
  match textField document "stored_data_id", textField document "data_kind",
    textField document "content_hash", textField document "workspace_id",
    textField document "commit_id" with
  | some id, some kind, some hash, some workspace, some commit =>
      .ok ⟨id, kind, hash, workspace, commit, textField document "record_id"⟩
  | _, _, _, _, _ => .error (.valueError "ValidationError")

/-- The stored chaining result of `D`. -/
def chainingResult : Json :=
  .obj [("kind", .str "simple_chaining_result"), ("analysis_id", .str "analysis"),
    ("source_hypothesis_id", .str "D"),
    ("considered_primitive_refs", .arr [encodedRef (artifact "primitive")]),
    ("status", .str "NO_MATERIAL_CHILD"), ("children", .arr [])]

/-- The files: only the chaining result is read. -/
def repairFiles : RepairFiles where
  artifacts := some fun _ => .ok fun ref =>
    if ref = artifact "chain" then .ok chainingResult else .error .osError
  validateRef := decodedRef

/-- A registered hypothesis with its parents. -/
def registeredWith (hypothesisId : String) (parents : List String) : RegisteredHypothesis :=
  ⟨⟨repairScope, hypothesisId⟩, none, 0, .arr (parents.map Json.str)⟩

/-- `A` and `B` are parents of one another, and `D` has none. -/
def cyclicStore : RepairStore where
  checkpoints := ⟨[invalidEvidence,
    succeededStage "A" primitiveAdmissionDone [artifact "admission", artifact "primitive"],
    succeededStage "D" chainingDone [artifact "chain"], dependentFinding], by decide⟩
  runs := ⟨[⟨"analysis", "workspace", "commit", none⟩], by decide⟩
  evidence := .empty
  registrations :=
    ⟨[registeredWith "A" ["B"], registeredWith "B" ["A"], registeredWith "D" []], by decide⟩
  links := .empty
  claims := .empty
  activity := []
  dashboard := some fun _ => none

/-- The repair of `A`. -/
def repairOfA : RepairRequest :=
  ⟨invalidEvidence, [("pro", artifact "pro")], [("pro", none), ("con", none)]⟩

/-- The store after the repair of `A`. -/
def repairedCycle : Except PyError Bool × RepairStore :=
  repairLegacyProConEvidence repairFiles repairOfA 1 "mark" cyclicStore

/-- The repair returns; `A`, which descends from itself, is still registered, the finding of `D`
is gone although `D` is not affected, and the dashboard is marked. -/
theorem repairedCycle_survives :
    repairedCycle.1.toOption = some true
      ∧ cyclicStore.Descends repairScope "A" "A"
      ∧ (repairedCycle.2.registrations.find ⟨repairScope, "A"⟩).isSome = true
      ∧ ¬ cyclicStore.Affected repairScope "A" "D"
      ∧ dependentFinding ∈ cyclicStore.checkpoints.rows
      ∧ dependentFinding ∉ repairedCycle.2.checkpoints.rows
      ∧ repairedCycle.2.dashboard.bind (fun rows => rows "analysis") = some ⟨"mark"⟩ := by
  have above : cyclicStore.ParentIn repairScope "A" "B" :=
    ⟨registeredWith "B" ["A"], by simp [cyclicStore], rfl, [.str "A"], rfl, by simp⟩
  have back : cyclicStore.ParentIn repairScope "B" "A" :=
    ⟨registeredWith "A" ["B"], by simp [cyclicStore], rfl, [.str "B"], rfl, by simp⟩
  refine ⟨by decide +kernel, .tail (.single above) back, by decide +kernel, ?_, by decide +kernel,
    by decide +kernel, by decide +kernel⟩
  rintro (same | ⟨-, descends⟩)
  · exact absurd same (by decide)
  · obtain ⟨parent, -, row, stored, keyed, items, array, member⟩ :=
      Relation.TransGen.tail'_iff.1 descends
    simp only [cyclicStore, List.mem_cons, List.not_mem_nil, or_false] at stored
    rcases stored with rfl | rfl | rfl
    · exact absurd (congrArg HypothesisKey.hypothesisId keyed) (by decide)
    · exact absurd (congrArg HypothesisKey.hypothesisId keyed) (by decide)
    · cases array
      exact absurd member List.not_mem_nil

end Sastsimi.Runtime.Concrete
