import Mathlib.Algebra.Ring.Int.Defs
import Mathlib.Data.Nat.Cast.Basic
import Sastsimi.Storage.BudgetConserved

/-!
# The ceilings of a work

A work whose reservations all fall under one limit of its work profile is never admitted for more
attempts, external calls or items than that limit says, apart from the fixed repair allowance of
a local evaluation.  Every admission recounts the standing reservations of the work, and no write
makes a standing reservation change its work, its action or its limit.
-/

namespace Sastsimi.Storage

open Lib Sastsimi.Runtime

variable [ContentHash] {retiring : Bool} {before after : Store}

namespace Store

variable (store : Store)

/-! ## What a reservation is for -/

/-- The work a reservation is for. -/
def workOf (row : ReservationRow) : Option WorkExecutionState :=
  match store.resolveCandidate row.payload.workRef with
  | .ok (.work work) => some work
  | _ => none

/-- The action a reservation pays for. -/
def actionOf (row : ReservationRow) : Option ActionRequest :=
  match store.resolve row.payload.actionRef with
  | .ok (.action action) => some action
  | _ => none

/-- The binding a reservation is made under, unless it is made under the profile of the run. -/
def bindingOf (row : ReservationRow) : Option BudgetProfileBinding :=
  match store.resolve row.payload.budgetBindingRef with
  | .ok (.binding binding) => some binding
  | _ => none

/-- The limit of the work profile a reservation falls under. -/
def limitOf (row : ReservationRow) : Option WorkBudgetLimit := do
  let binding ← store.bindingOf row
  let work ← store.workOf row
  let action ← store.actionOf row
  match store.workLimit binding work action with
  | .ok limit => some limit
  | .error _ => none

/-- A standing reservation of a work. -/
def standsFor (analysisId workId : String) (row : ReservationRow) : Prop :=
  row.analysisId = analysisId ∧ row.status ≠ .released
    ∧ (store.workOf row).map (fun work => work.workId) = some workId

instance (analysisId workId : String) (row : ReservationRow) :
    Decidable (store.standsFor analysisId workId row) :=
  inferInstanceAs (Decidable (_ ∧ _ ∧ _))

/-- What a standing reservation of a work is charged with. -/
def standingCharge (analysisId workId : String) (charge : ActionType → Option Int → Nat)
    (row : ReservationRow) : Nat :=
  if store.standsFor analysisId workId row then
    ((store.actionOf row).map fun action => charge action.actionType row.itemCount).getD 0
  else 0

/-- What the standing reservations of a work are charged with. -/
def workTotal (analysisId workId : String) (charge : ActionType → Option Int → Nat) : Nat :=
  store.reservations.total (store.standingCharge analysisId workId charge)

/-- Every reservation of a work falls under one limit. -/
def SingleLimit (analysisId workId : String) (limit : WorkBudgetLimit) : Prop :=
  ∀ row ∈ store.reservations.rows, row.analysisId = analysisId →
    (store.workOf row).map (fun work => work.workId) = some workId →
    store.limitOf row = some limit

end Store

/-- The charge of an operation that shares the limit of an action. -/
def sharedCharge (actionType other : ActionType) (_ : Option Int) : Nat :=
  if Store.sharesLimit actionType other = true then 1 else 0

/-- The charge of an attempt. -/
def attemptCharge (actionType : ActionType) (_ : Option Int) : Nat :=
  if actionType = .startAttempt then 1 else 0

/-- The charge of an external call. -/
def callCharge (actionType : ActionType) (_ : Option Int) : Nat :=
  if actionType.isExternal = true then 1 else 0

/-- The charge of admitted items. -/
def itemCharge (_ : ActionType) (itemCount : Option Int) : Nat := (itemCount.getD 0).toNat

/-- A limit with the allowance of a local evaluation. -/
def allowed (limit : Option Nat) (purpose : Purpose) (allowance : Nat) : Nat :=
  match limit with
  | none => 0
  | some limit => if purpose = .localEvaluation then limit + allowance else limit

/-! ## What a write keeps -/

section Keeps

variable {row later : ReservationRow} (grows : Grows before after) (holds : RowHolds before row)
  (keeps : RowKeeps row later)

include grows holds keeps

theorem RowKeeps.workOf : after.workOf later = before.workOf row := by
  obtain ⟨work, resolved, _⟩ := holds.forWork
  rw [Store.workOf, Store.workOf, keeps.workRef, resolved, grows.resolveCandidate resolved]

theorem RowKeeps.actionOf : after.actionOf later = before.actionOf row := by
  obtain ⟨action, resolved⟩ := holds.forAction
  rw [Store.actionOf, Store.actionOf, keeps.actionRef, resolved, grows.resolve resolved]

/-- A standing reservation was standing before, and for the same work. -/
theorem RowKeeps.standsFor {analysisId workId : String}
    (stands : after.standsFor analysisId workId later) :
    before.standsFor analysisId workId row := by
  obtain ⟨analysis, standing, named⟩ := stands
  refine ⟨keeps.analysisId ▸ analysis, ?_, keeps.workOf grows holds ▸ named⟩
  intro released
  have settled : row.payload.status ≠ .reserved := by
    rw [holds.status, released]
    decide
  exact standing ((keeps.settled settled).2.trans released)

end Keeps

/-- A limit that a work profile gives stays. -/
theorem Grows.workLimit (grows : Grows before after) {binding : BudgetProfileBinding}
    {work : WorkExecutionState} {action : ActionRequest} {limit : WorkBudgetLimit}
    (given : before.workLimit binding work action = .ok limit) :
    after.workLimit binding work action = .ok limit := by
  obtain ⟨record, resolved, rest⟩ := except_bind_ok given
  rw [Store.workLimit, grows.resolve resolved]
  exact rest

/-- A reservation made under a binding falls under a limit and has counted items. -/
structure RowLimited (store : Store) (row : ReservationRow) : Prop where
  scope : ∃ record, store.resolve row.payload.budgetBindingRef = .ok record
  bound : ∀ binding, store.bindingOf row = some binding →
    (∃ limit, store.limitOf row = some limit) ∧ ∃ items, row.itemCount = some items ∧ 0 ≤ items

theorem Store.limitOf_eq_some {store : Store} {row : ReservationRow} {limit : WorkBudgetLimit} :
    store.limitOf row = some limit ↔ ∃ binding work action, store.bindingOf row = some binding
      ∧ store.workOf row = some work ∧ store.actionOf row = some action
      ∧ store.workLimit binding work action = .ok limit := by
  constructor
  · intro given
    cases named : store.bindingOf row with
    | none => simp [Store.limitOf, named] at given
    | some binding =>
        cases forWork : store.workOf row with
        | none => simp [Store.limitOf, named, forWork] at given
        | some work =>
            cases forAction : store.actionOf row with
            | none => simp [Store.limitOf, named, forWork, forAction] at given
            | some action =>
                refine ⟨binding, work, action, rfl, rfl, rfl, ?_⟩
                simp only [Store.limitOf, named, forWork, forAction, Option.bind_eq_bind,
                  Option.bind_some] at given
                split at given
                · rename_i allows
                  rw [allows, Option.some.inj given]
                · cases given
  · rintro ⟨binding, work, action, named, forWork, forAction, allows⟩
    simp [Store.limitOf, named, forWork, forAction, allows]

section Limited

variable {row later : ReservationRow} (grows : Grows before after) (holds : RowHolds before row)
  (bounded : RowLimited before row) (keeps : RowKeeps row later)

include grows bounded keeps

theorem RowKeeps.bindingOf : after.bindingOf later = before.bindingOf row := by
  obtain ⟨record, resolved⟩ := bounded.scope
  rw [Store.bindingOf, Store.bindingOf, keeps.bindingRef, resolved, grows.resolve resolved]

include holds

/-- A reservation stays under its limit. -/
theorem RowKeeps.limitOf : after.limitOf later = before.limitOf row := by
  have bindings := keeps.bindingOf grows bounded
  cases bound : before.bindingOf row with
  | none =>
      rw [bound] at bindings
      rw [Store.limitOf, Store.limitOf, bindings, bound]
      rfl
  | some binding =>
      obtain ⟨⟨limit, given⟩, _⟩ := bounded.bound binding bound
      rw [given]
      obtain ⟨named, work, action, found, forWork, forAction, allows⟩ :=
        Store.limitOf_eq_some.1 given
      refine Store.limitOf_eq_some.2 ⟨named, work, action, bindings.trans found, ?_, ?_,
        grows.workLimit allows⟩
      · rw [keeps.workOf grows holds, forWork]
      · rw [keeps.actionOf grows holds, forAction]

theorem RowKeeps.limited : RowLimited after later := by
  obtain ⟨record, resolved⟩ := bounded.scope
  refine ⟨⟨record, keeps.bindingRef ▸ grows.resolve resolved⟩, ?_⟩
  intro binding bound
  rw [keeps.bindingOf grows bounded] at bound
  rw [keeps.limitOf grows holds bounded, keeps.itemCount]
  exact bounded.bound binding bound

end Limited

/-! ## Admission -/

section Admission

variable {evidence : TrustedEvidence} {reservation : BudgetReservation}
  {work : WorkExecutionState} {action : ActionRequest}
  (admission : Admission before evidence reservation work action)

include admission

theorem Admission.workOf :
    before.workOf (Store.newReservation evidence reservation work action) = some work := by
  rw [Store.workOf, Store.newReservation, admission.forWork]

theorem Admission.actionOf :
    before.actionOf (Store.newReservation evidence reservation work action) = some action := by
  rw [Store.actionOf, Store.newReservation, admission.forAction]

/-- A reservation under a binding passed the limits of its verification and of its work. -/
theorem Admission.checked : ∃ record, before.resolve reservation.budgetBindingRef = .ok record
    ∧ before.checkBound reservation work action record = .ok ()
    ∧ before.checkScope evidence reservation work action record = .ok () := by
  obtain ⟨_, validated, _⟩ := except_bind_ok admission.admitted
  obtain ⟨_, _, rest⟩ := except_bind_ok validated
  obtain ⟨record, resolved, rest⟩ := except_bind_ok rest
  obtain ⟨_, bound, rest⟩ := except_bind_ok rest
  obtain ⟨_, _, checked⟩ := except_bind_ok rest
  exact ⟨record, resolved, bound, checked⟩

/-- A reservation under a binding is for a work other than a workspace, and passed its limits. -/
theorem Admission.bound {binding : BudgetProfileBinding}
    (named : before.bindingOf (Store.newReservation evidence reservation work action)
      = some binding) :
    before.checkHierarchy reservation work action binding = .ok ()
      ∧ before.checkWorkLimits evidence reservation work action binding = .ok () := by
  obtain ⟨record, resolved, bound, checked⟩ := admission.checked
  have scope : record = .binding binding := by
    rw [Store.bindingOf, Store.newReservation, resolved] at named
    split at named
    · rename_i same
      cases same
      cases named
      rfl
    · cases named
  subst scope
  obtain ⟨_, _, hierarchy⟩ := except_bind_ok bound
  rw [Store.checkScope] at checked
  split at checked
  · cases checked
  · exact ⟨hierarchy, checked⟩

/-- What an admission under a binding says of the work's limit. -/
theorem Admission.limits {limit : WorkBudgetLimit}
    (given : before.limitOf (Store.newReservation evidence reservation work action) = some limit) :
    before.checkItems evidence reservation work action limit = .ok ()
      ∧ before.checkOperations reservation work action limit = .ok () := by
  obtain ⟨binding, _, _, named, forWork, forAction, allows⟩ := Store.limitOf_eq_some.1 given
  rw [admission.workOf] at forWork
  rw [admission.actionOf] at forAction
  cases forWork
  cases forAction
  obtain ⟨_, checked⟩ := admission.bound named
  obtain ⟨found, stored, rest⟩ := except_bind_ok checked
  rw [allows] at stored
  cases stored
  obtain ⟨_, items, rest⟩ := except_bind_ok rest
  obtain ⟨_, operations, _⟩ := except_bind_ok rest
  exact ⟨items, operations⟩

end Admission

/-! ## Recounts -/

/-- What a reservation is charged with, when it is for the work. -/
def Store.chargeOf (store : Store) (workId : String) (charge : ActionType → Option Int → Nat)
    (row : ReservationRow) : Nat :=
  if (store.workOf row).map (fun work => work.workId) = some workId then
    ((store.actionOf row).map fun action => charge action.actionType row.itemCount).getD 0
  else 0

theorem Store.workTotal_eq (store : Store) (analysisId workId : String)
    (charge : ActionType → Option Int → Nat) :
    store.workTotal analysisId workId charge
      = ((store.standingRows analysisId).map (store.chargeOf workId charge)).sum := by
  rw [Store.standingRows, sum_filter, Store.workTotal, Table.total]
  congr 1
  apply List.map_congr_left
  intro row _
  simp only [decide_eq_true_eq]
  by_cases standing : row.analysisId = analysisId ∧ row.status ≠ .released
  · rw [if_pos standing, Store.standingCharge, Store.chargeOf]
    congr 1
    exact propext ⟨fun stands => stands.2.2, fun named => ⟨standing.1, standing.2, named⟩⟩
  · rw [if_neg standing]
    exact if_neg fun stands => standing ⟨stands.1, stands.2.1⟩

section Recount

variable (hold : RowsHold before) {reservation : BudgetReservation} {work : WorkExecutionState}

include hold

/-- The count of an admission is what the standing reservations of the work are charged with. -/
theorem RowsHold.operations_total {actionType : ActionType} {count : Nat}
    (fresh : before.reservations.find reservation.reservationId = none)
    (counted : (before.standingRows work.metadata.analysisId).foldlM
      (Store.operationsTurn before reservation work actionType) 0 = .ok count) :
    count = before.workTotal work.metadata.analysisId work.workId (sharedCharge actionType) := by
  have turn : ∀ {state row next}, row ∈ before.standingRows work.metadata.analysisId →
      Store.operationsTurn before reservation work actionType state row = .ok next → True →
      True ∧ next = state + before.chargeOf work.workId (sharedCharge actionType) row := by
    intro state row next member turned _
    obtain ⟨stored, _⟩ := List.mem_filter.1 member
    have holds := hold row stored
    obtain ⟨other, forWork, _⟩ := holds.forWork
    obtain ⟨action, forAction⟩ := holds.forAction
    have differs : row.payload.reservationId ≠ reservation.reservationId := by
      rw [holds.identified]
      exact Table.find_eq_none.1 fresh row stored
    rw [Store.operationsTurn, if_neg differs, forWork, forAction] at turned
    have charged : before.chargeOf work.workId (sharedCharge actionType) row
        = if other.workId = work.workId then sharedCharge actionType action.actionType none
          else 0 := by
      simp [Store.chargeOf, Store.workOf, Store.actionOf, forWork, forAction, sharedCharge]
    refine ⟨trivial, ?_⟩
    simp only [bind, Except.bind] at turned
    rw [charged, sharedCharge]
    split at turned <;> cases turned <;> simp_all
  have summed := foldlM_measure id turn counted trivial
  rw [Store.workTotal_eq]
  simpa using summed

/-- The items of an admission are those of the standing reservations of the work and its own. -/
theorem RowsHold.items_total {items admitted : Int}
    (counts : ∀ row ∈ before.reservations.rows,
      (before.workOf row).map (fun work => work.workId) = some work.workId →
      row.analysisId = work.metadata.analysisId → 0 ≤ row.itemCount.getD 0)
    (fresh : before.reservations.find reservation.reservationId = none)
    (counted : ((before.standingRows work.metadata.analysisId).filter fun row =>
      decide (row.reservationId ≠ reservation.reservationId)).foldlM
        (Store.itemsTurn before work) items = .ok admitted) :
    admitted = items + before.workTotal work.metadata.analysisId work.workId itemCharge := by
  have others : (before.standingRows work.metadata.analysisId).filter (fun row =>
      decide (row.reservationId ≠ reservation.reservationId))
      = before.standingRows work.metadata.analysisId := by
    apply List.filter_eq_self.2
    intro row member
    exact decide_eq_true (Table.find_eq_none.1 fresh row (List.mem_filter.1 member).1)
  rw [others] at counted
  have turn : ∀ {state row next}, row ∈ before.standingRows work.metadata.analysisId →
      Store.itemsTurn before work state row = .ok next → True →
      True ∧ next = state + (before.chargeOf work.workId itemCharge row : Int) := by
    intro state row next member turned _
    obtain ⟨stored, standing⟩ := List.mem_filter.1 member
    have holds := hold row stored
    obtain ⟨other, forWork, _⟩ := holds.forWork
    obtain ⟨action, forAction⟩ := holds.forAction
    have named : before.workOf row = some other := by rw [Store.workOf, forWork]
    have charged : before.chargeOf work.workId itemCharge row
        = if other.workId = work.workId then (row.itemCount.getD 0).toNat else 0 := by
      simp [Store.chargeOf, named, Store.actionOf, forAction, itemCharge]
    refine ⟨trivial, ?_⟩
    rw [Store.itemsTurn, forWork] at turned
    simp only [bind, Except.bind] at turned
    rw [charged]
    split at turned
    · rename_i same
      have positive := counts row stored (by rw [named]; exact congrArg some same)
        (of_decide_eq_true standing).1
      cases counted : row.itemCount with
      | none => simp [counted, required] at turned
      | some own =>
          simp only [counted, required, Except.ok.injEq, Option.getD_some] at turned positive
          rw [if_pos same, Option.getD_some, Int.toNat_of_nonneg positive, turned]
    · rename_i differs
      cases turned
      simp [differs]
  have summed := foldlM_measure id turn counted trivial
  have cast := map_list_sum (Nat.castAddMonoidHom Int)
    ((before.standingRows work.metadata.analysisId).map (before.chargeOf work.workId itemCharge))
  rw [List.map_map] at cast
  rw [Store.workTotal_eq]
  exact summed.trans (congrArg (items + ·) cast.symm)

end Recount

/-! ## Limits along a run -/

/-- Every reservation under a binding falls under a limit. -/
def LimitsHold (store : Store) : Prop := ∀ row ∈ store.reservations.rows, RowLimited store row

/-- An admitted reservation falls under a limit, if it is made under a binding. -/
theorem Admission.limited {evidence : TrustedEvidence} {reservation : BudgetReservation}
    {work : WorkExecutionState} {action : ActionRequest}
    (admission : Admission before evidence reservation work action) :
    RowLimited before (Store.newReservation evidence reservation work action) := by
  obtain ⟨record, resolved, _⟩ := admission.checked
  refine ⟨⟨record, resolved⟩, ?_⟩
  intro binding named
  obtain ⟨limit, allows, rest⟩ := except_bind_ok (admission.bound named).2
  obtain ⟨_, checked, _⟩ := except_bind_ok rest
  obtain ⟨maximum, _, rest⟩ := except_bind_ok checked
  obtain ⟨items, counted, _⟩ := except_bind_ok rest
  obtain ⟨counted, positive⟩ := Option.filter_eq_some_iff.1 (required_ok.1 counted)
  exact ⟨⟨limit, Store.limitOf_eq_some.2 ⟨binding, work, action, named, admission.workOf,
    admission.actionOf, allows⟩⟩, items, counted, of_decide_eq_true positive⟩

section Step

variable (hold : RowsHold before) (limits : LimitsHold before)
  (written : Written retiring before after)

include hold limits written

theorem LimitsHold.step : LimitsHold after := by
  intro later member
  rcases written.write.row_of hold member with
    ⟨row, stored, change⟩ | ⟨_, _, _, _, admission, rfl, _⟩
  · exact change.keeps.limited written.grows (hold row stored) (limits row stored)
  · exact RowKeeps.limited written.grows admission.rowHolds admission.limited (.refl _)

/-- A limit that covers a work after a write covered it before. -/
theorem Store.SingleLimit.earlier {analysisId workId : String} {limit : WorkBudgetLimit}
    (single : after.SingleLimit analysisId workId limit) :
    before.SingleLimit analysisId workId limit := by
  intro row stored analysis named
  have found : before.reservations.find row.reservationId = some row :=
    Table.find_eq_some.2 ⟨stored, rfl⟩
  obtain ⟨later, kept, change⟩ := written.write.find_of hold found
  have keeps := change.keeps
  rw [← keeps.limitOf written.grows (hold row stored) (limits row stored)]
  apply single later (Table.find_eq_some.1 kept).1 (keeps.analysisId.trans analysis)
  rw [keeps.workOf written.grows (hold row stored), named]

omit limits in
/-- A write charges a work no more, or admits one of its operations. -/
theorem Written.workTotal (analysisId workId : String)
    (charge : ActionType → Option Int → Nat) :
    after.workTotal analysisId workId charge ≤ before.workTotal analysisId workId charge
      ∨ ∃ evidence reservation work action, Admission before evidence reservation work action
        ∧ before.reservations.insert (Store.newReservation evidence reservation work action)
          = some after.reservations
        ∧ work.metadata.analysisId = analysisId ∧ work.workId = workId
        ∧ after.workTotal analysisId workId charge
          ≤ before.workTotal analysisId workId charge
            + charge action.actionType (evidence.itemCount action work) := by
  have turn : ∀ row ∈ before.reservations.rows, ∀ later, RowChange retiring after row later →
      after.standingCharge analysisId workId charge later + 0
        ≤ before.standingCharge analysisId workId charge row + 0 := by
    intro row stored later change
    have holds := hold row stored
    by_cases stands : after.standsFor analysisId workId later
    · have earlier := change.keeps.standsFor written.grows holds stands
      simp only [Store.standingCharge, if_pos stands, if_pos earlier,
        change.keeps.actionOf written.grows holds, change.keeps.itemCount]
      exact le_rfl
    · simp [Store.standingCharge, stands]
  rcases written.write.balance hold turn with
    less | ⟨evidence, reservation, work, action, admission, inserted, less⟩
  · left
    simpa [Store.workTotal, Table.total] using less
  · have keeps : RowKeeps (Store.newReservation evidence reservation work action) _ := .refl _
    have forWork := (keeps.workOf written.grows admission.rowHolds).trans admission.workOf
    have forAction := (keeps.actionOf written.grows admission.rowHolds).trans admission.actionOf
    have added : after.workTotal analysisId workId charge
        ≤ before.workTotal analysisId workId charge
          + after.standingCharge analysisId workId charge
            (Store.newReservation evidence reservation work action) := by
      simpa [Store.workTotal, Table.total] using less
    by_cases stands : after.standsFor analysisId workId
        (Store.newReservation evidence reservation work action)
    · have charged : after.standingCharge analysisId workId charge
          (Store.newReservation evidence reservation work action)
          = charge action.actionType (evidence.itemCount action work) := by
        rw [Store.standingCharge, if_pos stands, forAction]
        rfl
      obtain ⟨analysis, _, named⟩ := stands
      rw [forWork] at named
      refine .inr ⟨evidence, reservation, work, action, admission, inserted,
        admission.analysis.trans analysis, Option.some.inj named, ?_⟩
      rwa [charged] at added
    · left
      simpa [Store.standingCharge, stands] using added

end Step

/-- A work under one limit is charged within it. -/
structure WithinLimit (store : Store) (analysisId workId : String) (limit : WorkBudgetLimit)
    (purpose : Purpose) : Prop where
  attempts : store.workTotal analysisId workId attemptCharge
    ≤ allowed limit.maxAttempts purpose localManualRepairAttempts
  calls : store.workTotal analysisId workId callCharge
    ≤ allowed limit.maxCallsPerWork purpose localManualRepairCalls
  items : store.workTotal analysisId workId itemCharge ≤ limit.maxItemsPerWork.getD 0

/-- Every work under one limit is charged within it. -/
def WorkCeilings (store : Store) : Prop :=
  ∀ analysisId workId limit state, store.getRun analysisId = .ok state →
    store.SingleLimit analysisId workId limit →
    WithinLimit store analysisId workId limit state.purpose

/-! ## Single admissions -/

omit [ContentHash] in
theorem allowsScope_local {purpose : Purpose} {status : WorkStatus} {cause : Option String}
    {trigger : Option AttemptTrigger}
    (allows : allowsLocalManualRepairScope purpose status cause trigger = true) :
    purpose = .localEvaluation := by
  by_contra other
  rw [allowsLocalManualRepairScope, if_pos other] at allows
  cases allows

omit [ContentHash] in
theorem allowsAttempt_local {purpose : Purpose} {actionType : ActionType} {reason : String}
    {status : WorkStatus} {cause : Option String} {trigger : Option AttemptTrigger}
    (allows : allowsLocalManualRepairAttempt purpose actionType reason status cause trigger = true) :
    purpose = .localEvaluation := by
  rw [allowsLocalManualRepairAttempt] at allows
  split at allows
  · cases allows
  · exact allowsScope_local allows

omit [ContentHash] in
theorem callAllowance_le (purpose : Purpose) (actionType : ActionType) (status : WorkStatus)
    (cause : Option String) (trigger : Option AttemptTrigger) :
    localManualRepairCallAllowance purpose actionType status cause trigger
      ≤ if purpose = .localEvaluation then localManualRepairCalls else 0 := by
  rw [localManualRepairCallAllowance]
  split
  · exact Nat.zero_le _
  · split
    · exact Nat.zero_le _
    · rename_i allows
      rw [if_pos (allowsScope_local (by simpa using allows))]

omit [ContentHash] in
/-- The ceiling of an attempt is the limit, with the allowance of a local evaluation. -/
theorem attemptCeiling_le {store : Store} {work : WorkExecutionState} {action : ActionRequest}
    {limit : WorkBudgetLimit} {purpose : Purpose} {cause : Option String} {ceiling : Nat}
    (attempt : action.actionType = .startAttempt)
    (ceiled : store.operationCeiling work action limit purpose cause = some ceiling) :
    ceiling ≤ allowed limit.maxAttempts purpose localManualRepairAttempts := by
  rw [Store.operationCeiling, if_pos attempt] at ceiled
  obtain ⟨maximum, given, rfl⟩ := Option.map_eq_some_iff.1 ceiled
  rw [given, allowed]
  split
  · rename_i allows
    rw [if_pos (allowsAttempt_local allows)]
  · split <;> omega

omit [ContentHash] in
/-- The ceiling of a call is the limit, with the allowance of a local evaluation. -/
theorem callCeiling_le {store : Store} {work : WorkExecutionState} {action : ActionRequest}
    {limit : WorkBudgetLimit} {purpose : Purpose} {cause : Option String} {ceiling : Nat}
    (call : action.actionType ≠ .startAttempt)
    (ceiled : store.operationCeiling work action limit purpose cause = some ceiling) :
    ceiling ≤ allowed limit.maxCallsPerWork purpose localManualRepairCalls := by
  rw [Store.operationCeiling, if_neg call] at ceiled
  obtain ⟨maximum, given, rfl⟩ := Option.map_eq_some_iff.1 ceiled
  have allowance := callAllowance_le purpose action.actionType work.status cause
    (store.attemptTrigger work)
  rw [given, allowed]
  split at allowance
  · rename_i evaluation
    rw [if_pos evaluation]
    omega
  · rename_i evaluation
    rw [if_neg evaluation]
    omega

/-- An admitted operation leaves the operations that share its limit below the ceiling. -/
theorem Admission.operations {evidence : TrustedEvidence} {reservation : BudgetReservation}
    {work : WorkExecutionState} {action : ActionRequest}
    (admission : Admission before evidence reservation work action) (hold : RowsHold before)
    (fresh : before.reservations.find reservation.reservationId = none) {limit : WorkBudgetLimit}
    (given : before.limitOf (Store.newReservation evidence reservation work action) = some limit)
    (shares : action.actionType = .startAttempt ∨ action.actionType.isExternal = true) :
    ∃ state cause ceiling, before.getRun work.metadata.analysisId = .ok state
      ∧ before.operationCeiling work action limit state.purpose cause = some ceiling
      ∧ before.workTotal work.metadata.analysisId work.workId (sharedCharge action.actionType)
        < ceiling := by
  obtain ⟨_, checked⟩ := admission.limits given
  obtain ⟨cause, _, rest⟩ := except_bind_ok checked
  obtain ⟨state, running, rest⟩ := except_bind_ok rest
  obtain ⟨ceiling, ceiled, rest⟩ := except_bind_ok (checkIf_ok.1 rest shares)
  obtain ⟨count, counted, rest⟩ := except_bind_ok rest
  refine ⟨state, cause, ceiling, running, required_ok.1 ceiled, ?_⟩
  rw [← hold.operations_total fresh counted]
  exact Nat.lt_of_not_le (raiseIf_ok.1 rest)

/-- The items admitted for a work stay within the limit with the new ones. -/
theorem Admission.items {evidence : TrustedEvidence} {reservation : BudgetReservation}
    {work : WorkExecutionState} {action : ActionRequest}
    (admission : Admission before evidence reservation work action) (hold : RowsHold before)
    (limits : LimitsHold before)
    (fresh : before.reservations.find reservation.reservationId = none) {limit : WorkBudgetLimit}
    (single : before.SingleLimit work.metadata.analysisId work.workId limit)
    (given : before.limitOf (Store.newReservation evidence reservation work action) = some limit) :
    before.workTotal work.metadata.analysisId work.workId itemCharge
      + itemCharge action.actionType (evidence.itemCount action work)
      ≤ limit.maxItemsPerWork.getD 0 := by
  obtain ⟨checked, _⟩ := admission.limits given
  obtain ⟨maximum, stated, rest⟩ := except_bind_ok checked
  obtain ⟨items, counted, rest⟩ := except_bind_ok rest
  obtain ⟨_, rest⟩ := raiseIf_bind_ok.1 rest
  obtain ⟨admitted, summed, rest⟩ := except_bind_ok rest
  obtain ⟨counted, positive⟩ := Option.filter_eq_some_iff.1 (required_ok.1 counted)
  have positives : ∀ row ∈ before.reservations.rows,
      (before.workOf row).map (fun work => work.workId) = some work.workId →
      row.analysisId = work.metadata.analysisId → 0 ≤ row.itemCount.getD 0 := by
    intro row stored named analysis
    obtain ⟨binding, _, _, bound, _⟩ :=
      Store.limitOf_eq_some.1 (single row stored analysis named)
    obtain ⟨_, own, own_counted, own_positive⟩ := (limits row stored).bound binding bound
    rw [own_counted]
    exact own_positive
  have total := hold.items_total positives fresh summed
  have within := raiseIf_ok.1 rest
  rw [required_ok.1 stated, Option.getD_some, itemCharge, counted, Option.getD_some]
  have nonnegative : 0 ≤ items := of_decide_eq_true positive
  omega

/-! ## Runs -/

section Ceilings

variable (hold : RowsHold before) (limits : LimitsHold before)
  (written : Written retiring before after)

include hold

/-- An analysis without a run has no reservation. -/
theorem RowsHold.workTotal_idle {analysisId : String}
    (idle : ∀ state, before.getRun analysisId ≠ .ok state) (workId : String)
    (charge : ActionType → Option Int → Nat) : before.workTotal analysisId workId charge = 0 := by
  have uncharged : before.workTotal analysisId workId charge
      = before.reservations.total fun _ => 0 := by
    apply Table.total_congr
    intro row stored
    apply if_neg
    intro stands
    obtain ⟨profile, named⟩ := (hold row stored).limited
    obtain ⟨state, running, _⟩ := except_bind_ok named
    exact idle state (stands.1 ▸ running)
  rw [uncharged]
  simp [Table.total]

omit hold in
/-- An admitted reservation of a work under one limit falls under it. -/
theorem Admission.covered {evidence : TrustedEvidence} {reservation : BudgetReservation}
    {work : WorkExecutionState} {action : ActionRequest}
    (admission : Admission before evidence reservation work action)
    (grows : Grows before after)
    (inserted : before.reservations.insert (Store.newReservation evidence reservation work action)
      = some after.reservations) {limit : WorkBudgetLimit}
    (single : after.SingleLimit work.metadata.analysisId work.workId limit) :
    before.limitOf (Store.newReservation evidence reservation work action) = some limit := by
  have keeps : RowKeeps (Store.newReservation evidence reservation work action) _ := .refl _
  have stored : Store.newReservation evidence reservation work action
      ∈ after.reservations.rows := by
    rw [(Table.insert_eq_some.1 inserted).2]
    exact List.mem_append_right _ (List.mem_singleton.2 rfl)
  rw [← keeps.limitOf grows admission.rowHolds admission.limited]
  apply single _ stored admission.analysis.symm
  rw [keeps.workOf grows admission.rowHolds, admission.workOf]
  rfl

include limits written

/-- Every write keeps every work within its limit. -/
theorem WorkCeilings.step (ceilings : WorkCeilings before) : WorkCeilings after := by
  intro analysisId workId limit state running single
  have earlier := single.earlier hold limits written
  have within : WithinLimit before analysisId workId limit state.purpose := by
    by_cases ran : ∃ state, before.getRun analysisId = .ok state
    · obtain ⟨first, found⟩ := ran
      obtain ⟨later, stored, continues⟩ := written.grows.runs found
      rw [running] at stored
      cases stored
      rw [continues.purpose]
      exact ceilings analysisId workId limit first found earlier
    · have idle := hold.workTotal_idle fun state found => ran ⟨state, found⟩
      constructor <;> rw [idle] <;> exact Nat.zero_le _
  have purposes : ∀ {first}, before.getRun analysisId = .ok first →
      first.purpose = state.purpose := by
    intro first found
    obtain ⟨later, stored, continues⟩ := written.grows.runs found
    rw [running] at stored
    cases stored
    exact continues.purpose.symm
  refine ⟨?_, ?_, ?_⟩
  · rcases written.workTotal hold analysisId workId attemptCharge with
      less | ⟨_, _, work, action, admission, inserted, rfl, rfl, more⟩
    · exact less.trans within.attempts
    · by_cases attempt : action.actionType = .startAttempt
      · obtain ⟨first, _, ceiling, found, ceiled, below⟩ :=
          admission.operations hold (Table.insert_eq_some.1 inserted).1
            (admission.covered written.grows inserted single) (.inl attempt)
        have ceiling_le := attemptCeiling_le attempt ceiled
        have shared : sharedCharge action.actionType = attemptCharge := by
          funext other _
          simp [sharedCharge, attemptCharge, Store.sharesLimit, attempt]
        rw [purposes found] at ceiling_le
        rw [shared] at below
        rw [attemptCharge, if_pos attempt] at more
        omega
      · rw [attemptCharge, if_neg attempt] at more
        exact more.trans within.attempts
  · rcases written.workTotal hold analysisId workId callCharge with
      less | ⟨_, _, work, action, admission, inserted, rfl, rfl, more⟩
    · exact less.trans within.calls
    · by_cases call : action.actionType.isExternal = true
      · have started : action.actionType ≠ .startAttempt := by
          intro attempt
          rw [attempt] at call
          cases call
        obtain ⟨first, _, ceiling, found, ceiled, below⟩ :=
          admission.operations hold (Table.insert_eq_some.1 inserted).1
            (admission.covered written.grows inserted single) (.inr call)
        have ceiling_le := callCeiling_le started ceiled
        have shared : sharedCharge action.actionType = callCharge := by
          funext other _
          simp [sharedCharge, callCharge, Store.sharesLimit, started, call]
        rw [purposes found] at ceiling_le
        rw [shared] at below
        rw [callCharge, if_pos call] at more
        omega
      · rw [callCharge, if_neg call] at more
        exact more.trans within.calls
  · rcases written.workTotal hold analysisId workId itemCharge with
      less | ⟨_, _, work, action, admission, inserted, rfl, rfl, more⟩
    · exact less.trans within.items
    · exact more.trans (admission.items hold limits (Table.insert_eq_some.1 inserted).1 earlier
        (admission.covered written.grows inserted single))

end Ceilings

/-- The limits and the ceilings of the works of every reached store. -/
theorem reached_workCeilings (events : List BudgetEvent) :
    LimitsHold (reached events) ∧ WorkCeilings (reached events) := by
  apply @reached_keeps _ (fun store => LimitsHold store ∧ WorkCeilings store) events
  · intro before after hold written kept
    exact ⟨kept.1.step hold written, kept.2.step hold kept.1 written⟩
  · refine ⟨fun _ member => absurd member List.not_mem_nil, ?_⟩
    intro analysisId workId limit state running
    cases running

end Sastsimi.Storage
