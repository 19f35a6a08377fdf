import Mathlib.Logic.Function.Basic
import Sastsimi.Storage.Registration

/-!
# Runs of registrations

Any number of processes call `start`, `enqueue` and `ensure_enqueue`, and their transactions
interleave.  A process that crashes takes no further step.  Beside the steps of the registrations
stand the transactions that make works ready, start their attempts and settle reservations.
-/

namespace Sastsimi.Storage

open Lib Sastsimi.Runtime

/-- The calls of all processes.  No identifier is drawn twice. -/
structure RegistrationCalls where
  call : Nat → RegistrationCall
  fresh : Function.Injective fun number => (call number).candidateId

/-- How far a call has come.  A call is refused when it is denied or raises after its reservation,
and answered when its key has a work already. -/
inductive Phase where
  | idle
  | rejected
  | staged (work : WorkExecutionState)
  | reserved (work : WorkExecutionState)
  | authorized (work : WorkExecutionState) (decisionRef : RecordRef)
  | refused (work : WorkExecutionState)
  | answered (work earlier : WorkExecutionState)
  | registered (work : WorkExecutionState)
  deriving DecidableEq

namespace Phase

/-- The candidate of a call that has staged it. -/
def candidate : Phase → Option WorkExecutionState
  | idle | rejected => none
  | staged work | reserved work | authorized work _ | refused work | answered work _
  | registered work => some work

/-- The candidate of a call that has reserved its registration. -/
def reserves : Phase → Option WorkExecutionState
  | idle | rejected | staged _ => none
  | reserved work | authorized work _ | refused work | answered work _ | registered work =>
      some work

/-- The registered candidate of a call. -/
def registers : Phase → Option WorkExecutionState
  | registered work => some work
  | _ => none

/-- A call has reserved a registration of its candidate and not registered it. -/
def stray (phase : Phase) : Prop := phase.reserves.isSome = true ∧ phase.registers = none

theorem candidate_of_reserves {phase : Phase} {work : WorkExecutionState}
    (reserves : phase.reserves = some work) : phase.candidate = some work := by
  cases phase <;> simp_all [Phase.reserves, candidate]

theorem reserves_of_registers {phase : Phase} {work : WorkExecutionState}
    (registers : phase.registers = some work) : phase.reserves = some work := by
  cases phase <;> simp_all [Phase.reserves, Phase.registers]

/-- A call that reserved its registration registered its candidate, or it is stray. -/
theorem registers_of_reserves {phase : Phase} {work : WorkExecutionState}
    (reserves : phase.reserves = some work) (settled : ¬ phase.stray) :
    phase.registers = some work := by
  cases phase <;> simp_all [Phase.reserves, Phase.registers, stray]

variable {phase : Nat → Phase} {number : Nat} {next : Phase}
  {view : Phase → Option WorkExecutionState}

theorem view_self : view (Function.update phase number next number) = view next := by
  rw [Function.update_self]

/-- A step of a call that keeps a view keeps it of all calls. -/
theorem view_update (same : view next = view (phase number)) (other : Nat) :
    view (Function.update phase number next other) = view (phase other) := by
  by_cases own : other = number
  · rw [own, Function.update_self, same]
  · rw [Function.update_of_ne own]

/-- What is seen after a step is seen of the call that took it, or was seen before. -/
theorem view_updated {other : Nat} {work : WorkExecutionState}
    (seen : view (Function.update phase number next other) = some work) :
    other = number ∧ view next = some work ∨ view (phase other) = some work := by
  by_cases own : other = number
  · rw [own, Function.update_self] at seen
    exact .inl ⟨own, seen⟩
  · rw [Function.update_of_ne own] at seen
    exact .inr seen

/-- What was seen is still seen when nothing was seen of the call that took the step, or the
same. -/
theorem view_kept {other : Nat} {work : WorkExecutionState}
    (unseen : view (phase number) = none ∨ view (phase number) = view next)
    (seen : view (phase other) = some work) :
    view (Function.update phase number next other) = some work := by
  by_cases own : other = number
  · rw [own] at seen
    rw [own, Function.update_self]
    rcases unseen with missing | same
    · rw [missing] at seen
      cases seen
    · exact same.symm.trans seen
  · rw [Function.update_of_ne own]
    exact seen

end Phase

/-- The database and the calls. -/
structure RegistrationSystem where
  store : Store
  phase : Nat → Phase := fun _ => .idle

namespace RegistrationSystem

variable (system : RegistrationSystem)

/-- A call takes a step, and fails when its transaction raises. -/
def advance (number : Nat) (result : Except PyError (Store × Phase)) (failed : Phase) :
    RegistrationSystem :=
  match result with
  | .ok (after, phase) => ⟨after, Function.update system.phase number phase⟩
  | .error _ => { system with phase := Function.update system.phase number failed }

/-- A transaction that raises is rolled back. -/
def commit (result : Except PyError Store) : RegistrationSystem :=
  match result with
  | .ok after => { system with store := after }
  | .error _ => system

end RegistrationSystem

variable [ContentHash] [ValueHash]

/-- A transaction of some process.  The calls of registrations are numbered. -/
inductive RegistrationStep where
  | stage (number : Nat)
  | reserve (number : Nat) (evidence : TrustedEvidence)
  | authorize (number : Nat) (registrar : Registrar) (stamp : IssueStamp)
  | register (number : Nat) (registrar : Registrar) (stamp : Stamp)
  | debit (stamp : Stamp) (entry : BudgetLedgerEntry)
  | release (released : BudgetReservation)
  | issue (registrar : Registrar) (stamp : IssueStamp) (action : ActionRequest)
      (work : WorkExecutionState) (reservationRef : Option RecordRef)
  | ready (authority : Authority) (projections : Projections) (stamp used : Stamp)
      (transition : StateTransition)
  | reserveAttempt (evidence : TrustedEvidence) (ids : RequestIds) (workRef : RecordRef)
      (role : RequesterRole) (scope : RecordRef)
  | startAttempt (authority : Authority) (projections : Projections) (stamp used : Stamp)
      (start : Store.AttemptStart)

namespace RegistrationCall

variable (call : RegistrationCall) (store : Store)

/-- The candidate and its request are staged. -/
def stageStep : Except PyError (Store × Phase) := do
  let work ← call.pendingWork store
  let requested ← store.stageRecord (.action (call.request work))
  let after ← requested.stageRecord (.work work)
  .ok (after, .staged work)

/-- The registration is reserved. -/
def reserveStep (evidence : TrustedEvidence) (work : WorkExecutionState) :
    Except PyError (Store × Phase) := do
  let (after, _) ← store.reserve evidence (call.reservation work)
  .ok (after, .reserved work)

/-- The registration is authorized, or denied. -/
def authorizeStep (registrar : Registrar) (stamp : IssueStamp) (work : WorkExecutionState) :
    Except PyError (Store × Phase) := do
  let (after, decision) ← store.authorize registrar stamp (call.request work) work
    (some (reference (.reservation (call.reservation work))))
  .ok (after, if decision.decision = .allow then .authorized work (reference (.decision decision))
    else .refused work)

/-- The candidate is registered, or the call is answered with the work of its key. -/
def registerStep (registrar : Registrar) (stamp : Stamp) (work : WorkExecutionState)
    (decisionRef : RecordRef) : Except PyError (Store × Phase) := do
  let (after, answer) ← store.register registrar stamp work decisionRef
    (some (reference (.reservation (call.reservation work))))
  .ok (after, if answer = work then .registered work else .answered work answer)

end RegistrationCall

/-- The reservation of an attempt.  A transaction returned its work, so that is published. -/
def reserveAttemptStep (store : Store) (evidence : TrustedEvidence) (ids : RequestIds)
    (workRef : RecordRef) (role : RequesterRole) (scope : RecordRef) : Except PyError Store := do
  match ← store.resolve workRef with
  | .work work => do
      let action := runnerAction ids work role .startAttempt
      let requested ← store.stageRecord (.action action)
      let (after, _) ← requested.reserve evidence
        (runnerReservation ids work scope action runnerUnits)
      .ok after
  | _ => .error (.valueError "ATTEMPT_START_REQUIRES_PENDING_OR_READY")

namespace RegistrationCalls

variable (calls : RegistrationCalls)

/-- A step of the system.  A call takes its steps in order. -/
def perform (system : RegistrationSystem) : RegistrationStep → RegistrationSystem
  | .stage number =>
      match system.phase number with
      | .idle => system.advance number ((calls.call number).stageStep system.store) .rejected
      | _ => system
  | .reserve number evidence =>
      match system.phase number with
      | .staged work =>
          system.advance number ((calls.call number).reserveStep system.store evidence work)
            .rejected
      | _ => system
  | .authorize number registrar stamp =>
      match system.phase number with
      | .reserved work =>
          system.advance number
            ((calls.call number).authorizeStep system.store registrar stamp work) (.refused work)
      | _ => system
  | .register number registrar stamp =>
      match system.phase number with
      | .authorized work decisionRef =>
          system.advance number
            ((calls.call number).registerStep system.store registrar stamp work decisionRef)
            (.refused work)
      | _ => system
  | .debit stamp entry => system.commit (Prod.fst <$> system.store.commitUsage stamp entry)
  | .release released => system.commit (Prod.fst <$> system.store.release released)
  | .issue registrar stamp action work reservationRef =>
      system.commit
        (Prod.fst <$> system.store.authorize registrar stamp action work reservationRef)
  | .ready authority projections stamp used transition =>
      system.commit
        (Prod.fst <$> system.store.makeReady authority projections stamp used transition)
  | .reserveAttempt evidence ids workRef role scope =>
      system.commit (reserveAttemptStep system.store evidence ids workRef role scope)
  | .startAttempt authority projections stamp used start =>
      system.commit
        (Prod.fst <$> system.store.startAttempt authority projections stamp used start)

/-- The system that steps reach from a database without works and reservations. -/
def run (records : RecordStore) (runs : Table RunRow.analysisId)
    (profiles : Table ProfilePin.key) (steps : List RegistrationStep) : RegistrationSystem :=
  steps.foldl calls.perform { store := { records, runs, profiles } }

end RegistrationCalls

/-! ## Phases of the other calls -/

/-- The call a step belongs to. -/
def RegistrationStep.caller : RegistrationStep → Option Nat
  | .stage number | .reserve number _ | .authorize number _ _ | .register number _ _ =>
      some number
  | _ => none

variable {calls : RegistrationCalls} {system : RegistrationSystem} {step : RegistrationStep}
  {other : Nat}

omit [ContentHash] [ValueHash] in
theorem RegistrationSystem.advance_phase {number : Nat}
    {result : Except PyError (Store × Phase)} {failed : Phase} (differs : other ≠ number) :
    (system.advance number result failed).phase other = system.phase other := by
  cases result with
  | error reason => exact Function.update_of_ne differs _ _
  | ok value => exact Function.update_of_ne differs _ _

omit [ContentHash] [ValueHash] in
theorem RegistrationSystem.commit_phase {result : Except PyError Store} :
    (system.commit result).phase = system.phase := by
  cases result <;> rfl

/-- A step of one call leaves the phases of the others. -/
theorem RegistrationCalls.perform_phase (differs : step.caller ≠ some other) :
    (calls.perform system step).phase other = system.phase other := by
  cases step with
  | stage number | reserve number | authorize number | register number =>
      have own : other ≠ number := fun same => differs (same ▸ rfl)
      rw [RegistrationCalls.perform]
      split
      · exact RegistrationSystem.advance_phase own
      · rfl
  | debit | release | issue | ready | reserveAttempt | startAttempt =>
      rw [RegistrationCalls.perform, RegistrationSystem.commit_phase]

theorem RegistrationCalls.foldl_phase {steps : List RegistrationStep}
    (differs : ∀ step ∈ steps, step.caller ≠ some other) :
    (steps.foldl calls.perform system).phase other = system.phase other := by
  induction steps generalizing system with
  | nil => rfl
  | cons step rest ih =>
      obtain ⟨first, others⟩ := List.forall_mem_cons.1 differs
      exact (ih others).trans (calls.perform_phase first)

end Sastsimi.Storage
