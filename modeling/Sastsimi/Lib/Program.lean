import Mathlib.Logic.Relation

/-!
# Programs over durable state

A program reads and changes a durable state and may leave early, by an exception or because
its process dies.  Whatever it committed before leaving stays.  Specifications are weakest
preconditions with two postconditions, one for a returned value and one for an early exit;
the second is what a crash leaves behind.
-/

namespace Sastsimi.Lib

/-- A program ends with a value or an exit, and in both cases with the durable state its
committed effects left. -/
def Prog (σ ε α : Type) : Type := σ → Except ε α × σ

namespace Prog

variable {σ ε α β : Type}

instance : Monad (Prog σ ε) where
  pure value := fun state => (.ok value, state)
  bind program next := fun state =>
    match program state with
    | (.ok value, after) => next value after
    | (.error reason, after) => (.error reason, after)

/-- Read the durable state. -/
def look : Prog σ ε σ := fun state => (.ok state, state)

/-- Change the durable state in one atomic effect. -/
def change (effect : σ → σ) : Prog σ ε Unit := fun state => (.ok (), effect state)

/-- Leave early. -/
def exit (reason : ε) : Prog σ ε α := fun state => (.error reason, state)

/-- Turn the exits for which `handled` has an answer into ordinary results. -/
def handling (handled : ε → Option α) (program : Prog σ ε α) : Prog σ ε α := fun state =>
  match program state with
  | (.error reason, after) =>
      match handled reason with
      | some value => (.ok value, after)
      | none => (.error reason, after)
  | (.ok value, after) => (.ok value, after)

/-- Run a computation that reads nothing. -/
def ofExcept (result : Except ε α) : Prog σ ε α := fun state => (result, state)

/-- Run a program in a transaction: an early exit rolls its changes back. -/
def transaction (program : Prog σ ε α) : Prog σ ε α := fun state =>
  match program state with
  | (.ok value, after) => (.ok value, after)
  | (.error reason, _) => (.error reason, state)

/-- A transaction that is left early changes nothing. -/
theorem transaction_error {program : Prog σ ε α} {state after : σ} {reason : ε}
    (left : program.transaction state = (.error reason, after)) : after = state := by
  rw [transaction] at left
  split at left <;> simp_all

/-- A transaction that returns is its program. -/
theorem transaction_ok {program : Prog σ ε α} {state after : σ} {value : α} :
    program.transaction state = (.ok value, after) ↔ program state = (.ok value, after) := by
  rw [transaction]
  split <;> simp_all

/-- A bind goes on from the value and the state its first part returned. -/
theorem bind_ok {program : Prog σ ε β} {next : β → Prog σ ε α} {state after : σ} {value : β}
    (returned : program state = (.ok value, after)) :
    (program >>= next) state = next value after := by
  simp only [bind, returned]

/-- A bind whose first part leaves early ends there. -/
theorem bind_error {program : Prog σ ε β} {next : β → Prog σ ε α} {state after : σ}
    {reason : ε} (left : program state = (.error reason, after)) :
    (program >>= next) state = (.error reason, after) := by
  simp only [bind, left]

/-- A program that returns ran its first part and then the rest. -/
theorem bind_returned {program : Prog σ ε β} {next : β → Prog σ ε α} {state after : σ}
    {value : α} (returned : (program >>= next) state = (.ok value, after)) :
    ∃ first between, program state = (.ok first, between)
      ∧ next first between = (.ok value, after) := by
  simp only [bind] at returned
  split at returned
  · rename_i first between ran
    exact ⟨first, between, ran, returned⟩
  · cases returned

@[simp] theorem ofExcept_returned {result : Except ε α} {state after : σ} {value : α} :
    (ofExcept result : Prog σ ε α) state = (.ok value, after) ↔
      result = .ok value ∧ state = after := by
  simp [ofExcept]

/-! ## Weakest preconditions -/

/-- The program started in `state` establishes `onReturn` when it returns and `onExit` when
it leaves early. -/
def wp (program : Prog σ ε α) (onReturn : α → σ → Prop) (onExit : ε → σ → Prop)
    (state : σ) : Prop :=
  match program state with
  | (.ok value, after) => onReturn value after
  | (.error reason, after) => onExit reason after

variable {onReturn onReturn' : α → σ → Prop} {onExit onExit' : ε → σ → Prop} {state : σ}

@[simp] theorem wp_pure (value : α) :
    wp (pure value : Prog σ ε α) onReturn onExit state ↔ onReturn value state :=
  Iff.rfl

@[simp] theorem wp_bind (program : Prog σ ε β) (next : β → Prog σ ε α) :
    wp (program >>= next) onReturn onExit state ↔
      wp program (fun value after => wp (next value) onReturn onExit after) onExit state := by
  simp only [wp, bind]
  rcases program state with ⟨result, after⟩
  cases result <;> rfl

@[simp] theorem wp_look {onReturn : σ → σ → Prop} :
    wp (look : Prog σ ε σ) onReturn onExit state ↔ onReturn state state :=
  Iff.rfl

@[simp] theorem wp_change {onReturn : Unit → σ → Prop} (effect : σ → σ) :
    wp (change effect : Prog σ ε Unit) onReturn onExit state ↔ onReturn () (effect state) :=
  Iff.rfl

@[simp] theorem wp_exit (reason : ε) :
    wp (exit reason : Prog σ ε α) onReturn onExit state ↔ onExit reason state :=
  Iff.rfl

theorem wp_handling (handled : ε → Option α) (program : Prog σ ε α) :
    wp (handling handled program) onReturn onExit state ↔
      wp program onReturn
        (fun reason after =>
          match handled reason with
          | some value => onReturn value after
          | none => onExit reason after) state := by
  simp only [wp, handling]
  rcases program state with ⟨result, after⟩
  cases result with
  | ok value => rfl
  | error reason =>
      dsimp only
      cases handled reason <;> rfl

theorem wp_ite {condition : Prop} [Decidable condition] (left right : Prog σ ε α) :
    wp (if condition then left else right) onReturn onExit state ↔
      (condition → wp left onReturn onExit state) ∧
        (¬ condition → wp right onReturn onExit state) := by
  split <;> simp_all

/-- Rule of consequence. -/
theorem wp_mono {program : Prog σ ε α}
    (holds : wp program onReturn onExit state)
    (returns : ∀ value after, onReturn value after → onReturn' value after)
    (exits : ∀ reason after, onExit reason after → onExit' reason after) :
    wp program onReturn' onExit' state := by
  simp only [wp] at holds ⊢
  split <;> simp_all

/-- Sequential composition through an intermediate assertion. -/
theorem wp_seq {program : Prog σ ε β} {next : β → Prog σ ε α} {between : β → σ → Prop}
    (first : wp program between onExit state)
    (second : ∀ value after, between value after → wp (next value) onReturn onExit after) :
    wp (program >>= next) onReturn onExit state :=
  (wp_bind program next).2 (wp_mono first second fun _ _ exited => exited)

/-- What a specification says about the state a program leaves behind. -/
theorem final_of_wp {program : Prog σ ε α} {holds : σ → Prop}
    (spec : wp program (fun _ => holds) (fun _ => holds) state) : holds (program state).2 := by
  simp only [wp] at spec
  split at spec <;> simp_all

end Prog

end Sastsimi.Lib
