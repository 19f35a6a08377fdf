import Mathlib.Data.List.Basic

/-!
# Transactions and runs of calls

A transaction works on a copy of the state, which is kept only when the body does not raise.
A cell that no call overwrites is filled at most once along every run of calls.
-/

namespace Sastsimi.Lib

variable {σ ε α β κ ρ : Type}

/-! ## Transactions -/

/-- Run a body on a working copy and keep the copy only when the body does not raise. -/
def atomically (body : σ → σ × Except ε α) (state : σ) : σ × Except ε α :=
  match body state with
  | (worked, .ok value) => (worked, .ok value)
  | (_, .error reason) => (state, .error reason)

/-- A transaction that raises changes nothing. -/
theorem atomically_error {body : σ → σ × Except ε α} {state : σ} {reason : ε}
    (raised : (atomically body state).2 = .error reason) :
    (atomically body state).1 = state := by
  rw [atomically] at raised ⊢
  split at raised
  · cases raised
  · rfl

/-- A transaction that returns is its body. -/
theorem atomically_ok {body : σ → σ × Except ε α} {state after : σ} {value : α} :
    atomically body state = (after, .ok value) ↔ body state = (after, .ok value) := by
  rw [atomically]
  split <;> simp_all

/-- Run a statement for every item until one raises, which leaves the working copy half
written. -/
def runAll (statement : σ → α → Except ε σ) : σ → List α → σ × Except ε Unit
  | state, [] => (state, .ok ())
  | state, item :: rest =>
      match statement state item with
      | .error reason => (state, .error reason)
      | .ok next => runAll statement next rest

/-- What every statement keeps holds after all of them. -/
theorem runAll_keeps {statement : σ → α → Except ε σ} {holds : σ → Prop} {items : List α}
    (keeps : ∀ {state item next}, item ∈ items → statement state item = .ok next →
      holds state → holds next)
    {state : σ} (initially : holds state) : holds (runAll statement state items).1 := by
  induction items generalizing state with
  | nil => exact initially
  | cons item rest ih =>
      rw [runAll]
      split
      · exact initially
      · apply ih
        · exact fun member => keeps (List.mem_cons_of_mem _ member)
        · exact keeps List.mem_cons_self ‹_› initially

/-- What a statement establishes for its item, and the later ones keep, holds of every item
once all of them returned. -/
theorem runAll_ok {statement : σ → α → Except ε σ} {holds : α → σ → Prop}
    (establishes : ∀ {state item next}, statement state item = .ok next → holds item next)
    (keeps : ∀ {kept state item next}, statement state item = .ok next → holds kept state →
      holds kept next)
    {items : List α} {state after : σ}
    (returned : runAll statement state items = (after, .ok ())) :
    ∀ item ∈ items, holds item after := by
  induction items generalizing state with
  | nil => exact fun _ member => absurd member List.not_mem_nil
  | cons first rest ih =>
      rw [runAll] at returned
      split at returned
      · cases returned
      · rename_i next ran
        intro item member
        rcases List.mem_cons.1 member with rfl | later
        · have kept : holds item (runAll statement next rest).1 :=
            runAll_keeps (fun _ => keeps) (establishes ran)
          rwa [returned] at kept
        · exact ih returned item later

/-! ## Runs of calls -/

/-- The state after a run of calls. -/
def runCalls (perform : σ → κ → σ × ρ) : σ → List κ → σ
  | state, [] => state
  | state, call :: rest => runCalls perform (perform state call).1 rest

theorem runCalls_append {perform : σ → κ → σ × ρ} {state : σ} {first second : List κ} :
    runCalls perform state (first ++ second) =
      runCalls perform (runCalls perform state first) second := by
  induction first generalizing state with
  | nil => rfl
  | cons call rest ih => exact ih

/-- How many calls of a run are answered in a given way. -/
def countAnswers (perform : σ → κ → σ × ρ) (counts : κ → ρ → Bool) : σ → List κ → Nat
  | _, [] => 0
  | state, call :: rest =>
      (if counts call (perform state call).2 then 1 else 0)
        + countAnswers perform counts (perform state call).1 rest

/-- A quantity that grows by one with every counted answer has grown by their number. -/
theorem countAnswers_eq {perform : σ → κ → σ × ρ} {counts : κ → ρ → Bool} {quantity : σ → Nat}
    {calls : List κ} {state : σ}
    (grows : ∀ state, ∀ call ∈ calls, quantity (perform state call).1 =
      quantity state + if counts call (perform state call).2 then 1 else 0) :
    quantity (runCalls perform state calls) =
      quantity state + countAnswers perform counts state calls := by
  induction calls generalizing state with
  | nil => rfl
  | cons call rest ih =>
      rw [runCalls, countAnswers, ih fun state later member => grows state later (List.mem_cons_of_mem call member),
        grows state call List.mem_cons_self, Nat.add_assoc]

/-- What every call keeps holds after every run. -/
theorem runCalls_keeps {perform : σ → κ → σ × ρ} {holds : σ → Prop}
    (keeps : ∀ state call, holds state → holds (perform state call).1) {calls : List κ}
    {state : σ} (initially : holds state) : holds (runCalls perform state calls) := by
  induction calls generalizing state with
  | nil => exact initially
  | cons call rest ih => exact ih (keeps state call initially)

/-- A cell that no call overwrites. -/
structure WriteOnce (perform : σ → κ → σ × ρ) (cell : σ → Option β) : Prop where
  keeps : ∀ state call value, cell state = some value →
    cell (perform state call).1 = some value

/-- A filled cell keeps its value along every run. -/
theorem WriteOnce.run {perform : σ → κ → σ × ρ} {cell : σ → Option β}
    (once : WriteOnce perform cell) {calls : List κ} {state : σ} {value : β}
    (filled : cell state = some value) : cell (runCalls perform state calls) = some value :=
  runCalls_keeps (fun state call => once.keeps state call value) filled

/-- No call after the cell is filled is answered in a way that only an empty cell allows. -/
theorem WriteOnce.count_zero {perform : σ → κ → σ × ρ} {cell : σ → Option β}
    {counts : κ → ρ → Bool} (once : WriteOnce perform cell)
    (fresh : ∀ state call, counts call (perform state call).2 = true → cell state = none)
    {calls : List κ} {state : σ} {value : β} (filled : cell state = some value) :
    countAnswers perform counts state calls = 0 := by
  induction calls generalizing state with
  | nil => rfl
  | cons call rest ih =>
      have silent : ¬ counts call (perform state call).2 = true := by
        intro answered
        rw [fresh state call answered] at filled
        cases filled
      rw [countAnswers, if_neg silent, ih (once.keeps state call value filled)]

/-- A cell is filled by at most one call of every run. -/
theorem WriteOnce.count_le_one {perform : σ → κ → σ × ρ} {cell : σ → Option β}
    {counts : κ → ρ → Bool} (once : WriteOnce perform cell)
    (fresh : ∀ state call, counts call (perform state call).2 = true → cell state = none)
    (fills : ∀ state call, counts call (perform state call).2 = true →
      cell (perform state call).1 ≠ none)
    (calls : List κ) (state : σ) : countAnswers perform counts state calls ≤ 1 := by
  induction calls generalizing state with
  | nil => exact Nat.zero_le _
  | cons call rest ih =>
      rw [countAnswers]
      split
      · rename_i answered
        obtain ⟨value, filled⟩ := Option.ne_none_iff_exists'.1 (fills state call answered)
        have later : countAnswers perform counts (perform state call).1 rest = 0 :=
          once.count_zero fresh filled
        omega
      · rw [Nat.zero_add]
        exact ih _

end Sastsimi.Lib
