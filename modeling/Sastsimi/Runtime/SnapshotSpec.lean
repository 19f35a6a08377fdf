import Sastsimi.Runtime.Moves

/-!
# Specifications of runner programs

Specifications that do not depend on the moment, the rules that compose them, and the
assertions the specifications of `Sastsimi.Runtime.Refinement` are written with.
-/

namespace Sastsimi.Runtime

open SimpleStage Lib

variable [Platform]

/-! ## Specifications over snapshots -/

/-- From the snapshot the program returns with `onReturn` or leaves early with `onExit`,
whatever the moment is. -/
def Spec {α : Type} (program : Run α) (onReturn : α → Snapshot → Prop)
    (onExit : Snapshot → Prop) (start : Snapshot) : Prop :=
  ∀ world : World, world.toSnapshot = start →
    Prog.wp program (fun value after => onReturn value after.toSnapshot)
      (fun _ after => onExit after.toSnapshot) world

section Rules

variable {α β : Type} {env : RunnerEnv} {onReturn onReturn' : α → Snapshot → Prop}
  {onExit onExit' : Snapshot → Prop} {start : Snapshot}

theorem Spec.pure {value : α} (holds : onReturn value start) :
    Spec (Pure.pure value) onReturn onExit start := by
  rintro world rfl
  exact holds

theorem Spec.exit {reason : Halt} (holds : onExit start) :
    Spec (Prog.exit reason : Run α) onReturn onExit start := by
  rintro world rfl
  exact holds

theorem Spec.mono {program : Run α} (spec : Spec program onReturn onExit start)
    (returns : ∀ value after, onReturn value after → onReturn' value after)
    (exits : ∀ after, onExit after → onExit' after) :
    Spec program onReturn' onExit' start := fun world same =>
  Prog.wp_mono (spec world same) (fun value after => returns value after.toSnapshot)
    (fun _ after => exits after.toSnapshot)

theorem Spec.bind {program : Run β} {next : β → Run α}
    (spec : Spec program (fun value after => Spec (next value) onReturn onExit after)
      onExit start) :
    Spec (program >>= next) onReturn onExit start := fun world same =>
  Prog.wp_seq (spec world same) fun _ after continues => continues after rfl

theorem Spec.ite {condition : Prop} [Decidable condition] {left right : Run α}
    (whenTrue : condition → Spec left onReturn onExit start)
    (whenFalse : ¬ condition → Spec right onReturn onExit start) :
    Spec (if condition then left else right) onReturn onExit start := by
  split
  · exact whenTrue ‹_›
  · exact whenFalse ‹_›

theorem Spec.tick {onReturn : Nat → Snapshot → Prop} (exits : onExit start)
    (returns : ∀ moment, onReturn moment start) :
    Spec (Runtime.tick env) onReturn onExit start := by
  rintro world rfl
  simp only [Runtime.tick, Prog.wp_bind, Prog.wp_look, Prog.wp_change]
  split
  · exact exits
  · exact returns _

theorem Spec.tables {onReturn : Database → Snapshot → Prop}
    (returns : onReturn start.db start) :
    Spec Runtime.tables onReturn onExit start := by
  rintro world rfl
  exact returns

theorem Spec.traced {onReturn : Unit → Snapshot → Prop} {event : TraceEvent}
    (returns : onReturn () { start with trace := start.trace ++ [event] }) :
    Spec (Prog.change fun world => world.traced event) onReturn onExit start := by
  rintro world rfl
  exact returns

theorem Spec.transact {operation : Nat → Database → Except PyError (α × Database)}
    (exits : onExit start)
    (returns : ∀ now value after, operation now start.db = .ok (value, after) →
      onReturn value { start with db := after }) :
    Spec (Runtime.transact env operation) onReturn onExit start := by
  refine Spec.bind (Spec.tick exits ?_)
  rintro moment world rfl
  simp only [Prog.wp_bind, Prog.wp_look]
  split
  · exact exits
  · exact returns _ _ _ ‹_›

theorem Spec.transactUnit {operation : Nat → Database → Except PyError Database}
    {onReturn : Unit → Snapshot → Prop} (exits : onExit start)
    (returns : ∀ now after, operation now start.db = .ok after →
      onReturn () { start with db := after }) :
    Spec (Runtime.transactUnit env operation) onReturn onExit start := by
  refine Spec.transact exits ?_
  intro now value after committed
  cases performed : operation now start.db with
  | error reason => simp [performed, Except.map] at committed
  | ok tables =>
      simp only [performed, Except.map, Except.ok.injEq, Prod.mk.injEq, true_and] at committed
      exact returns now after (by rw [performed, committed])

/-- A transaction under `except ValueError: return None`. -/
theorem Spec.attempt {operation : Nat → Database → Except PyError (β × Database)}
    {image : β → α} {onReturn : Option α → Snapshot → Prop} (exits : onExit start)
    (fails : onReturn none start)
    (returns : ∀ now value after, operation now start.db = .ok (value, after) →
      onReturn (some (image value)) { start with db := after }) :
    Spec (valueErrorIsNone do
      let value ← Runtime.transact env operation
      Pure.pure (some (image value))) onReturn onExit start := by
  rintro world rfl
  simp only [valueErrorIsNone, Prog.wp_handling, Prog.wp_bind, Prog.wp_pure, Runtime.transact,
    Runtime.tick, Prog.wp_look, Prog.wp_change]
  split
  · exact exits
  · simp only [Prog.wp_pure]
    split
    · simp only [Prog.wp_exit]
      split
      · rename_i handled
        split at handled
        · cases handled
          exact fails
        · cases handled
      · exact exits
    · exact returns _ _ _ ‹_›

end Rules

/-! ## Assertions -/

/-- The stored checkpoints say that the hypothesis is finished. -/
def TerminalAt (db : Database) (identity : CheckpointIdentity) : Prop :=
  (∃ initial, db.get identity verificationInitialDone = some initial
      ∧ terminalInitialOutcome (some initial) ≠ none)
    ∨ (∃ poc, db.get identity pocExecutionDone = some poc
      ∧ terminalPocOutcome (some poc) ≠ none)
    ∨ (∃ final, db.get identity verificationFinalDone = some final
      ∧ final.status = .succeeded
      ∧ final.stageVersion = verificationFinalDone.stageVersion
      ∧ (final.verdict = some .isFalse
        ∨ final.verdict = some .hold
          ∧ ∃ chain, db.get identity chainingDone = some chain
            ∧ chain.status = .succeeded
            ∧ chain.stageVersion = chainingDone.stageVersion))
    ∨ (∃ gate, db.get identity techGateDone = some gate
      ∧ terminalGateOutcome (some gate) ≠ none)
    ∨ ∃ report, db.get identity reportDone = some report
      ∧ report.status = .succeeded
      ∧ report.stageVersion = reportDone.stageVersion

section Assertions

variable (env : RunnerEnv) (identity : CheckpointIdentity)

/-- Moves that neither start an attempt nor invoke a handler. -/
def Quiet (before after : Snapshot) : Prop :=
  Moves env identity before after ∧ after.trace = before.trace

/-- A call returned this outcome; a success is recorded in the tables. -/
def Returned (before : Snapshot) (outcome : RunOutcome) (after : Snapshot) : Prop :=
  Quiet env identity before after
    ∧ (outcome.status = .succeeded → TerminalAt after.db identity)

/-- A new pass was prepared without starting an attempt. -/
def QuietRestart (before after : Snapshot) : Prop :=
  Restarted env identity before after ∧ after.trace = before.trace

end Assertions

section Quiet

variable {env : RunnerEnv} {identity : CheckpointIdentity} {before between after : Snapshot}

theorem Quiet.refl : Quiet env identity before before := ⟨.refl, rfl⟩

theorem Quiet.trans (first : Quiet env identity before between)
    (second : Quiet env identity between after) : Quiet env identity before after :=
  ⟨first.1.trans second.1, second.2.trans first.2⟩

theorem Quiet.single {tables : Database}
    (move : Move env identity before { before with db := tables }) :
    Quiet env identity before { before with db := tables } :=
  ⟨.single move, rfl⟩

theorem QuietRestart.single {tables : Database}
    (restarts : Restart env identity before.db tables) :
    QuietRestart env identity before { before with db := tables } :=
  ⟨⟨before, .refl, restarts, rfl⟩, rfl⟩

theorem QuietRestart.after_quiet (first : Quiet env identity before between)
    (second : QuietRestart env identity between after) :
    QuietRestart env identity before after := by
  obtain ⟨⟨last, moves, restarts, same⟩, trace⟩ := second
  exact ⟨⟨last, first.1.trans moves, restarts, same⟩, trace.trans first.2⟩

theorem Returned.after_quiet {outcome : RunOutcome}
    (first : Quiet env identity before between)
    (second : Returned env identity between outcome after) :
    Returned env identity before outcome after :=
  ⟨first.trans second.1, second.2⟩

theorem Returned.of_status {outcome : RunOutcome}
    (quiet : Quiet env identity before after) (open_ : outcome.status ≠ .succeeded) :
    Returned env identity before outcome after :=
  ⟨quiet, fun succeeded => absurd succeeded open_⟩

end Quiet

section Standing

variable {db after : Database} {identity : CheckpointIdentity} {stage : SimpleStage}

theorem HoldSkipped.congr
    (agree : after.get identity verificationFinalDone = db.get identity verificationFinalDone)
    (skipped : HoldSkipped db identity stage) : HoldSkipped after identity stage := by
  obtain ⟨member, final, stored, succeeded, hold⟩ := skipped
  exact ⟨member, final, agree.trans stored, succeeded, hold⟩

omit [Platform] in
theorem final_index_lt_of_mem_holdSkips (member : stage ∈ holdSkips) :
    verificationFinalDone.index < stage.index := by
  cases stage <;> revert member <;> decide

/-- The two tables hold the same checkpoints before a stage. -/
def AgreesBefore (db after : Database) (identity : CheckpointIdentity) (stage : SimpleStage) :
    Prop :=
  ∀ other : SimpleStage, other.index < stage.index →
    after.get identity other = db.get identity other

theorem AgreesBefore.refl : AgreesBefore db db identity stage := fun _ _ => rfl

theorem AgreesBefore.trans {between : Database}
    (first : AgreesBefore db between identity stage)
    (second : AgreesBefore between after identity stage) :
    AgreesBefore db after identity stage := fun other earlier =>
  (second other earlier).trans (first other earlier)

/-- Walking depends only on the earlier stages. -/
theorem Walked.congr {position : Nat}
    (agree : ∀ other : SimpleStage, other.index < position →
      after.get identity other = db.get identity other)
    (walked : Walked db identity position) : Walked after identity position := by
  intro earlier hypothesisStage before
  rcases walked earlier hypothesisStage before with skipped | passed
  · left
    have finalBefore := final_index_lt_of_mem_holdSkips skipped.1
    exact skipped.congr (agree verificationFinalDone (Nat.lt_trans finalBefore before))
  · right
    obtain ⟨checkpoint, stored, facts⟩ := passed
    exact ⟨checkpoint, (agree earlier before).trans stored, facts⟩

theorem Standing.congr (agree : AgreesBefore db after identity stage)
    (standing : Standing db identity stage) : Standing after identity stage where
  hypothesisStage := standing.hypothesisStage
  walked := standing.walked.congr agree
  kept := fun skipped =>
    standing.kept
      (skipped.congr
        (agree verificationFinalDone (final_index_lt_of_mem_holdSkips skipped.1)).symm)

theorem Stored.agreesBefore {checkpoint : StageCheckpoint} {events : List AgentActivityEvent}
    (stores : Stored db checkpoint events after) (owned : checkpoint.identity = identity) :
    AgreesBefore db after identity checkpoint.stage := by
  intro other earlier
  rw [stores.get owned, if_neg]
  rintro rfl
  exact Nat.lt_irrefl _ earlier

theorem Reseeded.agreesBefore {pending : StageCheckpoint}
    (reseeds : Reseeded db pending after) (owned : pending.identity = identity) :
    AgreesBefore db after identity pending.stage := by
  intro other earlier
  rw [reseeds.get owned, if_neg, if_neg (Nat.not_le.2 earlier)]
  rintro rfl
  exact Nat.lt_irrefl _ earlier

theorem agreesBefore_deleteFrom :
    AgreesBefore db (db.deleteFrom identity stage) identity stage := by
  intro other earlier
  rw [Database.get_deleteFrom, if_neg (Nat.not_le.2 earlier)]

/-- Walking past the stage the loop stands at. -/
theorem Walked.step (walked : Walked db identity stage.index)
    (current : HoldSkipped db identity stage ∨ Passed db identity stage) :
    Walked db identity (stage.index + 1) := by
  intro earlier hypothesisStage before
  rcases Nat.lt_succ_iff_lt_or_eq.1 before with earlierStage | same
  · exact walked earlier hypothesisStage earlierStage
  · rw [SimpleStage.index_inj] at same
    rwa [same]

end Standing

end Sastsimi.Runtime
