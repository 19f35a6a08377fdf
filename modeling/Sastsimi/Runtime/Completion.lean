import Sastsimi.Runtime.Catalogue
import Sastsimi.Runtime.Confinement

/-!
# Finished hypotheses

Two definitions of a finished hypothesis coincide on every reachable store: the one by which
`list_incomplete_hypotheses` omits a hypothesis, and the one by which the runner returns a
success at once, without calling a handler or changing a checkpoint.
-/

namespace Sastsimi.Runtime

open SimpleStage Lib

variable [Platform] {env : RunnerEnv} {identity : CheckpointIdentity} {start : Snapshot}
  {α β : Type}

/-! ## Programs that only read -/

/-- The program returns a value with the property and leaves tables and trace alone. -/
def Answers (program : Run α) (holds : α → Prop) (start : Snapshot) : Prop :=
  ∀ world : World, world.toSnapshot = start →
    ∃ value after, program world = (.ok value, after) ∧ after.toSnapshot = start ∧ holds value

theorem Answers.pure {value : α} {holds : α → Prop} (proved : holds value) :
    Answers (Pure.pure value) holds start := by
  intro world here
  exact ⟨value, world, rfl, here, proved⟩

theorem Answers.bind {program : Run β} {next : β → Run α} {between : β → Prop}
    {holds : α → Prop} (first : Answers program between start)
    (second : ∀ value, between value → Answers (next value) holds start) :
    Answers (program >>= next) holds start := by
  intro world here
  obtain ⟨value, middle, ran, same, proved⟩ := first world here
  obtain ⟨result, after, ranNext, sameNext, provedNext⟩ := second value proved middle same
  refine ⟨result, after, ?_, sameNext, provedNext⟩
  rw [Prog.bind_ok ran]
  exact ranNext

theorem Answers.tables : Answers Runtime.tables (· = start.db) start := by
  intro world here
  exact ⟨world.db, world, rfl, here, by rw [← here]⟩

theorem Answers.tick (alive : ∀ moment, env.dies moment = false) :
    Answers (Runtime.tick env) (fun _ => True) start := by
  intro world here
  refine ⟨world.moment, { world with moment := world.moment + 1 }, ?_, here, trivial⟩
  have goesOn : ¬ env.dies world.moment = true := by simp [alive]
  simp only [Runtime.tick, Prog.look, Prog.change, Bind.bind]
  rw [if_neg goesOn]
  rfl

/-! ## Undisturbed surroundings -/

/-- The artifacts of the terminal checkpoints of the hypothesis are intact. -/
structure EvidenceIntact (db : Database) (identity : CheckpointIdentity)
    (artifacts : SimpleArtifactRepository) : Prop where
  owner : artifacts.identity = identity
  initial : ∀ checkpoint, db.get identity verificationInitialDone = some checkpoint →
    terminalInitialOutcome (some checkpoint) ≠ none →
    artifacts.initialEvidence checkpoint = .ok ()
  poc : ∀ checkpoint, db.get identity pocExecutionDone = some checkpoint →
    terminalPocOutcome (some checkpoint) ≠ none →
    artifacts.pocEvidence checkpoint = .ok ()

/-- The process of the runner goes on and reads intact artifacts. -/
structure Undisturbed (env : RunnerEnv) (db : Database) (identity : CheckpointIdentity) :
    Prop where
  alive : ∀ moment, env.dies moment = false
  artifacts : ∃ open_, env.cleanupArtifacts = some open_
    ∧ ∀ moment, EvidenceIntact db identity (open_ moment)

theorem EvidenceIntact.verifiedInitial {db : Database} {artifacts : SimpleArtifactRepository}
    {checkpoint : StageCheckpoint} (intact : EvidenceIntact db identity artifacts)
    (current : db.get identity verificationInitialDone = some checkpoint)
    {outcome : TerminalOutcome} (terminal : terminalInitialOutcome (some checkpoint) = some outcome) :
    artifacts.verifiedTerminalInitialOutcome checkpoint = .ok (some outcome) := by
  have evidence := intact.initial checkpoint current (by simp [terminal])
  have owned := Database.identity_of_get current
  have version : checkpoint.stageVersion = verificationInitialDone.stageVersion := by
    rw [terminalInitialOutcome] at terminal
    split at terminal
    · rename_i facts
      exact facts.2.2.1
    · cases terminal
  rw [SimpleArtifactRepository.verifiedTerminalInitialOutcome, terminal]
  simp [owned, intact.owner, version, evidence]

theorem EvidenceIntact.verifiedPoc {db : Database} {artifacts : SimpleArtifactRepository}
    {checkpoint : StageCheckpoint} (intact : EvidenceIntact db identity artifacts)
    (current : db.get identity pocExecutionDone = some checkpoint)
    {outcome : TerminalOutcome} (terminal : terminalPocOutcome (some checkpoint) = some outcome) :
    artifacts.verifiedTerminalPocOutcome checkpoint = .ok (some outcome) := by
  have evidence := intact.poc checkpoint current (by simp [terminal])
  have owned := Database.identity_of_get current
  rw [SimpleArtifactRepository.verifiedTerminalPocOutcome, terminal]
  cases stop : checkpoint.pocStopDecisionRef with
  | none => simp [evidence]
  | some ref => simp [owned, intact.owner, evidence]

/-! ## The runner at a finished hypothesis -/

section Runner

variable (undisturbed : Undisturbed env start.db identity)

theorem answers_hasPriorPocRecoveryDecision {checkpoint : StageCheckpoint}
    (succeeded : checkpoint.status = .succeeded) :
    Answers (hasPriorPocRecoveryDecision env checkpoint) (· = false) start := by
  rw [hasPriorPocRecoveryDecision, if_pos (.inr (.inl (by simp [succeeded])))]
  exact Answers.pure rfl

/-- An outcome that reports a success. -/
def RunOutcome.Succeeded (outcome : RunOutcome) : Prop := outcome.status = .succeeded

include undisturbed in
theorem answers_verifiedInitialTerminal {checkpoint : StageCheckpoint}
    (current : start.db.get identity verificationInitialDone = some checkpoint)
    (terminal : terminalInitialOutcome (some checkpoint) ≠ none) :
    Answers (verifiedInitialTerminal env checkpoint) RunOutcome.Succeeded start := by
  obtain ⟨open_, configured, intact⟩ := undisturbed.artifacts
  obtain ⟨outcome, isTerminal⟩ := Option.ne_none_iff_exists'.1 terminal
  simp only [verifiedInitialTerminal, configured]
  apply Answers.bind (Answers.tick undisturbed.alive)
  intro moment _
  rw [(intact moment).verifiedInitial current isTerminal]
  exact Answers.pure rfl

include undisturbed in
theorem answers_verifiedPocTerminal {checkpoint : StageCheckpoint}
    (current : start.db.get identity pocExecutionDone = some checkpoint)
    (terminal : terminalPocOutcome (some checkpoint) ≠ none) :
    Answers (verifiedPocTerminal env checkpoint) RunOutcome.Succeeded start := by
  obtain ⟨open_, configured, intact⟩ := undisturbed.artifacts
  obtain ⟨outcome, isTerminal⟩ := Option.ne_none_iff_exists'.1 terminal
  apply Answers.bind (Answers.tick undisturbed.alive)
  intro moment _
  simp only [configured, (intact moment).verifiedPoc current isTerminal]
  exact Answers.pure rfl

/-- A stored success of the current version is reused. -/
theorem reusable_of_current {stage : SimpleStage} {checkpoint : StageCheckpoint}
    (current : start.db.get identity stage = some checkpoint)
    (succeeded : checkpoint.status = .succeeded)
    (version : checkpoint.stageVersion = stage.stageVersion) :
    start.db.reusable identity stage
      (stageInputs env start.db identity stage (some checkpoint)) = true := by
  have inputs : stageInputs env start.db identity stage (some checkpoint) =
      checkpoint.inputRefs := by
    rw [stageInputs]
    split
    · rw [if_neg (by simp), Database.inputRefsFor_of_get current]
    · exact Database.inputRefsFor_of_get current
  rw [inputs, Database.reusable_own_inputs current]
  exact ⟨succeeded, version⟩

/-- The iteration of a reusable stage is what the loop does with the reusable success. -/
theorem answers_stageIteration {stage : SimpleStage} {checkpoint : StageCheckpoint}
    {holds : StageStep → Prop}
    (kept : ¬ HoldSkipped start.db identity stage)
    (current : start.db.get identity stage = some checkpoint)
    (succeeded : checkpoint.status = .succeeded)
    (version : checkpoint.stageVersion = stage.stageVersion)
    (concludes : Answers (concludeReusable env stage checkpoint) holds start) :
    Answers (stageIteration env identity stage) holds start := by
  have reuses : ∀ final, Answers (reuseOrStart env identity stage final (some checkpoint)) holds
      start := by
    intro final
    apply Answers.bind Answers.tables
    rintro _ rfl
    simp only [reusable_of_current current succeeded version, if_true, current]
    exact concludes
  apply Answers.bind Answers.tables
  rintro _ rfl
  dsimp only
  rw [if_neg fun skips => kept (holdSkipped_iff.1 skips)]
  simp only [current]
  apply Answers.bind (answers_hasPriorPocRecoveryDecision succeeded)
  rintro _ rfl
  rw [if_neg (by simp), if_neg (by simp [terminalPocFailure, succeeded])]
  have resolves : Answers (resolveStageVersion env identity stage checkpoint)
      (· = .inr (some checkpoint)) start := by
    rw [resolveStageVersion, if_pos version]
    exact Answers.pure rfl
  have proceeds : Answers (recoverExisting env checkpoint) (· = .proceed) start := by
    rw [recoverExisting, if_neg (by simp [succeeded]), if_pos succeeded]
    exact Answers.pure rfl
  apply Answers.bind resolves
  rintro _ rfl
  simp only [recoverOrRun]
  split
  · apply Answers.bind proceeds
    rintro _ rfl
    exact reuses _
  · exact reuses _

/-- The loop goes on past a reusable success that does not stop it. -/
theorem answers_concludeReusable_next {checkpoint : StageCheckpoint}
    (goesOn : ¬ checkpoint.Stops) :
    Answers (concludeReusable env checkpoint.stage checkpoint) (· = .next) start := by
  simp only [StageCheckpoint.Stops, not_or, not_not, not_and] at goesOn
  obtain ⟨initial, poc, stop, final, gate, revise⟩ := goesOn
  rw [concludeReusable, if_neg (by simp [initial]), if_neg (by simp [poc, stop]),
    if_neg fun isFalse => final isFalse.1 isFalse.2, gateAction, if_neg (by simp [gate]),
    if_neg fun revises => revise revises.1 revises.2.2.2]
  exact Answers.pure rfl

/-- A success at which the loop returns another success. -/
def StageCheckpoint.Concludes (checkpoint : StageCheckpoint) : Prop :=
  terminalInitialOutcome (some checkpoint) ≠ none
    ∨ checkpoint.stage = verificationFinalDone ∧ checkpoint.verdict = some .isFalse
    ∨ terminalGateOutcome (some checkpoint) ≠ none

/-- How a pass over the stages ends at a finished hypothesis. -/
def ReportsSuccess : StageStep → Prop
  | .finished outcome => outcome.Succeeded
  | _ => False

include undisturbed in
theorem answers_concludeReusable_finished {checkpoint : StageCheckpoint}
    (current : start.db.get identity checkpoint.stage = some checkpoint)
    (succeeded : checkpoint.status = .succeeded)
    (tidy : checkpoint.Tidy) (concludes : checkpoint.Concludes) :
    Answers (concludeReusable env checkpoint.stage checkpoint) ReportsSuccess start := by
  unfold concludeReusable
  by_cases initial : terminalInitialOutcome (some checkpoint) ≠ none
  · rw [if_pos initial]
    have isInitial := (stage_of_terminalInitialOutcome initial).1
    apply Answers.bind (answers_verifiedInitialTerminal undisturbed (isInitial ▸ current) initial)
    intro outcome reported
    exact Answers.pure reported
  rw [if_neg initial]
  have notPoc : checkpoint.stage ≠ pocExecutionDone := by
    intro isPoc
    rcases concludes with isInitial | isFinal | isGate
    · exact initial isInitial
    · rw [isPoc] at isFinal
      cases isFinal.1
    · have gate := (stage_of_terminalGateOutcome isGate).1
      rw [isPoc] at gate
      cases gate
  have noStop := (tidy.stopDecision (by simp [succeeded])).resolve_left notPoc
  have noPoc : terminalPocOutcome (some checkpoint) = none := by
    by_contra terminal
    exact notPoc (stage_of_terminalPocOutcome terminal).1
  rw [if_neg (by simp [noStop, noPoc])]
  rcases concludes with isInitial | isFinal | isGate
  · exact absurd isInitial initial
  · rw [if_pos isFinal]
    exact Answers.pure rfl
  · have gate := (stage_of_terminalGateOutcome isGate).1
    rw [if_neg (by simp [gate]), gateAction, if_pos isGate]
    exact Answers.pure rfl

/-! ### Passes -/

theorem answers_stagePass_walked {stages rest : List SimpleStage} {holds : StageStep → Prop}
    (walked : ∀ stage ∈ stages,
      HoldSkipped start.db identity stage ∨ Passed start.db identity stage)
    (ends : Answers (stagePass env identity rest) holds start) :
    Answers (stagePass env identity (stages ++ rest)) holds start := by
  induction stages with
  | nil => exact ends
  | cons stage stages ih =>
      have next : Answers (stageIteration env identity stage) (· = .next) start := by
        by_cases skipped : HoldSkipped start.db identity stage
        · apply Answers.bind Answers.tables
          rintro _ rfl
          dsimp only
          rw [if_pos (holdSkipped_iff.2 skipped)]
          exact Answers.pure rfl
        · obtain ⟨checkpoint, current, succeeded, version, goesOn⟩ :=
            (walked stage (by simp)).resolve_left skipped
          have sameStage := Database.stage_of_get current
          apply answers_stageIteration skipped current succeeded version
          rw [← sameStage]
          exact answers_concludeReusable_next goesOn
      apply Answers.bind next
      rintro _ rfl
      exact ih fun other member => walked other (List.mem_cons_of_mem _ member)

omit [Platform] in
theorem hypothesisStages_pairwise :
    hypothesisStages.Pairwise fun left right => left.index < right.index := by
  decide

include undisturbed in
/-- A pass ends at a standing success at which the loop returns. -/
theorem answers_stagePass_concludes {checkpoint : StageCheckpoint}
    (standing : Standing start.db identity checkpoint.stage)
    (current : start.db.get identity checkpoint.stage = some checkpoint)
    (succeeded : checkpoint.status = .succeeded)
    (tidy : checkpoint.Tidy) (concludes : checkpoint.Concludes) :
    Answers (stagePass env identity hypothesisStages) ReportsSuccess start := by
  have member := mem_hypothesisStages.2 standing.hypothesisStage
  obtain ⟨earlier, later, split⟩ := List.append_of_mem member
  have ordered := hypothesisStages_pairwise
  rw [split, List.pairwise_append] at ordered
  rw [split]
  apply answers_stagePass_walked
  · intro stage stageMember
    have inside : stage ∈ hypothesisStages := by
      rw [split]
      exact List.mem_append_left _ stageMember
    have below := ordered.2.2 stage stageMember checkpoint.stage (by simp)
    exact standing.walked stage (mem_hypothesisStages.1 inside) below
  · have finishes := answers_stageIteration standing.kept current succeeded tidy.version
      (answers_concludeReusable_finished undisturbed current succeeded tidy concludes)
    apply Answers.bind finishes
    intro step reports
    cases step with
    | finished outcome => exact Answers.pure reports
    | next => exact reports.elim
    | restart => exact reports.elim

/-- A pass over stages that are all walked past runs to its end. -/
theorem answers_stagePass_complete
    (walked : Walked start.db identity (reportDone.index + 1)) :
    Answers (stagePass env identity hypothesisStages) (· = .next) start := by
  rw [← List.append_nil hypothesisStages]
  apply answers_stagePass_walked
  · intro stage member
    exact walked stage (mem_hypothesisStages.1 member)
      (Nat.lt_succ_of_le stage.index_le)
  · exact Answers.pure rfl

/-! ### Calls -/

/-- A call that reports a success. -/
def CallSucceeded (outcome : Option RunOutcome) : Prop :=
  ∃ reported, outcome = some reported ∧ reported.Succeeded

/-- How the tables of a finished hypothesis end the call. -/
inductive Finished (db : Database) (identity : CheckpointIdentity) : Prop where
  | poc {checkpoint : StageCheckpoint}
      (current : db.get identity pocExecutionDone = some checkpoint)
      (terminal : terminalPocOutcome (some checkpoint) ≠ none)
  | concludes {checkpoint : StageCheckpoint}
      (standing : Standing db identity checkpoint.stage)
      (current : db.get identity checkpoint.stage = some checkpoint)
      (succeeded : checkpoint.status = .succeeded) (concludes : checkpoint.Concludes)
  | complete (walked : Walked db identity (reportDone.index + 1))

theorem answers_runPasses {passes : Nat} {holds : StageStep → Prop}
    (pass : Answers (stagePass env identity hypothesisStages) holds start)
    (reports : ∀ step, holds step → step = .next ∨ ReportsSuccess step) :
    Answers (runPasses env identity (passes + 1)) CallSucceeded start := by
  apply Answers.bind pass
  intro step reached
  rcases reports step reached with rfl | finished
  · exact Answers.pure ⟨_, rfl, rfl⟩
  · cases step with
    | finished outcome => exact Answers.pure ⟨outcome, rfl, finished⟩
    | next => exact finished.elim
    | restart => exact finished.elim

include undisturbed in
/-- After the records are checked, a finished hypothesis ends the call with a success. -/
theorem answers_resumeFromRecords {passes : Nat} (tidy : Tidy start.db identity)
    (allSucceeded : ∀ stage checkpoint, start.db.get identity stage = some checkpoint →
      checkpoint.status = .succeeded)
    (finished : Finished start.db identity) :
    Answers (resumeFromRecords env (passes + 1) identity) CallSucceeded start := by
  have loop : (∀ checkpoint, start.db.get identity pocExecutionDone = some checkpoint →
        terminalPocOutcome (some checkpoint) = none) →
      Answers (runPasses env identity (passes + 1)) CallSucceeded start := by
    intro noPoc
    cases finished with
    | poc current terminal => exact absurd (noPoc _ current) terminal
    | concludes standing current succeeded concludes =>
        have pass := answers_stagePass_concludes undisturbed standing current succeeded
          (tidy _ _ current) concludes
        exact answers_runPasses pass fun step reports => .inr reports
    | complete walked =>
        exact answers_runPasses (answers_stagePass_complete walked) fun step isNext =>
          .inl isNext
  rcases stored : start.db.get identity pocExecutionDone with _ | checkpoint
  · have recorded : Answers (recordedPocTerminal env identity) (· = none) start := by
      apply Answers.bind Answers.tables
      rintro _ rfl
      simp only [stored]
      exact Answers.pure rfl
    apply Answers.bind recorded
    rintro _ rfl
    exact loop (by simp [stored])
  · have succeeded := allSucceeded _ _ stored
    obtain ⟨open_, configured, -⟩ := undisturbed.artifacts
    by_cases terminal : terminalPocOutcome (some checkpoint) = none
    · have recorded : Answers (recordedPocTerminal env identity) (· = none) start := by
        apply Answers.bind Answers.tables
        rintro _ rfl
        simp only [stored]
        rw [if_neg (by simp [terminal])]
        apply Answers.bind (answers_hasPriorPocRecoveryDecision succeeded)
        rintro _ rfl
        rw [if_neg (by simp), if_neg (by simp [terminalPocFailure, succeeded])]
        exact Answers.pure rfl
      apply Answers.bind recorded
      rintro _ rfl
      apply loop
      intro other current
      rw [stored] at current
      cases current
      exact terminal
    · have recorded : Answers (recordedPocTerminal env identity) CallSucceeded start := by
        apply Answers.bind Answers.tables
        rintro _ rfl
        simp only [stored]
        rw [if_pos terminal, if_neg (by simp [configured])]
        apply Answers.bind (answers_verifiedPocTerminal undisturbed stored terminal)
        intro outcome reported
        exact Answers.pure ⟨outcome, rfl, reported⟩
      apply Answers.bind recorded
      rintro _ ⟨outcome, rfl, reported⟩
      exact Answers.pure ⟨outcome, rfl, reported⟩

/-- A finished PoC is not reset. -/
theorem answers_resetIncompletePocAttempt
    (allSucceeded : ∀ stage checkpoint, start.db.get identity stage = some checkpoint →
      checkpoint.status = .succeeded)
    (tidy : Tidy start.db identity)
    (paired : start.db.get identity pocCandidateDone ≠ none →
      start.db.get identity pocExecutionDone ≠ none) :
    Answers (resetIncompletePocAttempt env identity) (fun _ => True) start := by
  apply Answers.bind Answers.tables
  rintro _ rfl
  cases candidateStored : start.db.get identity pocCandidateDone with
  | none => exact Answers.pure trivial
  | some candidate =>
      obtain ⟨execution, stored⟩ :=
        Option.ne_none_iff_exists'.1 (paired (by simp [candidateStored]))
      have candidateSucceeded := allSucceeded _ _ candidateStored
      have succeeded := allSucceeded _ _ stored
      have version : execution.stageVersion = pocExecutionDone.stageVersion := by
        rw [(tidy _ _ stored).version, Database.stage_of_get stored]
      have reuses : Answers (restartIncompletePair env identity candidate (some execution))
          (fun _ => True) start := by
        apply Answers.bind Answers.tables
        rintro _ rfl
        have reusable : start.db.reusable identity pocExecutionDone
            (start.db.inputRefsFor identity pocExecutionDone) = true := by
          rw [Database.inputRefsFor_of_get stored, Database.reusable_own_inputs stored]
          exact ⟨succeeded, version⟩
        dsimp only
        rw [if_pos (by simp [reusable])]
        exact Answers.pure trivial
      simp only [candidateSucceeded, stored, ne_eq, not_true_eq_false, if_false]
      rw [if_neg fun stale => stale.2 version]
      split
      · exact Answers.pure trivial
      · apply Answers.bind (answers_hasPriorPocRecoveryDecision succeeded)
        rintro _ rfl
        rw [if_neg (by simp [succeeded])]
        exact reuses

end Runner

/-! ## Terminal tables are finished -/

section Terminal

variable {db : Database}

/-- Nothing is unfinished when the last stored stage succeeded. -/
theorem Frontier.all_succeeded (frontier : Frontier db identity) {last : StageCheckpoint}
    (current : db.get identity last.stage = some last) (succeeded : last.status = .succeeded)
    (noneAbove : ∀ later : SimpleStage, last.stage.index < later.index →
      db.get identity later = none) {stage : SimpleStage} {checkpoint : StageCheckpoint}
    (stored : db.get identity stage = some checkpoint) : checkpoint.status = .succeeded := by
  rcases Nat.lt_trichotomy stage.index last.stage.index with below | same | above
  · exact (frontier.passed stored current below).1
  · rw [SimpleStage.index_inj] at same
    subst same
    rw [current] at stored
    cases stored
    exact succeeded
  · rw [noneAbove stage above] at stored
    cases stored

/-- The loop only stops at the stages that decide something. -/
theorem StageCheckpoint.Tidy.goes_on {checkpoint : StageCheckpoint} (tidy : checkpoint.Tidy)
    (succeeded : checkpoint.status = .succeeded)
    (neither : checkpoint.stage ∉
      [verificationInitialDone, pocExecutionDone, verificationFinalDone, techGateDone]) :
    ¬ checkpoint.Stops := by
  simp only [List.mem_cons, List.not_mem_nil, or_false, not_or] at neither
  obtain ⟨notInitial, notPoc, notFinal, notGate⟩ := neither
  have noStop := (tidy.stopDecision (by simp [succeeded])).resolve_left notPoc
  intro stops
  rcases stops with initial | poc | stop | final | gate | revise
  · exact notInitial (stage_of_terminalInitialOutcome initial).1
  · exact notPoc (stage_of_terminalPocOutcome poc).1
  · exact stop noStop
  · exact notFinal final.1
  · exact notGate (stage_of_terminalGateOutcome gate).1
  · exact notGate revise.1

/-- The walk past a stored stage that the loop does not stop at. -/
theorem Frontier.walked_past (frontier : Frontier db identity) {last : StageCheckpoint}
    (current : db.get identity last.stage = some last) (succeeded : last.status = .succeeded)
    (version : last.stageVersion = last.stage.stageVersion) (goesOn : ¬ last.Stops) :
    Walked db identity (last.stage.index + 1) := by
  intro earlier hypothesisStage before
  rcases Nat.lt_or_eq_of_le (Nat.le_of_lt_succ before) with below | same
  · exact (frontier.standing _ _ current).walked earlier hypothesisStage below
  · rw [SimpleStage.index_inj] at same
    subst same
    exact .inr ⟨last, current, succeeded, version, goesOn⟩

omit [Platform] in
theorem holdSkips_of_above {stage : SimpleStage} (above : chainingDone.index < stage.index) :
    stage ∈ holdSkips := by
  revert above
  cases stage <;> decide

/-- A terminal hypothesis has only successes, and they end the next call. -/
theorem TerminalAt.finished (frontier : Frontier db identity) (tidy : Tidy db identity)
    (terminal : TerminalAt db identity) :
    (∀ stage checkpoint, db.get identity stage = some checkpoint →
        checkpoint.status = .succeeded)
      ∧ Finished db identity := by
  have stopped : ∀ {checkpoint : StageCheckpoint},
      db.get identity checkpoint.stage = some checkpoint → checkpoint.status = .succeeded →
      checkpoint.Stops → ∀ stage other, db.get identity stage = some other →
      other.status = .succeeded := by
    intro checkpoint current succeeded stops stage other stored
    exact frontier.all_succeeded current succeeded
      (fun later above => frontier.none_above current (.inr stops) above) stored
  rcases terminal with ⟨initial, stored, isTerminal⟩ | ⟨poc, stored, isTerminal⟩ |
    ⟨final, stored, succeeded, version, verdict⟩ | ⟨gate, stored, isTerminal⟩ |
    ⟨report, stored, succeeded, version⟩
  · have sameStage := Database.stage_of_get stored
    have current : db.get identity initial.stage = some initial := sameStage ▸ stored
    have succeeded := (stage_of_terminalInitialOutcome isTerminal).2
    exact ⟨stopped current succeeded (.inl isTerminal),
      .concludes (frontier.standing _ _ current) current succeeded (.inl isTerminal)⟩
  · have sameStage := Database.stage_of_get stored
    have current : db.get identity poc.stage = some poc := sameStage ▸ stored
    have succeeded := (stage_of_terminalPocOutcome isTerminal).2
    exact ⟨stopped current succeeded (.inr (.inl isTerminal)), .poc stored isTerminal⟩
  · have sameStage := Database.stage_of_get stored
    rcases verdict with isFalse | ⟨hold, chain, chainStored, chainSucceeded, chainVersion⟩
    · have current : db.get identity final.stage = some final := sameStage ▸ stored
      exact ⟨stopped current succeeded (.inr (.inr (.inr (.inl ⟨sameStage, isFalse⟩)))),
        .concludes (frontier.standing _ _ current) current succeeded
          (.inr (.inl ⟨sameStage, isFalse⟩))⟩
    · have chainStage := Database.stage_of_get chainStored
      have current : db.get identity chain.stage = some chain := chainStage ▸ chainStored
      have skipped : ∀ later : SimpleStage, chainingDone.index < later.index →
          HoldSkipped db identity later := fun later above =>
        ⟨holdSkips_of_above above, final, stored, succeeded, hold⟩
      have noneAbove : ∀ later : SimpleStage, chain.stage.index < later.index →
          db.get identity later = none := by
        intro later above
        rw [chainStage] at above
        cases found : db.get identity later with
        | none => rfl
        | some other => exact absurd (skipped later above) (frontier.standing _ _ found).kept
      have goesOn := (tidy _ _ chainStored).goes_on chainSucceeded (by simp [chainStage])
      have walked := frontier.walked_past current chainSucceeded (chainStage ▸ chainVersion) goesOn
      refine ⟨fun stage other found =>
        frontier.all_succeeded current chainSucceeded noneAbove found, .complete ?_⟩
      intro earlier hypothesisStage _
      by_cases above : chainingDone.index < earlier.index
      · exact .inl (skipped earlier above)
      · apply walked earlier hypothesisStage
        rw [chainStage]
        omega
  · have sameStage := Database.stage_of_get stored
    have current : db.get identity gate.stage = some gate := sameStage ▸ stored
    have succeeded := (stage_of_terminalGateOutcome isTerminal).2
    exact ⟨stopped current succeeded (.inr (.inr (.inr (.inr (.inl isTerminal))))),
      .concludes (frontier.standing _ _ current) current succeeded (.inr (.inr isTerminal))⟩
  · have sameStage := Database.stage_of_get stored
    have current : db.get identity report.stage = some report := sameStage ▸ stored
    have noneAbove : ∀ later : SimpleStage, report.stage.index < later.index →
        db.get identity later = none := by
      intro later above
      rw [sameStage] at above
      exact absurd later.index_le (Nat.not_le.2 above)
    have goesOn := (tidy _ _ stored).goes_on succeeded (by simp [sameStage])
    have walked := frontier.walked_past current succeeded (sameStage ▸ version) goesOn
    rw [sameStage] at walked
    exact ⟨fun stage other found => frontier.all_succeeded current succeeded noneAbove found,
      .complete walked⟩

/-- A finished hypothesis with a PoC candidate has a PoC execution. -/
theorem Finished.paired (frontier : Frontier db identity) (finished : Finished db identity)
    (candidate : db.get identity pocCandidateDone ≠ none) :
    db.get identity pocExecutionDone ≠ none := by
  have walkedPast : ∀ {position : Nat}, pocExecutionDone.index < position →
      Walked db identity position → db.get identity pocExecutionDone ≠ none := by
    intro position below walked
    obtain ⟨execution, stored, -⟩ :=
      (walked pocExecutionDone (by decide) below).resolve_left
        fun skipped => absurd skipped.1 (by decide)
    simp [stored]
  cases finished with
  | poc current terminal => simp [current]
  | @concludes checkpoint standing current succeeded concludes =>
      rcases concludes with initial | final | gate
      · have isInitial := (stage_of_terminalInitialOutcome initial).1
        have none : db.get identity pocCandidateDone = none :=
          frontier.none_above current (.inr (.inl initial)) (by rw [isInitial]; decide)
        exact absurd none candidate
      · exact walkedPast (by rw [final.1]; decide) standing.walked
      · exact walkedPast (by rw [(stage_of_terminalGateOutcome gate).1]; decide) standing.walked
  | complete walked => exact walkedPast (by decide) walked

end Terminal

/-! ## Two definitions of a finished hypothesis -/

/-- A call on the hypothesis reports a success, invokes no handler and changes no checkpoint. -/
def SucceedsUnchanged (env : RunnerEnv) (passes : Nat) (identity : CheckpointIdentity)
    (world : World) : Prop :=
  ∃ outcome after, resumeHypothesis env passes identity world = (.ok (some outcome), after)
    ∧ outcome.status = .succeeded
    ∧ invocations after.trace = invocations world.trace
    ∧ after.db.checkpoints = world.db.checkpoints

/-- A terminal hypothesis ends a call at once. -/
theorem succeedsUnchanged_of_terminalAt {world : World} {passes : Nat}
    (undisturbed : Undisturbed env world.db identity) (frontier : Frontier world.db identity)
    (tidy : Tidy world.db identity) (terminal : TerminalAt world.db identity) :
    SucceedsUnchanged env (passes + 1) identity world := by
  obtain ⟨allSucceeded, finished⟩ := terminal.finished frontier tidy
  have resumes : Answers (resumeFromRecords env (passes + 1) identity) CallSucceeded
      world.toSnapshot :=
    answers_resumeFromRecords undisturbed tidy allSucceeded finished
  have call : Answers (resumeHypothesis env (passes + 1) identity) CallSucceeded
      world.toSnapshot := by
    rw [resumeHypothesis]
    split
    · exact Answers.bind
        (answers_resetIncompletePocAttempt allSucceeded tidy
          (finished.paired frontier)) fun _ _ => resumes
    · exact resumes
  obtain ⟨reported, after, ran, same, outcome, rfl, succeeded⟩ := call world rfl
  exact ⟨outcome, after, ran, succeeded, by rw [← same], by rw [← same]⟩

/-- A call that reports a success and changes no checkpoint found a terminal hypothesis. -/
theorem terminalAt_of_succeedsUnchanged {world : World} {passes : Nat}
    (succeeds : SucceedsUnchanged env passes identity world) :
    TerminalAt world.db identity := by
  obtain ⟨outcome, after, ran, succeeded, -, same⟩ := succeeds
  have spec := @spec_resumeHypothesis _ env identity _ passes world rfl
  rw [Prog.wp, ran] at spec
  have terminal := spec.2 outcome rfl succeeded
  have rows : ∀ stage, after.db.get identity stage = world.db.get identity stage := by
    intro stage
    simp only [Database.get, same]
  simpa only [TerminalAt, rows] using terminal

end Sastsimi.Runtime
