import Sastsimi.Runtime.Completion
import Sastsimi.Runtime.Termination

/-!
# The bound on Gate revisions

The revision count is not stored in a row of its own: a new attempt inherits it from the
checkpoint before it.  A move keeps the count of the last stored checkpoint unless a call
without a recovery coordinator discards an unfinished checkpoint whose count is above that of
the checkpoint before it.  While the count is kept, two revisions are committed at most, and
the third Gate that asks for a revision is the end.
-/

namespace Sastsimi.Runtime

open SimpleStage Lib

variable [Platform] {env : RunnerEnv} {identity : CheckpointIdentity} {db after : Database}
  {last stored : StageCheckpoint}

/-! ## The inherited count -/

/-- The last stored checkpoint, from which the next stage inherits. -/
def Database.latest (db : Database) (identity : CheckpointIdentity) : Option StageCheckpoint :=
  stageOrder.reverse.findSome? fun stage => db.get identity stage

/-- The `gate_revision_count` that the next stage inherits. -/
def Database.inheritedCount (db : Database) (identity : CheckpointIdentity) : Nat :=
  ((db.latest identity).map (·.gateRevisionCount)).getD 0

/-- The count a new attempt of a stage inherits from the stage before it. -/
def Database.precedingCount (db : Database) (identity : CheckpointIdentity)
    (stage : SimpleStage) : Nat :=
  ((db.preceding identity stage).map (·.gateRevisionCount)).getD 0

/-- A checkpoint with nothing stored above it. -/
structure LastStored (db : Database) (identity : CheckpointIdentity) (last : StageCheckpoint) :
    Prop where
  current : db.get identity last.stage = some last
  noneAbove : ∀ other : SimpleStage, last.stage.index < other.index →
    db.get identity other = none

theorem LastStored.latest (isLast : LastStored db identity last) :
    db.latest identity = some last := by
  have member : last.stage ∈ stageOrder.reverse := List.mem_reverse.2 (mem_stageOrder _)
  obtain ⟨later, earlier, split⟩ := List.append_of_mem member
  have ordered : stageOrder.reverse.Pairwise fun left right => right.index < left.index := by
    decide
  rw [split, List.pairwise_append] at ordered
  rw [Database.latest, List.findSome?_eq_some_iff]
  refine ⟨later, last.stage, earlier, split, isLast.current, ?_⟩
  intro other otherMember
  exact isLast.noneAbove other (ordered.2.2 other otherMember last.stage (by simp))

theorem LastStored.inheritedCount (isLast : LastStored db identity last) :
    db.inheritedCount identity = last.gateRevisionCount := by
  rw [Database.inheritedCount, isLast.latest]
  rfl

/-- Either nothing is stored, or some checkpoint is the last one. -/
theorem lastStored_or_empty (db : Database) (identity : CheckpointIdentity) :
    (∀ stage, db.get identity stage = none) ∨ ∃ last, LastStored db identity last := by
  have ordered : stageOrder.reverse.Pairwise fun left right => right.index < left.index := by
    decide
  cases found : db.latest identity with
  | none =>
      rw [Database.latest, List.findSome?_eq_none_iff] at found
      exact .inl fun stage => found stage (List.mem_reverse.2 (mem_stageOrder stage))
  | some last =>
      rw [Database.latest, List.findSome?_eq_some_iff] at found
      obtain ⟨later, stage, earlier, split, current, none⟩ := found
      have sameStage := Database.stage_of_get current
      refine .inr ⟨last, sameStage ▸ current, ?_⟩
      intro other above
      rw [sameStage] at above
      apply none
      have member : other ∈ stageOrder.reverse := List.mem_reverse.2 (mem_stageOrder other)
      rw [split, List.pairwise_append, List.pairwise_cons] at ordered
      rw [split, List.mem_append, List.mem_cons] at member
      rcases member with inLater | rfl | inEarlier
      · exact inLater
      · exact absurd above (Nat.lt_irrefl _)
      · exact absurd (ordered.2.1.1 other inEarlier) (Nat.lt_asymm above)

theorem inheritedCount_of_empty (empty : ∀ stage, db.get identity stage = none) :
    db.inheritedCount identity = 0 := by
  have nothing : db.latest identity = none := by
    rw [Database.latest, List.findSome?_eq_none_iff]
    exact fun stage _ => empty stage
  rw [Database.inheritedCount, nothing]
  rfl

theorem Settles.lastStored (settles : Settles db after identity stored) :
    LastStored after identity stored := by
  constructor
  · rw [settles, if_pos rfl]
  · intro other above
    have different : other ≠ stored.stage := fun same => Nat.lt_irrefl _ (same ▸ above)
    rw [settles, if_neg different, if_pos (Nat.le_of_lt above)]

/-- An unfinished or stopping checkpoint is the last one. -/
theorem Frontier.lastStored (frontier : Frontier db identity)
    (current : db.get identity stored.stage = some stored)
    (unpassed : stored.status ≠ .succeeded ∨ stored.Stops) : LastStored db identity stored :=
  ⟨current, fun _ => frontier.none_above current unpassed⟩

theorem LastStored.eq (isLast : LastStored db identity last)
    (alsoLast : LastStored db identity stored) : stored = last := by
  rcases Nat.lt_trichotomy stored.stage.index last.stage.index with below | same | above
  · have none := alsoLast.noneAbove _ below
    rw [isLast.current] at none
    cases none
  · rw [SimpleStage.index_inj] at same
    have found := alsoLast.current
    rw [same, isLast.current] at found
    cases found
    rfl
  · have none := isLast.noneAbove _ above
    rw [alsoLast.current] at none
    cases none

/-! ## The invariant -/

/-- Above the PoC candidate every stored checkpoint has the count of the candidate. -/
structure Leveled (db : Database) (identity : CheckpointIdentity) : Prop where
  frontier : Frontier db identity
  tidy : Tidy db identity
  level : ∀ stage checkpoint candidate, db.get identity stage = some checkpoint →
    db.get identity pocCandidateDone = some candidate →
    pocCandidateDone.index < stage.index →
    checkpoint.gateRevisionCount = candidate.gateRevisionCount

/-- The last stored checkpoint has the count of the candidate. -/
theorem Leveled.last_eq (leveled : Leveled db identity) (isLast : LastStored db identity last)
    {candidate : StageCheckpoint} (stored : db.get identity pocCandidateDone = some candidate) :
    last.gateRevisionCount = candidate.gateRevisionCount := by
  have sameStage := Database.stage_of_get stored
  rcases Nat.lt_trichotomy last.stage.index pocCandidateDone.index with below | same | above
  · have none := isLast.noneAbove _ below
    rw [stored] at none
    cases none
  · rw [SimpleStage.index_inj] at same
    have found := isLast.current
    rw [same, stored] at found
    cases found
    rfl
  · exact leveled.level _ _ _ isLast.current stored above

/-- The checkpoint before a standing stage is the last one stored below it. -/
theorem Frontier.preceding (frontier : Frontier db identity) {stage : SimpleStage}
    (standing : Standing db identity stage) (missing : db.get identity stage = none)
    (isLast : LastStored db identity last) : db.preceding identity stage = some last := by
  have below : last.stage.index < stage.index := by
    rcases Nat.lt_trichotomy last.stage.index stage.index with below | same | above
    · exact below
    · rw [SimpleStage.index_inj] at same
      rw [← same, isLast.current] at missing
      cases missing
    · have lastStanding := frontier.standing _ _ isLast.current
      obtain ⟨checkpoint, found, -⟩ :=
        (lastStanding.walked stage standing.hypothesisStage above).resolve_left standing.kept
      rw [missing] at found
      cases found
  exact preceding_eq isLast.current below fun other above _ => isLast.noneAbove other above

/-- Above the candidate the checkpoint before a stage has the count of the candidate. -/
theorem Leveled.precedingCount_eq (leveled : Leveled db identity) {stage : SimpleStage}
    {candidate : StageCheckpoint} (stored : db.get identity pocCandidateDone = some candidate)
    (above : pocCandidateDone.index < stage.index) :
    db.precedingCount identity stage = candidate.gateRevisionCount := by
  have ordered := stageOrder_reverse_pairwise stage
  have member : pocCandidateDone ∈ (stageOrder.take stage.index).reverse :=
    List.mem_reverse.2 (mem_stageOrder_take.2 above)
  have found : (db.prior identity stage).getLast? ≠ none := by
    rw [Database.prior, List.getLast?_filterMap, ne_eq, List.findSome?_eq_none_iff]
    intro none
    have missing := none pocCandidateDone member
    rw [stored] at missing
    cases missing
  obtain ⟨entry, isEntry⟩ := Option.ne_none_iff_exists'.1 found
  have split := isEntry
  rw [Database.prior, List.getLast?_filterMap, List.findSome?_eq_some_iff] at split
  obtain ⟨later, item, earlier, whole, here, none⟩ := split
  obtain ⟨preceding, current, rfl⟩ := Option.map_eq_some_iff.1 here
  have count : db.precedingCount identity stage = preceding.gateRevisionCount := by
    rw [Database.precedingCount, Database.preceding, isEntry]
    rfl
  rw [whole, List.pairwise_append, List.pairwise_cons] at ordered
  rw [whole, List.mem_append, List.mem_cons] at member
  rcases member with inLater | rfl | inEarlier
  · have missing := none _ inLater
    rw [stored] at missing
    cases missing
  · rw [stored] at current
    cases current
    exact count
  · rw [count]
    exact leveled.level item preceding candidate current stored
      (ordered.2.1.1 _ inEarlier)

/-- A call without a recovery coordinator discards no unfinished checkpoint whose count is
above that of the checkpoint before it: it neither starts the stage anew without recipe and
image, nor ends after the checkpoint was deleted. -/
def KeepsCount (env : RunnerEnv) (identity : CheckpointIdentity) (before after : Snapshot) :
    Prop :=
  env.recovery = none → ∀ stage checkpoint, before.db.get identity stage = some checkpoint →
    checkpoint.status ≠ .pending → checkpoint.status ≠ .succeeded →
    before.db.precedingCount identity stage < checkpoint.gateRevisionCount →
    after.db.get identity stage ≠ none
      ∧ (after.trace = before.trace ++ [.started stage (some checkpoint)] →
        checkpoint.recipeRef ≠ none ∧ checkpoint.imageDigest ≠ none)

/-! ## The count of the checkpoint a move settles -/

/-- A checkpoint that becomes the last one carries the count on. -/
structure Carries (db : Database) (identity : CheckpointIdentity) (stored : StageCheckpoint) :
    Prop where
  least : db.inheritedCount identity ≤ stored.gateRevisionCount
  level : ∀ candidate, db.get identity pocCandidateDone = some candidate →
    pocCandidateDone.index < stored.stage.index →
    stored.gateRevisionCount = candidate.gateRevisionCount

/-- A checkpoint with the count of the last stored one carries it on. -/
theorem Carries.of_eq (leveled : Leveled db identity) (isLast : LastStored db identity last)
    (same : stored.gateRevisionCount = last.gateRevisionCount) : Carries db identity stored := by
  constructor
  · rw [isLast.inheritedCount, same]
  · intro candidate current _
    rw [same]
    exact leveled.last_eq isLast current

theorem RestartChange.carries (leveled : Leveled db identity)
    (change : RestartChange env identity db stored) : Carries db identity stored := by
  cases change with
  | recover configured standing current isFailed =>
      have isLast := leveled.frontier.lastStored current (.inl isFailed.unsettled.2.2)
      exact .of_eq leveled isLast rfl
  | @revise gate candidate execution now standing current stops =>
      have sameStage := Database.stage_of_get current
      have isLast := leveled.frontier.lastStored (sameStage ▸ current) (.inr stops)
      constructor
      · rw [isLast.inheritedCount]
        exact Nat.le_succ _
      · exact fun _ _ above => absurd above (Nat.lt_irrefl _)

/-- A new attempt carries the count on. -/
theorem start_carries {stage : SimpleStage} {fresh : String} {now : Nat} {base : Database}
    (leveled : Leveled db identity) (standing : Standing db identity stage)
    (startable : ∀ checkpoint, db.get identity stage = some checkpoint →
      Startable env checkpoint)
    (cleared : base =
      if (db.get identity stage).map (·.status) = some .pending then db
      else db.deleteFrom identity stage)
    (keeps : ∀ checkpoint, db.get identity stage = some checkpoint →
      checkpoint.status ≠ .pending → checkpoint.status ≠ .succeeded →
      db.precedingCount identity stage < checkpoint.gateRevisionCount →
      checkpoint.recipeRef ≠ none ∧ checkpoint.imageDigest ≠ none) :
    Carries db identity
      (base.runningCheckpoint identity stage
        (stageInputs env db identity stage (db.get identity stage))
        (selectAttemptId stage (db.get identity stage) (db.preceding identity stage) fresh)
        (inheritSource (db.get identity stage) (db.preceding identity stage)) now) := by
  cases stored : db.get identity stage with
  | none =>
      have missing : base.get identity stage = none := by
        rw [cleared, stored, if_neg (by simp), Database.get_deleteFrom, if_pos (Nat.le_refl _)]
      rcases lastStored_or_empty db identity with empty | ⟨last, isLast⟩
      · constructor
        · rw [inheritedCount_of_empty empty]
          exact Nat.zero_le _
        · intro candidate current
          rw [empty] at current
          cases current
      · have preceding := leveled.frontier.preceding standing stored isLast
        apply Carries.of_eq leveled isLast
        simp [Database.runningCheckpoint, missing, preceding, inheritSource]
  | some checkpoint =>
      have sameStage := Database.stage_of_get stored
      have unfinished : checkpoint.status ≠ .succeeded := by
        rcases startable checkpoint stored with pending | ⟨-, unfinished⟩
        · simp [pending]
        · exact unfinished
      have isLast : LastStored db identity checkpoint :=
        leveled.frontier.lastStored (sameStage ▸ stored) (.inl unfinished)
      by_cases pending : checkpoint.status = .pending
      · have same : base = db := by rw [cleared, stored, if_pos (by simp [pending])]
        apply Carries.of_eq leveled isLast
        simp [Database.runningCheckpoint, same, stored]
      · have missing : base.get identity stage = none := by
          rw [cleared, stored, if_neg (by simp [pending]), Database.get_deleteFrom,
            if_pos (Nat.le_refl _)]
        by_cases inherits : checkpoint.recipeRef ≠ none ∧ checkpoint.imageDigest ≠ none
        · apply Carries.of_eq leveled isLast
          simp [Database.runningCheckpoint, missing, inheritSource, inherits]
        · have least : checkpoint.gateRevisionCount ≤ db.precedingCount identity stage := by
            apply Nat.not_lt.1
            intro above
            exact inherits (keeps checkpoint stored pending unfinished above)
          have count : (base.runningCheckpoint identity stage
              (stageInputs env db identity stage (some checkpoint))
              (selectAttemptId stage (some checkpoint) (db.preceding identity stage) fresh)
              (inheritSource (some checkpoint) (db.preceding identity stage))
              now).gateRevisionCount = db.precedingCount identity stage := by
            simp [Database.runningCheckpoint, missing, inheritSource, inherits,
              Database.precedingCount]
          constructor
          · rw [isLast.inheritedCount, count]
            exact least
          · intro candidate current above
            have above' : pocCandidateDone.index < stage.index := above
            rw [count]
            exact leveled.precedingCount_eq current above'

/-- Every checkpoint a move settles carries the count on. -/
theorem Change.carries {before after : Snapshot} {events : List TraceEvent}
    (leveled : Leveled before.db identity)
    (change : Change env identity before.db events stored)
    (traced : Traced before after events)
    (keeps : KeepsCount env identity before after) : Carries before.db identity stored := by
  cases change with
  | restart change => exact change.carries leveled
  | edit current settled unpassed same =>
      have isLast := leveled.frontier.lastStored current unpassed
      exact .of_eq leveled isLast same.gateRevisionCount
  | complete standing current running =>
      have isLast := leveled.frontier.lastStored current (.inl (by simp [running]))
      exact .of_eq leveled isLast StageCheckpoint.completed_gateRevisionCount
  | replay standing current unsettled revivable copy =>
      have isLast := leveled.frontier.lastStored current (.inl unsettled.2)
      rcases copy with ⟨rfl, -⟩ | rfl <;> exact .of_eq leveled isLast rfl
  | @start stage fresh now base standing startable cleared =>
      apply start_carries leveled standing startable cleared
      intro checkpoint current settled unfinished above
      have unconfigured : env.recovery = none := by
        rcases startable checkpoint current with pending | ⟨unconfigured, -⟩
        · exact absurd pending settled
        · exact unconfigured
      apply (keeps unconfigured stage checkpoint current settled unfinished above).2
      rw [traced, current]
  | repair unconfigured current =>
      rcases lastStored_or_empty before.db identity with empty | ⟨last, isLast⟩
      · rw [empty] at current
        cases current
      · exact .of_eq leveled isLast (leveled.last_eq isLast current).symm

/-- Below a deleted stage the checkpoint before it becomes the last one. -/
theorem Shrinks.inheritedCount {stage : SimpleStage}
    (shrinks : Shrinks db after identity stage) :
    after.inheritedCount identity = db.precedingCount identity stage := by
  rcases lastStored_or_empty after identity with empty | ⟨last, isLast⟩
  · have nothing : db.prior identity stage = [] := by
      rw [Database.prior, List.filterMap_eq_nil_iff]
      intro other member
      have below := mem_stageOrder_take.1 member
      have missing := empty other
      rw [shrinks, if_neg (Nat.not_le.2 below)] at missing
      rw [missing]
      rfl
    rw [inheritedCount_of_empty empty, Database.precedingCount, Database.preceding, nothing]
    rfl
  · have current := isLast.current
    rw [shrinks] at current
    split at current
    · cases current
    · rename_i below
      have between : ∀ other : SimpleStage, last.stage.index < other.index →
          other.index < stage.index → db.get identity other = none := by
        intro other above lower
        have missing := isLast.noneAbove other above
        rwa [shrinks, if_neg (Nat.not_le.2 lower)] at missing
      rw [isLast.inheritedCount, Database.precedingCount,
        preceding_eq current (Nat.not_le.1 below) between]
      rfl

theorem Leveled.settle {before after : Snapshot} {events : List TraceEvent}
    (leveled : Leveled before.db identity)
    (change : Change env identity before.db events stored)
    (traced : Traced before after events)
    (settles : Settles before.db after.db identity stored)
    (keeps : KeepsCount env identity before after) (frontier : Frontier after.db identity)
    (tidy : Tidy after.db identity) :
    Leveled after.db identity
      ∧ before.db.inheritedCount identity ≤ after.db.inheritedCount identity := by
  have carries := change.carries leveled traced keeps
  constructor
  · refine ⟨frontier, tidy, ?_⟩
    intro stage checkpoint candidate found candidateFound above
    rw [settles] at found candidateFound
    by_cases isStored : stage = stored.stage
    · subst isStored
      rw [if_pos rfl] at found
      cases found
      have different : pocCandidateDone ≠ stored.stage := fun same =>
        Nat.lt_irrefl _ (same ▸ above)
      rw [if_neg different, if_neg (Nat.not_le.2 above)] at candidateFound
      exact carries.level candidate candidateFound above
    · rw [if_neg isStored] at found
      split at found
      · cases found
      · rename_i below
        have lower : pocCandidateDone.index < stored.stage.index :=
          Nat.lt_trans above (Nat.not_le.1 below)
        have different : pocCandidateDone ≠ stored.stage := fun same =>
          Nat.lt_irrefl _ (same ▸ lower)
        rw [if_neg different, if_neg (Nat.not_le.2 lower)] at candidateFound
        exact leveled.level stage checkpoint candidate found candidateFound above
  · rw [settles.lastStored.inheritedCount]
    exact carries.least

/-- The step lemma: a move that keeps the count does not lower what the next stage inherits. -/
theorem Leveled.move {before after : Snapshot} (leveled : Leveled before.db identity)
    (move : Move env identity before after) (keeps : KeepsCount env identity before after) :
    Leveled after.db identity
      ∧ before.db.inheritedCount identity ≤ after.db.inheritedCount identity := by
  have frontier := leveled.frontier.move move
  have tidy := leveled.tidy.move leveled.frontier move
  obtain ⟨events, traced, effect⟩ := move.effect
  cases effect with
  | unchanged same =>
      constructor
      · refine ⟨frontier, tidy, ?_⟩
        intro stage checkpoint candidate found candidateFound
        rw [same] at found candidateFound
        exact leveled.level stage checkpoint candidate found candidateFound
      · simp only [Database.inheritedCount, Database.latest, same]
        exact Nat.le_refl _
  | @shrinks stage standing dropped shrinks =>
      constructor
      · refine ⟨frontier, tidy, ?_⟩
        intro other checkpoint candidate found candidateFound
        rw [shrinks] at found candidateFound
        split at found
        · cases found
        · split at candidateFound
          · cases candidateFound
          · exact leveled.level other checkpoint candidate found candidateFound
      · rw [shrinks.inheritedCount]
        cases current : before.db.get identity stage with
        | none =>
            rcases lastStored_or_empty before.db identity with empty | ⟨last, isLast⟩
            · rw [inheritedCount_of_empty empty]
              exact Nat.zero_le _
            · rw [isLast.inheritedCount, Database.precedingCount,
                leveled.frontier.preceding standing current isLast]
              exact Nat.le_refl _
        | some checkpoint =>
            have sameStage := Database.stage_of_get current
            have version := (leveled.tidy _ _ current).version
            obtain ⟨unconfigured, settled, unfinished⟩ :=
              (dropped checkpoint current).resolve_left fun stale =>
                stale (by rw [version, sameStage])
            have isLast : LastStored before.db identity checkpoint :=
              leveled.frontier.lastStored (sameStage ▸ current) (.inl unfinished)
            rw [isLast.inheritedCount]
            apply Nat.not_lt.1
            intro above
            apply (keeps unconfigured stage checkpoint current settled unfinished above).1
            rw [shrinks, if_pos (Nat.le_refl _)]
  | settles change _ settles => exact leveled.settle change traced settles keeps frontier tidy
  | updates change current unpassed updates =>
      have settles := updates.settles fun other =>
        leveled.frontier.none_above current unpassed
      exact leveled.settle change traced settles keeps frontier tidy

/-! ## Revisions and decisions -/

/-- `prepare_gate_revision` committed on the stored Gate. -/
def Revises (identity : CheckpointIdentity) (before after : Snapshot) : Prop :=
  ∃ gate stored now, before.db.get identity techGateDone = some gate
    ∧ before.db.prepareGateRevision gate now = .ok (stored, after.db)

/-- The stored Gate asks for a revision. -/
def AsksRevision (db : Database) (identity : CheckpointIdentity) : Prop :=
  ∃ gate, db.get identity techGateDone = some gate ∧ gate.status = .succeeded
    ∧ gate.gateDecision = some .revise

/-- A running Gate completed with a request for a revision. -/
def Decides (identity : CheckpointIdentity) (before after : Snapshot) : Prop :=
  (∃ gate, before.db.get identity techGateDone = some gate ∧ gate.status = .running)
    ∧ AsksRevision after.db identity

/-- The run of a registered hypothesis, with the number of committed revisions and the number
of Gates that asked for one.  Each move belongs to a call with its own configuration. -/
inductive GateRun (identity : CheckpointIdentity) : Nat → Nat → Snapshot → Prop where
  | seeded {start : Snapshot} {seed : StageCheckpoint} (isFirst : seed.stage = proConDone)
      (pending : seed.status = .pending) (version : seed.stageVersion = proConDone.stageVersion)
      (only : OnlyStored start.db identity seed) : GateRun identity 0 0 start
  | moved {env : RunnerEnv} {revisions decisions : Nat} {before after : Snapshot}
      (run : GateRun identity revisions decisions before)
      (move : Move env identity before after) (keeps : KeepsCount env identity before after)
      (plain : ¬ Revises identity before after) (undecided : ¬ Decides identity before after) :
      GateRun identity revisions decisions after
  | revised {env : RunnerEnv} {revisions decisions : Nat} {before after : Snapshot}
      (run : GateRun identity revisions decisions before)
      (move : Move env identity before after) (keeps : KeepsCount env identity before after)
      (revises : Revises identity before after) :
      GateRun identity (revisions + 1) decisions after
  | decided {env : RunnerEnv} {revisions decisions : Nat} {before after : Snapshot}
      (run : GateRun identity revisions decisions before)
      (move : Move env identity before after) (keeps : KeepsCount env identity before after)
      (decides : Decides identity before after) :
      GateRun identity revisions (decisions + 1) after

/-- A revision is committed on a Gate with a count below the bound, and raises the count. -/
theorem Revises.count {before after : Snapshot} (leveled : Leveled before.db identity)
    (revises : Revises identity before after) :
    before.db.inheritedCount identity < 2
      ∧ after.db.inheritedCount identity = before.db.inheritedCount identity + 1
      ∧ ¬ AsksRevision after.db identity := by
  obtain ⟨gate, stored, now, current, committed⟩ := revises
  have sameStage := Database.stage_of_get current
  have owned := Database.identity_of_get current
  obtain ⟨asks, bounded, candidate, execution, -, -, -, -, shape, tables⟩ :=
    Database.prepareGateRevision_ok committed (owned.symm ▸ current)
  have stops : gate.Stops := .inr (.inr (.inr (.inr (.inr ⟨sameStage, asks⟩))))
  have isLast : LastStored before.db identity gate :=
    leveled.frontier.lastStored (sameStage ▸ current) (.inr stops)
  have storedIdentity : stored.identity = identity := by
    rw [shape]
    exact owned
  have storedStage : stored.stage = pocCandidateDone := by
    rw [shape]
    rfl
  have reseeds : Reseeded before.db stored after.db := by
    refine ⟨before.db.activity, ?_⟩
    rw [tables, storedIdentity, owned, storedStage]
    rfl
  have settles := reseeds.settles storedIdentity
  refine ⟨?_, ?_, ?_⟩
  · rw [isLast.inheritedCount]
    exact bounded
  · rw [settles.lastStored.inheritedCount, isLast.inheritedCount, shape]
    rfl
  · rintro ⟨later, found, -⟩
    rw [settles, storedStage, if_neg (by decide), if_pos (by decide)] at found
    cases found

section AtRevision

variable {before after : Snapshot} {gate : StageCheckpoint}

/-- Where the last Gate asks for a revision, every standing stage is stored and succeeded. -/
theorem AsksRevision.standing_stored (leveled : Leveled db identity)
    (current : db.get identity techGateDone = some gate) (stops : gate.Stops)
    {stage : SimpleStage} (standing : Standing db identity stage) :
    ∃ checkpoint, db.get identity stage = some checkpoint := by
  rcases Nat.lt_trichotomy stage.index techGateDone.index with below | same | above
  · have gateStanding := leveled.frontier.standing _ _ current
    obtain ⟨checkpoint, stored, -⟩ :=
      (gateStanding.walked stage standing.hypothesisStage below).resolve_left standing.kept
    exact ⟨checkpoint, stored⟩
  · rw [SimpleStage.index_inj] at same
    exact ⟨gate, same ▸ current⟩
  · obtain ⟨passed, stored, -, -, goesOn⟩ :=
      (standing.walked techGateDone (by decide) above).resolve_left
        (leveled.frontier.standing _ _ current).kept
    rw [current] at stored
    cases stored
    exact absurd stops goesOn

/-- The only move from a Gate that asks for a revision is the revision. -/
theorem Move.revises (leveled : Leveled before.db identity)
    (asks : AsksRevision before.db identity) (move : Move env identity before after) :
    Revises identity before after := by
  obtain ⟨gate, current, succeeded, decision⟩ := asks
  have sameStage := Database.stage_of_get current
  have stops : gate.Stops := .inr (.inr (.inr (.inr (.inr ⟨sameStage, decision⟩))))
  have isLast : LastStored before.db identity gate :=
    leveled.frontier.lastStored (sameStage ▸ current) (.inr stops)
  have all : ∀ {stage checkpoint}, before.db.get identity stage = some checkpoint →
      checkpoint.status = .succeeded := fun stored =>
    leveled.frontier.all_succeeded isLast.current succeeded isLast.noneAbove stored
  have notFailed : ∀ {checkpoint : StageCheckpoint},
      before.db.get identity checkpoint.stage = some checkpoint → ¬ checkpoint.Failed := by
    intro checkpoint stored isFailed
    exact isFailed.unsettled.2.2 (all stored)
  have standingStored : ∀ {stage}, Standing before.db identity stage →
      ∃ checkpoint, before.db.get identity stage = some checkpoint := fun standing =>
    AsksRevision.standing_stored leveled current stops standing
  cases move with
  | restart restarts =>
      cases restarts with
      | recover configured standing stored retryable bounded target committed =>
          exact absurd (Database.prepareRecovery_ok committed).1 (notFailed stored)
      | revise standing stored committed => exact ⟨_, _, _, stored, committed⟩
  | invalidate standing dropped =>
      obtain ⟨checkpoint, stored⟩ := standingStored standing
      have version := (leveled.tidy _ _ stored).version
      rw [Database.stage_of_get stored] at version
      rcases dropped checkpoint stored with stale | ⟨-, -, unfinished⟩
      · exact absurd version stale
      · exact absurd (all stored) unfinished
  | replay standing stored unsettled => exact absurd (all stored) unsettled.2
  | start standing ready =>
      obtain ⟨checkpoint, stored⟩ := standingStored standing
      rcases ready checkpoint stored with pending | ⟨-, unfinished⟩
      · rw [all stored] at pending
        cases pending
      · exact absurd (all stored) unfinished
  | invoke stored running =>
      rw [all stored] at running
      cases running
  | complete standing stored running =>
      rw [all stored] at running
      cases running
  | @fail checkpoint _ failure status now tables stored settles committed =>
      rcases settles with running | ⟨-, -, -, -, rests⟩
      · rw [all stored] at running
        cases running
      · have same := isLast.eq (leveled.frontier.lastStored stored (.inr rests.stops))
        rw [same] at rests
        rcases rests with initial | poc | stop
        · have isInitial := (stage_of_terminalInitialOutcome initial).1
          rw [sameStage] at isInitial
          cases isInitial
        · have isPoc := (stage_of_terminalPocOutcome poc).1
          rw [sameStage] at isPoc
          cases isPoc
        · rcases (leveled.tidy _ _ current).stopDecision (by simp [succeeded]) with isPoc | none
          · rw [sameStage] at isPoc
            cases isPoc
          · exact absurd none stop
  | exhaust stored isFailed => exact absurd isFailed (notFailed stored)
  | stop stored isFailed => exact absurd isFailed (notFailed stored)
  | decide stored isFailed => exact absurd isFailed (notFailed stored)
  | giveUp stored isFailed => exact absurd isFailed (notFailed stored)
  | promoteInitial owned committed =>
      obtain ⟨row, -, isBlocked, -⟩ :=
        Database.promoteInitialEnvironmentInconclusive_ok committed
      have stored := Database.get_eq_some.2 ⟨owned ▸ row, owned⟩
      rw [all stored] at isBlocked
      cases isBlocked
  | promotePoc owned committed =>
      obtain ⟨row, -, isBlocked, -⟩ := Database.promoteInconclusiveExecution_ok committed
      have stored := Database.get_eq_some.2 ⟨owned ▸ row, owned⟩
      rw [all stored] at isBlocked
      cases isBlocked
  | repair unconfigured stored candidateSucceeded incomplete committed =>
      have gateStanding := leveled.frontier.standing _ _ current
      obtain ⟨execution, executionStored, executed, -⟩ :=
        (gateStanding.walked pocExecutionDone (by decide) (by decide)).resolve_left
          fun skipped => absurd skipped.1 (by decide)
      exact absurd executed (incomplete execution executionStored)

end AtRevision

/-- A move that keeps the count extends a run, whatever it commits. -/
theorem GateRun.extend {before after : Snapshot} {revisions decisions : Nat}
    (run : GateRun identity revisions decisions before) (move : Move env identity before after)
    (keeps : KeepsCount env identity before after) :
    ∃ revisions decisions, GateRun identity revisions decisions after := by
  by_cases revises : Revises identity before after
  · exact ⟨_, _, .revised run move keeps revises⟩
  · by_cases decides : Decides identity before after
    · exact ⟨_, _, .decided run move keeps decides⟩
    · exact ⟨_, _, .moved run move keeps revises decides⟩

/-- With a recovery coordinator every call extends a run. -/
theorem GateRun.resumed {world : World} {revisions decisions : Nat} (passes : Nat)
    (configured : env.recovery ≠ none)
    (run : GateRun identity revisions decisions world.toSnapshot) :
    ∃ revisions decisions, GateRun identity revisions decisions
      (resumeHypothesis env passes identity world).2.toSnapshot := by
  have moves : Moves env identity world.toSnapshot
      (resumeHypothesis env passes identity world).2.toSnapshot :=
    resumeHypothesis_moves env passes world
  generalize (resumeHypothesis env passes identity world).2.toSnapshot = after at moves ⊢
  induction moves with
  | refl => exact ⟨_, _, run⟩
  | tail _ move ih =>
      obtain ⟨_, _, extended⟩ := ih
      exact extended.extend move fun none => absurd none configured

/-! ## The bound -/

/-- What holds along a run: the committed revisions raised the count, and every Gate that asked
for a revision got one, but for the last. -/
structure GateBound (identity : CheckpointIdentity) (revisions decisions : Nat)
    (snapshot : Snapshot) : Prop where
  leveled : Leveled snapshot.db identity
  counted : revisions ≤ snapshot.db.inheritedCount identity
  bounded : revisions ≤ 2
  answered : decisions ≤ revisions
    ∨ decisions ≤ revisions + 1 ∧ AsksRevision snapshot.db identity

/-- The run lemma. -/
theorem GateRun.bound {revisions decisions : Nat} {snapshot : Snapshot}
    (run : GateRun identity revisions decisions snapshot) :
    GateBound identity revisions decisions snapshot := by
  induction run with
  | @seeded start seed isFirst pending version only =>
      have rows : ∀ stage checkpoint, start.db.get identity stage = some checkpoint →
          stage = proConDone ∧ checkpoint = seed := by
        intro stage checkpoint stored
        rw [only] at stored
        split at stored
        · cases stored
          exact ⟨‹stage = seed.stage›.trans isFirst, rfl⟩
        · cases stored
      constructor
      · refine ⟨.seeded isFirst pending only, ?_, ?_⟩
        · intro stage checkpoint stored
          obtain ⟨-, rfl⟩ := rows stage checkpoint stored
          exact ⟨by rw [version, isFirst], fun settled => absurd pending settled⟩
        · intro stage checkpoint candidate stored candidateStored
          have isProCon := (rows _ _ candidateStored).1
          cases isProCon
      · exact Nat.zero_le _
      · exact Nat.zero_le _
      · exact .inl (Nat.le_refl _)
  | @moved env revisions decisions before after _ move keeps plain undecided ih =>
      obtain ⟨leveled, grows⟩ := ih.leveled.move move keeps
      refine ⟨leveled, Nat.le_trans ih.counted grows, ih.bounded, ?_⟩
      rcases ih.answered with answered | ⟨-, asks⟩
      · exact .inl answered
      · exact absurd (move.revises ih.leveled asks) plain
  | @revised env revisions decisions before after _ move keeps revises ih =>
      obtain ⟨leveled, -⟩ := ih.leveled.move move keeps
      obtain ⟨below, raised, -⟩ := revises.count ih.leveled
      have counted := ih.counted
      refine ⟨leveled, by omega, by omega, .inl ?_⟩
      rcases ih.answered with answered | ⟨answered, -⟩ <;> omega
  | @decided env revisions decisions before after _ move keeps decides ih =>
      obtain ⟨leveled, grows⟩ := ih.leveled.move move keeps
      refine ⟨leveled, Nat.le_trans ih.counted grows, ih.bounded, .inr ⟨?_, decides.2⟩⟩
      rcases ih.answered with answered | ⟨-, gate, current, succeeded, -⟩
      · exact Nat.succ_le_succ answered
      · obtain ⟨running, runningStored, isRunning⟩ := decides.1
        rw [current] at runningStored
        cases runningStored
        rw [succeeded] at isRunning
        cases isRunning

end Sastsimi.Runtime

namespace Sastsimi.Runtime.Concrete

open SimpleStage Lib

end Sastsimi.Runtime.Concrete
