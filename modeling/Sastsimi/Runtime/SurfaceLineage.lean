import Sastsimi.Lib.Dedup
import Sastsimi.Runtime.SurfaceProgress

/-!
# Recovery lineage over the activity log

What the verifier of evolved inputs matched stays matched as the append-only log grows, and one
more recovery of a logged attempt matches one more decision.
-/

namespace Sastsimi.Runtime

open SimpleStage Lib

variable [Platform]

/-! ## Matching on a growing log -/

section Matching

omit [Platform]

variable {events more : List AgentActivityEvent} {start : Nat} {decisionRef : StoredDataRef}

/-- A decision is matched by the events before it. -/
theorem findDecision_append {found : DecidedFailure}
    (matched : findDecision events start decisionRef = some found) :
    findDecision (events ++ more) start decisionRef = some found := by
  have same : ∀ decision ∈ events.zipIdx,
      (events ++ more).take decision.2 = events.take decision.2 := by
    intro decision member
    have below := (List.mem_zipIdx' member).1
    exact List.take_append_of_le_length (Nat.le_of_lt below)
  rw [findDecision, List.zipIdx_append, List.findSome?_append]
  rw [findDecision, List.findSome?_eq_some_iff] at matched
  obtain ⟨earlier, decision, later, split, here, before⟩ := matched
  have now : events.zipIdx.findSome? (fun decision =>
      if start ≤ decision.2 ∧ decision.1.decides decisionRef then
        (lastFailure ((events ++ more).take decision.2) decision.1).map fun failure =>
          (⟨decision.2, failure.2, failure.1⟩ : DecidedFailure)
      else none) = some found := by
    rw [List.findSome?_eq_some_iff]
    refine ⟨earlier, decision, later, split, ?_, ?_⟩
    · rw [same decision (by simp [split])]
      exact here
    · intro other member
      rw [same other (by simp [split, member])]
      exact before other member
  rw [now]
  rfl

/-- A matched decision is an event of the log. -/
theorem findDecision_lt {found : DecidedFailure}
    (matched : findDecision events start decisionRef = some found) :
    found.decisionIndex < events.length := by
  obtain ⟨decision, member, here⟩ := List.exists_of_findSome?_eq_some matched
  split at here
  · obtain ⟨failure, -, rfl⟩ := Option.map_eq_some_iff.1 here
    exact (List.mem_zipIdx' member).1
  · cases here

/-- The last failure of a part without later failures. -/
theorem lastFailure_eq {earlier later : List AgentActivityEvent}
    {failure decision : AgentActivityEvent} (fits : failure.failedFor decision = true)
    (last : ∀ event ∈ later, event.isFailure = false) :
    lastFailure (earlier ++ failure :: later) decision = some (failure, earlier.length) := by
  have none : ∀ entry ∈ (later.zipIdx (earlier.length + 1)).reverse,
      ¬ entry.1.failedFor decision = true := by
    intro entry member
    have inside : entry.1 ∈ later := by
      obtain ⟨-, -, same⟩ := List.mem_zipIdx (List.mem_reverse.1 member)
      rw [same]
      exact List.getElem_mem _
    simp [AgentActivityEvent.failedFor, last entry.1 inside]
  rw [lastFailure, List.zipIdx_append, List.zipIdx_cons, List.reverse_append,
    List.reverse_cons, List.append_assoc, List.find?_append, Nat.zero_add,
    List.find?_eq_none.2 none]
  simp [fits]

/-- A decision no earlier event records is matched where it is recorded. -/
theorem findDecision_eq {earlier later : List AgentActivityEvent}
    {decision failure : AgentActivityEvent} {failureIndex : Nat}
    (reached : start ≤ earlier.length) (decides : decision.decides decisionRef = true)
    (unknown : ∀ event ∈ earlier, event.decides decisionRef = false)
    (failed : lastFailure earlier decision = some (failure, failureIndex)) :
    findDecision (earlier ++ decision :: later) start decisionRef =
      some ⟨earlier.length, failureIndex, failure⟩ := by
  rw [findDecision, List.zipIdx_append, List.findSome?_append]
  have nothing : earlier.zipIdx.findSome? (fun event =>
      if start ≤ event.2 ∧ event.1.decides decisionRef then
        (lastFailure ((earlier ++ decision :: later).take event.2) event.1).map fun failure =>
          (⟨event.2, failure.2, failure.1⟩ : DecidedFailure)
      else none) = none := by
    rw [List.findSome?_eq_none_iff]
    intro event member
    have inside : event.1 ∈ earlier := by
      obtain ⟨-, -, same⟩ := List.mem_zipIdx member
      rw [same]
      exact List.getElem_mem _
    rw [if_neg (by simp [unknown event.1 inside])]
  rw [nothing, Option.none_or, List.zipIdx_cons, List.findSome?_cons]
  simp only [Nat.zero_add]
  rw [if_pos ⟨reached, decides⟩, List.take_left', failed]
  · rfl
  · rfl

theorem findDecision_failure_lt {found : DecidedFailure}
    (matched : findDecision events start decisionRef = some found) :
    found.failureIndex < events.length := by
  obtain ⟨decision, member, here⟩ := List.exists_of_findSome?_eq_some matched
  split at here
  · obtain ⟨failure, failed, rfl⟩ := Option.map_eq_some_iff.1 here
    have inside := List.mem_reverse.1 (List.mem_of_find?_eq_some failed)
    have below := (List.mem_zipIdx' inside).1
    rw [List.length_take] at below
    exact Nat.lt_of_lt_of_le below (Nat.min_le_right _ _)
  · cases here

end Matching

section Lineage

variable {events more : List AgentActivityEvent} {identity : CheckpointIdentity}
  {matched after : MatchedLineage} {decisionRef : StoredDataRef}
  {decisionRefs : List StoredDataRef} {seed child : StageCheckpoint}

/-- What matching one more decision reference found. -/
theorem matchDecision_some
    (found : matchDecision events identity matched decisionRef = some after) :
    ∃ decided stage, findDecision events matched.start decisionRef = some decided
      ∧ SimpleStage.ofValue decided.failure.stage = some stage
      ∧ after.start = decided.decisionIndex + 1
      ∧ after.last = some (decided.failureIndex, decided.failure)
      ∧ after.lineages = matched.lineages ++
        [Platform.sha256 (.recoveryLineage identity stage.value stage.stageVersion
          (inputReferenceHash decided.failure.inputRefs) decided.failure.errorCode)] := by
  rw [matchDecision, Option.bind_eq_bind, Option.bind_eq_some_iff] at found
  obtain ⟨decided, isDecided, rest⟩ := found
  rw [Option.bind_eq_bind, Option.bind_eq_some_iff] at rest
  obtain ⟨stage, isStage, rest⟩ := rest
  cases rest
  exact ⟨decided, stage, isDecided, isStage, rfl, rfl, rfl⟩

theorem matchDecision_append
    (found : matchDecision events identity matched decisionRef = some after) :
    matchDecision (events ++ more) identity matched decisionRef = some after := by
  rw [matchDecision, Option.bind_eq_bind, Option.bind_eq_some_iff] at found ⊢
  obtain ⟨decided, isDecided, rest⟩ := found
  exact ⟨decided, findDecision_append isDecided, rest⟩

/-- Where the matched decisions end, and the last failure, lie within the log. -/
def MatchedLineage.Within (matched : MatchedLineage) (events : List AgentActivityEvent) :
    Prop :=
  matched.start ≤ events.length
    ∧ ∀ last, matched.last = some last → last.1 < events.length

theorem matchDecision_within
    (found : matchDecision events identity matched decisionRef = some after) :
    after.Within events := by
  obtain ⟨decided, stage, isDecided, -, starts, last, -⟩ := matchDecision_some found
  constructor
  · rw [starts]
    exact findDecision_lt isDecided
  · intro failure isLast
    rw [last] at isLast
    cases isLast
    exact findDecision_failure_lt isDecided

theorem foldlM_matchDecision_append
    (found : decisionRefs.foldlM (matchDecision events identity) matched = some after) :
    decisionRefs.foldlM (matchDecision (events ++ more) identity) matched = some after := by
  induction decisionRefs generalizing matched with
  | nil => exact found
  | cons ref rest ih =>
      rw [List.foldlM_cons, Option.bind_eq_bind, Option.bind_eq_some_iff] at found ⊢
      obtain ⟨next, here, later⟩ := found
      exact ⟨next, matchDecision_append here, ih later⟩

/-- Matched decisions stay matched as the log grows. -/
theorem matchDecisions_append
    (found : matchDecisions events identity decisionRefs = some matched) :
    matchDecisions (events ++ more) identity decisionRefs = some matched :=
  foldlM_matchDecision_append found

theorem matchDecisions_concat :
    matchDecisions events identity (decisionRefs ++ [decisionRef]) =
      (matchDecisions events identity decisionRefs).bind fun matched =>
        matchDecision events identity matched decisionRef := by
  rw [matchDecisions, List.foldlM_append]
  simp [matchDecisions, List.foldlM_cons, List.foldlM_nil]

theorem matchDecisions_within
    (found : matchDecisions events identity decisionRefs = some matched) :
    matched.Within events := by
  induction decisionRefs using List.reverseRecOn with
  | nil =>
      cases found
      exact ⟨Nat.zero_le _, by simp⟩
  | append_singleton refs ref ih =>
      rw [matchDecisions_concat, Option.bind_eq_some_iff] at found
      obtain ⟨before, -, here⟩ := found
      exact matchDecision_within here

theorem originalInputs_append {failureIndex : Nat}
    (within : failureIndex < events.length) :
    originalInputs (events ++ more) seed failureIndex =
      originalInputs events seed failureIndex := by
  rw [originalInputs, originalInputs, List.take_append_of_le_length within]

/-- Bound inputs stay bound as the log grows. -/
theorem evolvedInputsBound_append (bound : evolvedInputsBound events seed child = true) :
    evolvedInputsBound (events ++ more) seed child = true := by
  rw [evolvedInputsBound] at bound ⊢
  cases found : matchDecisions events child.identity child.recoveryDecisionRefs with
  | none => simp [found] at bound
  | some matched =>
      rw [found] at bound
      rw [matchDecisions_append found]
      cases lineage : child.recoveryLineageId with
      | none => simp [lineage] at bound
      | some text =>
          cases last : matched.last with
          | none => simp [lineage, last] at bound
          | some failure =>
              have within := (matchDecisions_within found).2 failure last
              simp only [lineage, last] at bound ⊢
              rw [originalInputs_append within]
              exact bound

/-! ## Evolved inputs -/

/-- The inputs of a child are those of its seed, or evolved from them by logged recoveries. -/
structure Evolved (events : List AgentActivityEvent) (seed child : StageCheckpoint) : Prop where
  distinct : child.inputRefs.Nodup
  grows : seed.inputRefs <+: child.inputRefs
  included : child.recoveryDecisionRefs ⊆ child.inputRefs
  decidedOnce : child.recoveryDecisionRefs.Nodup
  original : child.recoveryDecisionRefs = [] →
    child.inputRefs = seed.inputRefs ∧ child.recoveryLineageId = none
  traced : child.recoveryDecisionRefs ≠ [] →
    textOr child.recoveryLineageId none ≠ none ∧ evolvedInputsBound events seed child = true

/-- The inputs and the recovery lineage of a checkpoint are kept. -/
structure SameLineage (child next : StageCheckpoint) : Prop where
  identity : next.identity = child.identity
  inputRefs : next.inputRefs = child.inputRefs
  recoveryLineageId : next.recoveryLineageId = child.recoveryLineageId
  recoveryDecisionRefs : next.recoveryDecisionRefs = child.recoveryDecisionRefs

theorem Evolved.congr {next : StageCheckpoint} (evolved : Evolved events seed child)
    (same : SameLineage child next) : Evolved events seed next := by
  constructor
  · rw [same.inputRefs]
    exact evolved.distinct
  · rw [same.inputRefs]
    exact evolved.grows
  · rw [same.inputRefs, same.recoveryDecisionRefs]
    exact evolved.included
  · rw [same.recoveryDecisionRefs]
    exact evolved.decidedOnce
  · rw [same.inputRefs, same.recoveryDecisionRefs, same.recoveryLineageId]
    exact evolved.original
  · rw [same.recoveryDecisionRefs, same.recoveryLineageId, evolvedInputsBound, same.identity,
      same.inputRefs, same.recoveryDecisionRefs, same.recoveryLineageId]
    exact evolved.traced

theorem Evolved.append (evolved : Evolved events seed child) :
    Evolved (events ++ more) seed child where
  distinct := evolved.distinct
  grows := evolved.grows
  included := evolved.included
  decidedOnce := evolved.decidedOnce
  original := evolved.original
  traced := fun decided =>
    ⟨(evolved.traced decided).1, evolvedInputsBound_append (evolved.traced decided).2⟩

/-- The verifier accepts evolved inputs over a log of the child's own events. -/
theorem Evolved.bound (evolved : Evolved events seed child)
    (owned : ∀ event ∈ events, event.ownedBy child.identity = true) :
    surfaceV4ChildInputsBound events seed child = true := by
  rw [surfaceV4ChildInputsBound]
  by_cases undecided : child.recoveryDecisionRefs = []
  · rw [if_pos ⟨(evolved.original undecided).1, undecided⟩]
  · have extended : child.inputRefs.take seed.inputRefs.length = seed.inputRefs :=
      (List.prefix_iff_eq_take.1 evolved.grows).symm
    have noForeign : ¬ (events.any fun event => !event.ownedBy child.identity) = true := by
      simp only [List.any_eq_true, Bool.not_eq_true', not_exists, not_and]
      intro event member foreign
      rw [owned event member] at foreign
      cases foreign
    obtain ⟨hasLineage, traced⟩ := evolved.traced undecided
    rw [if_neg fun plain => undecided plain.2, if_neg, if_neg noForeign]
    · exact traced
    · simp [undecided, hasLineage, evolved.decidedOnce, extended]

end Lineage

/-! ## Logged attempts -/

/-- An event that neither starts nor ends an attempt nor records a decision. -/
def AgentActivityEvent.isQuiet (event : AgentActivityEvent) : Bool :=
  !event.isFailure && decide (event.kind ≠ .stageStarted)
    && decide (event.kind ≠ .decisionRecorded)

/-- The attempt of a running first stage, in the log after the events before it. -/
structure Begun (before events : List AgentActivityEvent) (child : StageCheckpoint)
    (started : AgentActivityEvent) (during : List AgentActivityEvent) : Prop where
  log : events = before ++ started :: during
  fresh : ∀ event ∈ before, event.attemptId ≠ child.activityAttempt
  stage : started.stage = proConDone.value
  kind : started.kind = .stageStarted
  inputRefs : started.inputRefs = child.inputRefs
  quiet : ∀ event ∈ during, event.isQuiet = true

/-- A failure event of a failed first stage. -/
structure FailureOf (event : AgentActivityEvent) (failed : StageCheckpoint) : Prop where
  kind : event.isFailure = true
  attemptId : event.attemptId = failed.activityAttempt
  stage : event.stage = proConDone.value
  inputRefs : event.inputRefs = failed.inputRefs
  errorCode : event.errorCode = failed.errorCode
  outputRefs : event.outputRefs = failed.outputRefs

/-- A decision event about a failed first stage. -/
structure DecisionOf (event : AgentActivityEvent) (failed : StageCheckpoint) : Prop where
  kind : event.kind = .decisionRecorded
  status : event.status = StageStatus.blocked.value
  attemptId : event.attemptId = failed.activityAttempt
  stage : event.stage = proConDone.value
  inputRefs : event.inputRefs = failed.inputRefs
  errorCode : event.errorCode = failed.errorCode

/-- The failed attempt of a first stage: its start, its failure and what was decided since. -/
structure Broken (before events : List AgentActivityEvent) (failed : StageCheckpoint)
    (started : AgentActivityEvent) (during : List AgentActivityEvent)
    (failure : AgentActivityEvent) (since : List AgentActivityEvent) : Prop where
  begun : Begun before (before ++ started :: during) failed started during
  log : events = before ++ started :: during ++ failure :: since
  failure : FailureOf failure failed
  decisions : ∀ event ∈ since, event.isQuiet = true ∨ DecisionOf event failed

section Attempts

variable {before events during since : List AgentActivityEvent} {seed failed : StageCheckpoint}
  {started failure : AgentActivityEvent} {resolution : RecoveryResolution}

omit [Platform] in
theorem quiet_facts {event : AgentActivityEvent} (quiet : event.isQuiet = true) :
    event.isFailure = false ∧ event.kind ≠ .stageStarted ∧ event.kind ≠ .decisionRecorded := by
  simpa [AgentActivityEvent.isQuiet, and_assoc] using quiet

omit [Platform] in
theorem not_decides_of_kind {event : AgentActivityEvent} {decisionRef : StoredDataRef}
    (other : event.kind ≠ .decisionRecorded) : event.decides decisionRef = false := by
  simp [AgentActivityEvent.decides, other]

omit [Platform] in
theorem kind_ne_of_isFailure {event : AgentActivityEvent} (failure : event.isFailure = true) :
    event.kind ≠ .stageStarted ∧ event.kind ≠ .decisionRecorded := by
  rw [AgentActivityEvent.isFailure, Bool.or_eq_true, decide_eq_true_eq, decide_eq_true_eq]
    at failure
  rcases failure with blocked | failed
  · simp [blocked]
  · simp [failed]

/-- The failure is the last one of the attempt. -/
theorem Broken.since_not_failure
    (broken : Broken before events failed started during failure since)
    {event : AgentActivityEvent} (member : event ∈ since) : event.isFailure = false := by
  rcases broken.decisions event member with quiet | decision
  · exact (quiet_facts quiet).1
  · simp [AgentActivityEvent.isFailure, decision.kind]

/-- The last start before the failure is that of the attempt. -/
theorem Broken.originalInputs_eq
    (broken : Broken before events failed started during failure since) :
    originalInputs events seed (before ++ started :: during).length = failed.inputRefs := by
  have upTo : events.take ((before ++ started :: during).length + 1) =
      before ++ started :: during ++ [failure] := by
    rw [broken.log, List.append_cons (before ++ started :: during) failure since]
    exact List.take_left' (by rw [List.length_append, List.length_singleton])
  have notFailure : ¬ failure.startsProCon = true := by
    simp [AgentActivityEvent.startsProCon, (kind_ne_of_isFailure broken.failure.kind).1]
  have notDuring : ∀ event ∈ during.reverse, ¬ event.startsProCon = true := by
    intro event member
    have quiet := quiet_facts (broken.begun.quiet event (List.mem_reverse.1 member))
    simp [AgentActivityEvent.startsProCon, quiet.2.1]
  have here : (before ++ started :: during ++ [failure]).reverse.find? (·.startsProCon) =
      some started := by
    have isStart : started.startsProCon = true := by
      simp [AgentActivityEvent.startsProCon, broken.begun.stage, broken.begun.kind]
    simp [List.find?_append, List.find?_eq_none.2 notDuring, notFailure, isStart]
  rw [originalInputs, upTo, here]
  exact broken.begun.inputRefs

/-- The decision about a failed attempt is matched with the failure of the attempt. -/
theorem Broken.matchDecision {matched : MatchedLineage} {decisionRef : StoredDataRef}
    (broken : Broken before events failed started during failure since)
    (within : matched.start ≤ before.length)
    (own : ∀ event ∈ events, event.decides decisionRef = true →
      event.attemptId = failed.activityAttempt)
    (recorded : ∃ event ∈ events, event.decides decisionRef = true) :
    ∃ after, Runtime.matchDecision events failed.identity matched decisionRef = some after
      ∧ after.last = some ((before ++ started :: during).length, failure)
      ∧ after.lineages = matched.lineages ++
        [Platform.sha256 (.recoveryLineage failed.identity proConDone.value
          proConDone.stageVersion (inputReferenceHash failed.inputRefs) failed.errorCode)] := by
  have unknownBefore : ∀ event ∈ before ++ started :: during ++ [failure],
      event.decides decisionRef = false := by
    intro event member
    rw [List.mem_append, List.mem_append, List.mem_cons, List.mem_singleton] at member
    rcases member with (earlier | rfl | inside) | rfl
    · rw [Bool.eq_false_iff]
      intro decides
      apply broken.begun.fresh event earlier
      exact own event (by simp [broken.log, earlier]) decides
    · exact not_decides_of_kind (by simp [broken.begun.kind])
    · exact not_decides_of_kind (quiet_facts (broken.begun.quiet event inside)).2.2
    · exact not_decides_of_kind (kind_ne_of_isFailure broken.failure.kind).2
  have inSince : ∃ event ∈ since, event.decides decisionRef = true := by
    obtain ⟨event, member, decides⟩ := recorded
    rw [broken.log, List.append_cons, List.mem_append] at member
    rcases member with earlier | later
    · rw [unknownBefore event earlier] at decides
      cases decides
    · exact ⟨event, later, decides⟩
  obtain ⟨decision, found⟩ : ∃ decision, since.find? (·.decides decisionRef) = some decision := by
    rw [← Option.isSome_iff_exists, List.find?_isSome]
    exact inSince
  obtain ⟨decides, earlier, later, split, unknown⟩ := List.find?_eq_some_iff_append.1 found
  have isDecision : DecisionOf decision failed := by
    have member : decision ∈ since := List.mem_of_find?_eq_some found
    rcases broken.decisions decision member with quiet | isDecision
    · rw [not_decides_of_kind (quiet_facts quiet).2.2] at decides
      cases decides
    · exact isDecision
  have log : events =
      (before ++ started :: during ++ failure :: earlier) ++ decision :: later := by
    rw [broken.log, split]
    simp
  have unknownEarlier : ∀ event ∈ before ++ started :: during ++ failure :: earlier,
      event.decides decisionRef = false := by
    intro event member
    rw [List.append_cons, List.mem_append] at member
    rcases member with first | last
    · exact unknownBefore event first
    · simpa using unknown event last
  have fits : failure.failedFor decision = true := by
    simp [AgentActivityEvent.failedFor, broken.failure.kind, broken.failure.attemptId,
      broken.failure.stage, broken.failure.inputRefs, broken.failure.errorCode,
      isDecision.attemptId, isDecision.stage, isDecision.inputRefs, isDecision.errorCode]
  have lastOne : lastFailure (before ++ started :: during ++ failure :: earlier) decision =
      some (failure, (before ++ started :: during).length) := by
    apply lastFailure_eq fits
    intro event member
    exact broken.since_not_failure (by simp [split, member])
  have reached : matched.start ≤ (before ++ started :: during ++ failure :: earlier).length := by
    simp only [List.length_append]
    omega
  have decided := @findDecision_eq _ _ _ later _ _ _ reached decides unknownEarlier lastOne
  have isStage : SimpleStage.ofValue failure.stage = some proConDone := by
    rw [broken.failure.stage]
    decide
  let after : MatchedLineage :=
    { start := (before ++ started :: during ++ failure :: earlier).length + 1
      lineages := matched.lineages ++
        [Platform.sha256 (.recoveryLineage failed.identity proConDone.value
          proConDone.stageVersion (inputReferenceHash failed.inputRefs) failed.errorCode)]
      last := some ((before ++ started :: during).length, failure) }
  refine ⟨after, ?_, rfl, rfl⟩
  rw [Runtime.matchDecision, log, decided]
  simp only [Option.bind_eq_bind, Option.bind_some, isStage, broken.failure.inputRefs,
    broken.failure.errorCode]
  rfl

end Attempts

end Sastsimi.Runtime
