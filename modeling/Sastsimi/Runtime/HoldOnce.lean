import Sastsimi.Runtime.HoldReplay

/-!
# One replay for each child

Calls of `prepare_surface_hold_replay` by any processes, in any order, with crashes and other
transactions between them.  Once a replay of a child is committed its marker stays, and no call
commits another one.
-/

namespace Sastsimi.Runtime

open SimpleStage Lib

variable [Platform] [HoldDigests]

/-! ## Steps -/

/-- A call of a process: its files, its arguments, the tables when it read the run, and what the
clock and `uuid4` answer in it. -/
structure HoldCall where
  files : HoldFiles
  request : HoldRequest
  read : HoldStore
  now : Nat
  mark : String

/-- A step of a run: a call, a process that dies outside a transaction, or a transaction of
another operation, none of which writes the markers. -/
inductive HoldStep where
  | prepare (call : HoldCall)
  | crash
  | other (change : HoldStore → HoldStore)
      (keeps : ∀ store, (change store).markers = store.markers)

namespace HoldStore

/-- Perform a call. -/
def call (store : HoldStore) (call : HoldCall) :
    HoldStore × Except PyError (Option StageCheckpoint) :=
  (prepareSurfaceHoldReplay call.files call.request call.read call.now call.mark store).swap

/-- Perform a step. -/
def perform (store : HoldStore) : HoldStep → HoldStore × Except PyError (Option StageCheckpoint)
  | .prepare call => store.call call
  | .crash => (store, .ok none)
  | .other change _ => (change store, .ok none)

end HoldStore

/-- A call that commits a replay of a child. -/
def commitsReplay (child : HoldChild) (step : HoldStep)
    (answer : Except PyError (Option StageCheckpoint)) : Bool :=
  match step, answer with
  | .prepare call, .ok _ =>
      call.request.decision.action ≠ .keepHold && call.request.holdChild = child
  | _, _ => false

/-- Replays are one-shot from a state on. -/
structure HoldStore.OneShot (store : HoldStore) : Prop where
  /-- At most one call of every run commits a replay of a child. -/
  once : ∀ steps child, countAnswers HoldStore.perform (commitsReplay child) store steps ≤ 1
  /-- A committed call that is repeated in any later state changes nothing. -/
  repeated : ∀ call answer steps again, (store.call call).2 = .ok answer →
    again.request = call.request →
      ((runCalls HoldStore.perform (store.call call).1 steps).call again).1
        = runCalls HoldStore.perform (store.call call).1 steps
  /-- A call that raises changes nothing. -/
  raised : ∀ call reason, (store.call call).2 = .error reason → (store.call call).1 = store

/-! ## Markers -/

namespace HoldMarkers

variable {markers after : HoldMarkers} {marker : HoldMarker} {child : HoldChild}

omit [Platform] [HoldDigests] in
/-- An inserted marker is the last row. -/
theorem insertOrIgnore_some (inserted : markers.insertOrIgnore marker = some after) :
    after.rows = markers.rows ++ [marker] := by
  rw [insertOrIgnore] at inserted
  split at inserted
  · cases inserted
  · cases inserted
    rfl

omit [Platform] [HoldDigests] in
/-- A review is only ignored when its marker is there. -/
theorem insertOrIgnore_none (ignored : markers.insertOrIgnore marker = none)
    (kept : marker.isReplay = false) : marker.key ∈ markers.rows.map HoldMarker.key := by
  rw [insertOrIgnore] at ignored
  split at ignored
  · rename_i conflict
    rcases conflict with found | ⟨replay, -⟩
    · exact found
    · rw [kept] at replay
      cases replay
  · cases ignored

omit [Platform] [HoldDigests] in
/-- A marker whose key is there is ignored. -/
theorem insertOrIgnore_present (present : marker.key ∈ markers.rows.map HoldMarker.key) :
    markers.insertOrIgnore marker = none := by
  rw [insertOrIgnore, dif_pos (.inl present)]

omit [Platform] [HoldDigests] in
/-- A replay that is found stays found when rows are added. -/
theorem replayOf_append {more : List HoldMarker} {found : HoldMarker}
    (rows : after.rows = markers.rows ++ more) (stored : markers.replayOf child = some found) :
    after.replayOf child = some found := by
  rw [replayOf] at stored ⊢
  rw [rows, List.find?_append, stored, Option.some_or]

omit [Platform] [HoldDigests] in
/-- A replay that is added is found. -/
theorem replayOf_added (rows : after.rows = markers.rows ++ [marker])
    (replay : marker.isReplay = true) : after.replayOf marker.child ≠ none := by
  rw [replayOf, rows, Ne, List.find?_eq_none]
  intro absent
  exact absent marker (by simp) (by simp [replay])

end HoldMarkers

/-! ## What a call does -/

variable {store after : HoldStore} {request : HoldRequest} {files : HoldFiles}

/-- A recorded decision inserted its marker, or it is a review whose marker was there. -/
theorem recordDecision_returned {prepared : PreparedReplay} {now : Nat} {mark : String}
    {answer : Unit}
    (returned : recordDecision request prepared now mark store = (.ok answer, after)) :
    store.markers.insertOrIgnore (request.marker prepared now) = none
        ∧ request.decision.action = .keepHold ∧ after = store
      ∨ ∃ markers, store.markers.insertOrIgnore (request.marker prepared now) = some markers
        ∧ after.markers = markers := by
  rw [recordDecision] at returned
  obtain ⟨looked, between, same, returned⟩ := Prog.bind_returned returned
  cases same
  cases inserted : store.markers.insertOrIgnore (request.marker prepared now) with
  | none =>
      rw [inserted] at returned
      obtain ⟨checked, same⟩ := Prog.ofExcept_returned.1 returned
      exact .inl ⟨rfl, not_not.1 (raiseIf_ok.1 checked), same.symm⟩
  | some markers =>
      rw [inserted] at returned
      obtain ⟨event, between, built, returned⟩ := Prog.bind_returned returned
      obtain ⟨_, rfl⟩ := Prog.ofExcept_returned.1 built
      obtain ⟨activity, between, added, returned⟩ := Prog.bind_returned returned
      obtain ⟨_, rfl⟩ := Prog.ofExcept_returned.1 added
      cases returned
      exact .inr ⟨markers, rfl, rfl⟩

omit [HoldDigests] in
theorem HoldStore.clearRunTerminal_markers {analysisId : String} {run : HoldRun} :
    (store.clearRunTerminal analysisId run).markers = store.markers := by
  rw [HoldStore.clearRunTerminal]
  split <;> rfl

omit [HoldDigests] in
theorem HoldStore.reopen_markers {case : HoldCase} {target pending : StageCheckpoint} :
    (store.reopen request case target pending).markers = store.markers := by
  unfold HoldStore.reopen
  exact HoldStore.clearRunTerminal_markers

omit [HoldDigests] in
/-- Reopening keeps the markers, and a review reopens nothing. -/
theorem reopenTarget_returned {case : HoldCase} {prepared : PreparedReplay} {now : Nat}
    {pending : Option StageCheckpoint}
    (returned : reopenTarget request case prepared now store = (.ok pending, after)) :
    after.markers = store.markers ∧ (request.decision.action = .keepHold → after = store) := by
  rw [reopenTarget] at returned
  split at returned
  · cases returned
    exact ⟨rfl, fun _ => rfl⟩
  · rename_i replay
    obtain ⟨_, between, changed, returned⟩ := Prog.bind_returned returned
    cases changed
    cases returned
    exact ⟨HoldStore.reopen_markers, fun kept => absurd kept replay⟩

/-- A call that returns passed its checks; then it found its review recorded and changed nothing,
or it inserted its marker. -/
theorem prepareSurfaceHoldReplay_returned {read : HoldStore} {now : Nat} {mark : String}
    {pending : Option StageCheckpoint}
    (returned : prepareSurfaceHoldReplay files request read now mark store
      = (.ok pending, after)) :
    ∃ case prepared, prepareReplay files request case store = .ok prepared
      ∧ (store.markers.insertOrIgnore (request.marker prepared now) = none
          ∧ request.decision.action = .keepHold ∧ after = store
        ∨ ∃ markers, store.markers.insertOrIgnore (request.marker prepared now) = some markers
          ∧ after.markers = markers) := by
  rw [prepareSurfaceHoldReplay] at returned
  obtain ⟨case, between, opened, returned⟩ := Prog.bind_returned returned
  obtain ⟨_, rfl⟩ := Prog.ofExcept_returned.1 opened
  have ran := Prog.transaction_ok.1 returned
  rw [holdTransaction] at ran
  obtain ⟨looked, between, same, ran⟩ := Prog.bind_returned ran
  cases same
  obtain ⟨prepared, between, checked, ran⟩ := Prog.bind_returned ran
  obtain ⟨prepares, rfl⟩ := Prog.ofExcept_returned.1 checked
  obtain ⟨_, recorded, records, ran⟩ := Prog.bind_returned ran
  obtain ⟨reopened, last, reopens, ran⟩ := Prog.bind_returned ran
  obtain ⟨_, between, finished, ran⟩ := Prog.bind_returned ran
  obtain ⟨_, rfl⟩ := Prog.ofExcept_returned.1 finished
  cases ran
  obtain ⟨kept, review⟩ := reopenTarget_returned reopens
  refine ⟨case, prepared, prepares, ?_⟩
  rcases recordDecision_returned records with ⟨ignored, keepHold, rfl⟩ | ⟨markers, inserted, same⟩
  · exact .inl ⟨ignored, keepHold, review keepHold⟩
  · exact .inr ⟨markers, inserted, kept.trans same⟩

/-- A call that raises leaves the tables as they were. -/
theorem call_raised {call : HoldCall} {reason : PyError}
    (raised : (store.call call).2 = .error reason) : (store.call call).1 = store := by
  cases performed : prepareSurfaceHoldReplay call.files call.request call.read call.now call.mark
      store with
  | mk answer after =>
      rw [HoldStore.call, performed] at raised ⊢
      cases raised
      rw [prepareSurfaceHoldReplay] at performed
      cases opened : openCase call.files call.request call.read with
      | error other =>
          rw [opened] at performed
          cases performed
          rfl
      | ok case =>
          rw [opened] at performed
          exact Prog.transaction_error performed

/-- Rows of the markers are only added. -/
theorem perform_adds (store : HoldStore) (step : HoldStep) :
    ∃ more, (store.perform step).1.markers.rows = store.markers.rows ++ more := by
  cases step with
  | crash => exact ⟨[], (List.append_nil _).symm⟩
  | other change keeps =>
      refine ⟨[], ?_⟩
      rw [List.append_nil]
      exact congrArg HoldMarkers.rows (keeps store)
  | prepare call =>
      cases performed : prepareSurfaceHoldReplay call.files call.request call.read call.now
          call.mark store with
      | mk answer after =>
          cases answer with
          | error reason =>
              have raised : (store.call call).2 = .error reason := by
                rw [HoldStore.call, performed]
                rfl
              have same : (store.call call).1 = store := call_raised raised
              refine ⟨[], ?_⟩
              rw [HoldStore.perform, same, List.append_nil]
          | ok pending =>
              rw [HoldStore.perform, HoldStore.call, performed]
              obtain ⟨_, prepared, _, ⟨_, _, rfl⟩ | ⟨markers, inserted, same⟩⟩ :=
                prepareSurfaceHoldReplay_returned performed
              · exact ⟨[], (List.append_nil _).symm⟩
              · refine ⟨[call.request.marker prepared call.now], ?_⟩
                rw [Prod.fst_swap, same, HoldMarkers.insertOrIgnore_some inserted]

/-- A run only adds rows to the markers. -/
theorem run_adds (steps : List HoldStep) (store : HoldStore) :
    ∃ more, (runCalls HoldStore.perform store steps).markers.rows = store.markers.rows ++ more := by
  induction steps generalizing store with
  | nil => exact ⟨[], (List.append_nil _).symm⟩
  | cons step rest ih =>
      obtain ⟨first, added⟩ := perform_adds store step
      obtain ⟨second, run⟩ := ih (store.perform step).1
      refine ⟨first ++ second, ?_⟩
      rw [runCalls, run, added, List.append_assoc]

/-! ## One-shot -/

/-- The marker of a committed replay is never overwritten. -/
theorem replayOf_writeOnce (child : HoldChild) :
    WriteOnce HoldStore.perform fun store => store.markers.replayOf child where
  keeps := by
    intro store step found stored
    obtain ⟨more, rows⟩ := perform_adds store step
    exact HoldMarkers.replayOf_append rows stored

/-- A call passes its checks only while no replay of its child is recorded. -/
theorem prepareReplay_unused {case : HoldCase} {prepared : PreparedReplay}
    (checked : prepareReplay files request case store = .ok prepared) :
    store.markers.replayOf request.holdChild = none := by
  rw [prepareReplay] at checked
  obtain ⟨_, _, checked⟩ := except_bind_ok checked
  obtain ⟨_, _, checked⟩ := except_bind_ok checked
  obtain ⟨unused, _⟩ := raiseIf_bind_ok.1 checked
  simpa using unused

/-- What a committed replay found and left. -/
theorem commitsReplay_fills {child : HoldChild} {step : HoldStep}
    (commits : commitsReplay child step (store.perform step).2 = true) :
    store.markers.replayOf child = none
      ∧ (store.perform step).1.markers.replayOf child ≠ none := by
  cases step with
  | crash => cases commits
  | other change keeps => cases commits
  | prepare call =>
      cases performed : prepareSurfaceHoldReplay call.files call.request call.read call.now
          call.mark store with
      | mk answer after =>
          rw [HoldStore.perform, HoldStore.call, performed] at commits ⊢
          cases answer with
          | error reason => cases commits
          | ok pending =>
              simp only [commitsReplay, Prod.snd_swap, Bool.and_eq_true, decide_eq_true_eq]
                at commits
              obtain ⟨replay, rfl⟩ := commits
              obtain ⟨_, prepared, checked, ⟨_, kept, _⟩ | ⟨markers, inserted, same⟩⟩ :=
                prepareSurfaceHoldReplay_returned performed
              · exact absurd kept replay
              · refine ⟨prepareReplay_unused checked, ?_⟩
                rw [Prod.fst_swap, same]
                exact HoldMarkers.replayOf_added (HoldMarkers.insertOrIgnore_some inserted)
                  (decide_eq_true replay)

/-- A request that is already recorded: a replay of its child, or its own review. -/
def HoldStore.Recorded (store : HoldStore) (request : HoldRequest) : Prop :=
  if request.decision.action = .keepHold then
    (request.holdChild, request.decisionHash) ∈ store.markers.rows.map HoldMarker.key
  else store.markers.replayOf request.holdChild ≠ none

/-- A committed call is recorded. -/
theorem call_recorded {call : HoldCall} {answer : Option StageCheckpoint}
    (committed : (store.call call).2 = .ok answer) :
    (store.call call).1.Recorded call.request := by
  by_cases kept : call.request.decision.action = .keepHold
  · rw [HoldStore.Recorded, if_pos kept]
    cases performed : prepareSurfaceHoldReplay call.files call.request call.read call.now
        call.mark store with
    | mk result after =>
        rw [HoldStore.call, performed] at committed ⊢
        cases committed
        obtain ⟨_, prepared, _, ⟨ignored, _, rfl⟩ | ⟨markers, inserted, same⟩⟩ :=
          prepareSurfaceHoldReplay_returned performed
        · exact HoldMarkers.insertOrIgnore_none ignored
            (by simp [HoldMarker.isReplay, HoldRequest.marker, kept])
        · rw [Prod.fst_swap, same, HoldMarkers.insertOrIgnore_some inserted, List.map_append,
            List.mem_append]
          exact .inr (List.mem_singleton.2 rfl)
  · rw [HoldStore.Recorded, if_neg kept]
    have commits : commitsReplay call.request.holdChild (.prepare call)
        (store.perform (.prepare call)).2 = true := by
      rw [HoldStore.perform, committed]
      simp [commitsReplay, kept]
    exact (commitsReplay_fills commits).2

/-- A recorded request stays recorded. -/
theorem run_recorded {request : HoldRequest} (recorded : store.Recorded request)
    (steps : List HoldStep) : (runCalls HoldStore.perform store steps).Recorded request := by
  rw [HoldStore.Recorded] at recorded ⊢
  split
  · rename_i kept
    obtain ⟨more, rows⟩ := run_adds steps store
    rw [if_pos kept] at recorded
    rw [rows, List.map_append]
    exact List.mem_append_left _ recorded
  · rename_i replay
    rw [if_neg replay] at recorded
    obtain ⟨found, stored⟩ := Option.ne_none_iff_exists'.1 recorded
    have filled : (runCalls HoldStore.perform store steps).markers.replayOf request.holdChild
        = some found := (replayOf_writeOnce request.holdChild).run stored
    rw [filled]
    exact Option.some_ne_none found

/-- A call whose request is recorded changes nothing. -/
theorem call_again {call : HoldCall} (recorded : store.Recorded call.request) :
    (store.call call).1 = store := by
  cases answer : (store.call call).2 with
  | error reason => exact call_raised answer
  | ok pending =>
      cases performed : prepareSurfaceHoldReplay call.files call.request call.read call.now
          call.mark store with
      | mk result after =>
          rw [HoldStore.call, performed] at answer ⊢
          cases answer
          obtain ⟨_, prepared, checked, ⟨_, _, rfl⟩ | ⟨markers, inserted, same⟩⟩ :=
            prepareSurfaceHoldReplay_returned performed
          · rfl
          · rw [HoldStore.Recorded] at recorded
            split at recorded
            · rw [HoldMarkers.insertOrIgnore_present recorded] at inserted
              cases inserted
            · exact absurd (prepareReplay_unused checked) recorded

/-- The operation is one-shot from every state. -/
theorem surfaceHoldReplay_oneShot (store : HoldStore) : store.OneShot where
  once := by
    intro steps child
    exact (replayOf_writeOnce child).count_le_one
      (fun store step commits => (commitsReplay_fills commits).1)
      (fun store step commits => (commitsReplay_fills commits).2) steps store
  repeated := by
    intro call answer steps again committed same
    have recorded := run_recorded (call_recorded committed) steps
    rw [← same] at recorded
    exact call_again recorded
  raised := fun call reason raised => call_raised raised

end Sastsimi.Runtime
