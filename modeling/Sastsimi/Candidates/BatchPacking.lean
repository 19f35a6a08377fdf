import Mathlib.Data.List.TakeWhile
import Sastsimi.Candidates.Batches
import Sastsimi.Lib.KeyedSort
import Sastsimi.Lib.Paging

/-!
# Complete candidate batches

The pages of every size list the selected candidates in one order, so the packing runs over the
same candidates and its batches do not depend on the page size.  Every batch is of one path and
within its limits, and together the batches list the selected candidates up to the one that fits
neither behind the pending candidates nor alone.
-/

namespace Sastsimi.Candidates

open Sastsimi.Lib Sastsimi.Runtime

/-! ## Statements -/

/-- The selected candidates of a scope in the order of the pages. -/
def selectedCandidates (table : CandidateTable) (scope : ScopeKey) (scopeFingerprint : String) :
    List StaticCandidate :=
  ordered (table.rows.filter (·.selected scope scopeFingerprint))

/-- The candidates of the yielded batches, in order. -/
def Generated.listed (generated : Generated) : List StaticCandidate :=
  generated.yielded.flatMap (·.candidates)

/-- A batch as it was assembled: of one path and within its limits. -/
structure ValidBatch (scope : BatchScope) (batch : CandidateBatch) : Prop where
  filled : batch.candidates ≠ []
  size : batch.candidates.length ≤ maxCandidatesPerBatch
  onePath : ∀ candidate ∈ batch.candidates, candidate.path = batch.path
  assembled : assembleBatch scope batch.path batch.candidates = .ok batch

/-- The prompt of a single candidate exceeds the budget. -/
def Overflows (scope : BatchScope) (candidate : StaticCandidate) : Prop :=
  ∃ ids, assembleBatch scope candidate.path [candidate] = .error (.contextOverflow ids)

/-- Reading the files raises. -/
def FileContexts.Raises (files : FileContexts) (reason : PyError) : Prop :=
  files.index = .error reason ∨ (∃ path, files.prepare path = .error reason) ∨
    ∃ path candidates, files.render path candidates = .error reason

/-- Why an iteration ends in front of the candidates that it does not list. -/
def EndsBefore (scope : BatchScope) (rest : List StaticCandidate) : BatchEnd → Prop
  | .exhausted => rest = []
  | .raised (.contextOverflow ids) =>
      ∃ candidate later, rest = candidate :: later ∧ ids = [candidate.candidateId] ∧
        Overflows scope candidate
  | .raised (.other reason) => scope.files.Raises reason

/-- The batches list the selected candidates in order, each once, up to where the iteration
ends. -/
structure BatchesOf (scope : BatchScope) (selected : List StaticCandidate)
    (generated : Generated) : Prop where
  valid : ∀ batch ∈ generated.yielded, ValidBatch scope batch
  listed : ∃ rest, generated.listed ++ rest = selected ∧ EndsBefore scope rest generated.ending

/-- The prompt of a single candidate is within the budget. -/
def fitsAlone (scope : BatchScope) (candidate : StaticCandidate) : Bool :=
  (assembleBatch scope candidate.path [candidate]).toBool

/-- The batches list the candidates up to the first one whose own prompt exceeds the budget, and
the iteration raises for this one only. -/
structure UpToFirstOverflow (scope : BatchScope) (selected : List StaticCandidate)
    (generated : Generated) : Prop where
  listed : generated.listed = selected.takeWhile (fitsAlone scope)
  ending : generated.ending =
    match selected.find? fun candidate => !fitsAlone scope candidate with
    | none => .exhausted
    | some candidate => .raised (.contextOverflow [candidate.candidateId])

/-- No file raises. -/
def FileContexts.Readable (files : FileContexts) : Prop := ∀ reason, ¬ files.Raises reason

/-- A prompt with a candidate is at least as large as the prompt of the candidate alone. -/
def FileContexts.Grows (files : FileContexts) : Prop :=
  ∀ path candidates candidate whole alone, candidate ∈ candidates →
    files.render path candidates = .ok whole → files.render path [candidate] = .ok alone →
    alone.bytes ≤ whole.bytes

/-! ## Assembled batches -/

section Assembled

variable {scope : BatchScope} {path : String} {candidates : List StaticCandidate}
  {batch : CandidateBatch} {ids : List String} {reason : PyError}

theorem assembleBatch_ok (assembled : assembleBatch scope path candidates = .ok batch) :
    batch.path = path ∧ batch.candidates = candidates ∧
      ∃ rendering, scope.files.render path candidates = .ok rendering ∧
        batch.promptBytes = promptHeadroomBytes + rendering.bytes ∧
        batch.promptBytes ≤ scope.maxPromptBytes := by
  unfold assembleBatch at assembled
  split at assembled
  · cases assembled
  · rename_i rendering rendered
    simp only at assembled
    split at assembled
    · cases assembled
    · rename_i within
      cases assembled
      exact ⟨rfl, rfl, rendering, rendered, rfl, Nat.not_lt.1 within⟩

theorem assembleBatch_overflow
    (raised : assembleBatch scope path candidates = .error (.contextOverflow ids)) :
    ids = candidates.map (·.candidateId) ∧
      ∃ rendering, scope.files.render path candidates = .ok rendering ∧
        scope.maxPromptBytes < promptHeadroomBytes + rendering.bytes := by
  unfold assembleBatch at raised
  split at raised
  · cases raised
  · rename_i rendering rendered
    simp only at raised
    split at raised
    · rename_i exceeds
      cases raised
      exact ⟨rfl, rendering, rendered, exceeds⟩
    · cases raised

theorem assembleBatch_other (raised : assembleBatch scope path candidates = .error (.other reason)) :
    scope.files.Raises reason := by
  unfold assembleBatch at raised
  split at raised
  · rename_i other rendered
    cases raised
    exact .inr (.inr ⟨path, candidates, rendered⟩)
  · simp only at raised
    split at raised <;> cases raised

/-- The prompt of a valid batch is within the budget. -/
theorem ValidBatch.within (valid : ValidBatch scope batch) :
    batch.promptBytes ≤ scope.maxPromptBytes := by
  obtain ⟨-, -, -, -, -, within⟩ := assembleBatch_ok valid.assembled
  exact within

end Assembled

/-! ## Packing -/

section Packing

variable {scope : BatchScope} {done : List StaticCandidate} {state : Packing}
  {candidate : StaticCandidate} {path : String}

/-- The state after some candidates: the pending ones are those of the current batch. -/
structure Packed (scope : BatchScope) (done : List StaticCandidate) (state : Packing) : Prop where
  listed : state.yielded.flatMap (·.candidates) ++ state.pending = done
  valid : ∀ batch ∈ state.yielded, ValidBatch scope batch
  idle : state.pending = [] → state.current = none
  busy : state.pending ≠ [] → ∃ batch, state.current = some batch ∧
    batch.candidates = state.pending ∧ state.prepared = some batch.path ∧ ValidBatch scope batch

/-- The candidates of the current batch are the pending ones. -/
theorem Packed.flushed (packed : Packed scope done state) :
    (state.yielded ++ state.current.toList).flatMap (·.candidates) = done ∧
      ∀ batch ∈ state.yielded ++ state.current.toList, ValidBatch scope batch := by
  by_cases nothing : state.pending = []
  · have listed := packed.listed
    rw [nothing, List.append_nil] at listed
    rw [packed.idle nothing]
    simpa [listed] using packed.valid
  · obtain ⟨batch, current, same, -, valid⟩ := packed.busy nothing
    rw [current, Option.toList_some, List.flatMap_append, List.flatMap_singleton, same]
    refine ⟨packed.listed, ?_⟩
    intro other member
    rcases List.mem_append.1 member with earlier | last
    · exact packed.valid other earlier
    · rw [List.mem_singleton] at last
      exact last ▸ valid

theorem packed_empty (flushed : state.yielded.flatMap (·.candidates) = done)
    (valid : ∀ batch ∈ state.yielded, ValidBatch scope batch) (pending : state.pending = [])
    (current : state.current = none) : Packed scope done state := by
  refine ⟨?_, valid, fun _ => current, fun filled => absurd pending filled⟩
  rw [pending, List.append_nil, flushed]

theorem packed_start (scope : BatchScope) : Packed scope [] {} :=
  packed_empty rfl (List.forall_mem_nil _) rfl rfl

/-- The iteration stops in front of the candidates that it does not list. -/
def Stops (scope : BatchScope) (done rest : List StaticCandidate) (generated : Generated) : Prop :=
  BatchesOf scope (done ++ rest) generated

/-- Raising behind batches that list a front of the candidates. -/
theorem stops_of_other {yielded : List CandidateBatch} {reason : PyError}
    {rest : List StaticCandidate} (listed : yielded.flatMap (·.candidates) <+: done)
    (valid : ∀ batch ∈ yielded, ValidBatch scope batch) (raises : scope.files.Raises reason) :
    Stops scope done rest ⟨yielded, .raised (.other reason)⟩ := by
  obtain ⟨behind, rfl⟩ := listed
  exact ⟨valid, behind ++ rest, (List.append_assoc _ _ _).symm, raises⟩

/-- A step either keeps the packing of the candidates or stops in front of the rest. -/
def Proceeds (scope : BatchScope) (done rest : List StaticCandidate) (holds : Packing → Prop) :
    Except Generated Packing → Prop
  | .ok next => Packed scope done next ∧ holds next
  | .error generated => Stops scope done rest generated

theorem enterPath_spec (packed : Packed scope done state) (path : String)
    (rest : List StaticCandidate) :
    Proceeds scope done rest (fun next => next.prepared = some path)
      (enterPath scope state path) := by
  unfold enterPath
  split
  · rename_i same
    exact ⟨packed, same⟩
  · obtain ⟨listed, valid⟩ := packed.flushed
    cases prepared : scope.files.prepare path with
    | error reason =>
        exact stops_of_other (listed ▸ List.prefix_rfl) valid (.inr (.inl ⟨path, prepared⟩))
    | ok _ => exact ⟨packed_empty listed valid rfl rfl, rfl⟩

theorem makeRoom_spec (packed : Packed scope done state) :
    ∃ next, makeRoom state = .ok next ∧ Packed scope done next ∧
      next.prepared = state.prepared ∧ next.pending.length < maxCandidatesPerBatch := by
  rw [makeRoom]
  split
  · rename_i full
    have filled : state.pending ≠ [] := by
      intro nothing
      rw [nothing] at full
      exact absurd full (by decide)
    obtain ⟨batch, current, -⟩ := packed.busy filled
    obtain ⟨listed, valid⟩ := packed.flushed
    rw [current]
    rw [current] at listed valid
    exact ⟨_, rfl, packed_empty listed valid rfl rfl, rfl, by simp [maxCandidatesPerBatch]⟩
  · rename_i room
    exact ⟨state, rfl, packed, rfl, Nat.not_le.1 room⟩

/-- A batch of pending candidates of its path is valid. -/
theorem validBatch_of_assembled {candidates : List StaticCandidate} {batch : CandidateBatch}
    (filled : candidates ≠ []) (size : candidates.length ≤ maxCandidatesPerBatch)
    (onePath : ∀ other ∈ candidates, other.path = path)
    (assembled : assembleBatch scope path candidates = .ok batch) : ValidBatch scope batch := by
  obtain ⟨samePath, same, -⟩ := assembleBatch_ok assembled
  rw [← samePath, ← same] at assembled
  refine ⟨same ▸ filled, same ▸ size, ?_, assembled⟩
  rw [same, samePath]
  exact onePath

/-- The pending candidates are of the prepared path. -/
theorem Packed.pending_path (packed : Packed scope done state) (prepared : state.prepared = some path) :
    ∀ other ∈ state.pending, other.path = path := by
  intro other member
  obtain ⟨batch, -, same, batchPath, valid⟩ := packed.busy (List.ne_nil_of_mem member)
  have samePath : batch.path = path := Option.some.inj (batchPath.symm.trans prepared)
  rw [← samePath]
  exact valid.onePath other (same ▸ member)

/-- The pending candidates and one more, in the batch that was assembled of them. -/
theorem packed_pending {yielded : List CandidateBatch} {pending : List StaticCandidate}
    {batch : CandidateBatch} (listed : yielded.flatMap (·.candidates) ++ pending = done)
    (valid : ∀ batch ∈ yielded, ValidBatch scope batch) (filled : pending ≠ [])
    (size : pending.length ≤ maxCandidatesPerBatch) (onePath : ∀ other ∈ pending, other.path = path)
    (assembled : assembleBatch scope path pending = .ok batch) :
    Packed scope done { yielded, prepared := some path, pending, current := some batch } := by
  obtain ⟨samePath, same, -⟩ := assembleBatch_ok assembled
  refine ⟨listed, valid, fun nothing => absurd nothing filled, fun _ => ?_⟩
  exact ⟨batch, rfl, same, congrArg some samePath.symm,
    validBatch_of_assembled filled size onePath assembled⟩

/-- The iteration stops in front of a candidate that exceeds the budget alone. -/
theorem stops_of_overflow {yielded : List CandidateBatch} {ids : List String}
    {rest : List StaticCandidate} (listed : yielded.flatMap (·.candidates) = done)
    (valid : ∀ batch ∈ yielded, ValidBatch scope batch)
    (raised : assembleBatch scope candidate.path [candidate] = .error (.contextOverflow ids)) :
    Stops scope done (candidate :: rest) ⟨yielded, .raised (.contextOverflow ids)⟩ := by
  refine ⟨valid, candidate :: rest, ?_, candidate, rest, rfl, ?_, ids, raised⟩
  · exact congrArg (· ++ candidate :: rest) listed
  · exact (assembleBatch_overflow raised).1

theorem propose_spec (packed : Packed scope done state)
    (prepared : state.prepared = some candidate.path)
    (room : state.pending.length < maxCandidatesPerBatch) (rest : List StaticCandidate) :
    match propose scope state candidate with
    | .ok next => Packed scope (done ++ [candidate]) next
    | .error generated => Stops scope done (candidate :: rest) generated := by
  have paths := packed.pending_path prepared
  obtain ⟨flushed, validFlushed⟩ := packed.flushed
  obtain ⟨yielded, _, pending, current⟩ := state
  cases prepared
  unfold propose
  cases together : assembleBatch scope candidate.path (pending ++ [candidate]) with
  | ok batch =>
      have listed : yielded.flatMap (·.candidates) ++ (pending ++ [candidate]) =
          done ++ [candidate] := by
        rw [← List.append_assoc, packed.listed]
      have onePath : ∀ other ∈ pending ++ [candidate], other.path = candidate.path := by
        simpa [or_imp, forall_and] using paths
      have size : (pending ++ [candidate]).length ≤ maxCandidatesPerBatch := by
        rw [List.length_append]
        exact room
      exact packed_pending listed packed.valid (by simp) size onePath together
  | error reason =>
      cases reason with
      | other reason =>
          exact stops_of_other ⟨pending, packed.listed⟩ packed.valid (assembleBatch_other together)
      | contextOverflow ids =>
          cases current with
          | none =>
              have nothing : pending = [] := by
                by_contra filled
                obtain ⟨batch, missing, -⟩ := packed.busy filled
                cases missing
              subst nothing
              have same := (assembleBatch_overflow together).1
              simp only [List.nil_append, List.map_cons, List.map_nil] at same together
              subst same
              simp only [Option.toList_none, List.append_nil] at flushed
              exact stops_of_overflow flushed packed.valid together
          | some batch =>
              cases alone : assembleBatch scope candidate.path [candidate] with
              | error reason =>
                  cases reason with
                  | other reason =>
                      exact stops_of_other (flushed ▸ List.prefix_rfl) validFlushed
                        (assembleBatch_other alone)
                  | contextOverflow ids => exact stops_of_overflow flushed validFlushed alone
              | ok single =>
                  exact packed_pending (congrArg (· ++ [candidate]) flushed) validFlushed
                    (by simp) (by simp [maxCandidatesPerBatch]) (by simp) alone

/-- One turn lists the candidate or stops in front of it. -/
theorem packCandidate_spec (packed : Packed scope done state) (candidate : StaticCandidate)
    (rest : List StaticCandidate) :
    match packCandidate scope state candidate with
    | .ok next => Packed scope (done ++ [candidate]) next
    | .error generated => Stops scope done (candidate :: rest) generated := by
  have entering := enterPath_spec packed candidate.path (candidate :: rest)
  rw [packCandidate]
  cases entered : enterPath scope state candidate.path with
  | error generated =>
      rw [entered] at entering
      exact entering
  | ok next =>
      rw [entered] at entering
      obtain ⟨roomy, made, still, prepared, room⟩ := makeRoom_spec entering.1
      simp only [bind, Except.bind, made]
      exact propose_spec still (prepared.trans entering.2) room rest

/-- The packing of the candidates in one go. -/
def packAll (scope : BatchScope) (state : Packing) (rest : List StaticCandidate) : Generated :=
  match rest.foldlM (packCandidate scope) state with
  | .ok last => finishPacking last
  | .error generated => generated

/-- The packing of all candidates lists them, or stops in front of the rest. -/
theorem packAll_spec (packed : Packed scope done state) (rest : List StaticCandidate) :
    BatchesOf scope (done ++ rest) (packAll scope state rest) := by
  unfold packAll
  induction rest generalizing done state with
  | nil =>
      obtain ⟨flushed, valid⟩ := packed.flushed
      exact ⟨valid, [], congrArg (· ++ []) flushed, rfl⟩
  | cons candidate rest ih =>
      have turn := packCandidate_spec packed candidate rest
      rw [List.foldlM_cons]
      cases packing : packCandidate scope state candidate with
      | error generated =>
          rw [packing] at turn
          exact turn
      | ok next =>
          rw [packing] at turn
          simp only [bind, Except.bind]
          rw [List.append_cons]
          exact ih turn

end Packing

/-! ## Pages -/

section Pages

variable {table : CandidateTable} {scope : ScopeKey} {scopeFingerprint : String}
  {front back : List StaticCandidate}

/-- The selected candidates have distinct places. -/
theorem selected_places (table : CandidateTable) (scope : ScopeKey) (scopeFingerprint : String) :
    ((table.rows.filter (·.selected scope scopeFingerprint)).map (·.place)).Nodup := by
  have distinct := table.filter_keys_nodup fun row => row.selected scope scopeFingerprint
  rw [List.Nodup, List.pairwise_map] at distinct ⊢
  refine distinct.imp_of_mem ?_
  intro left right member member' apart together
  have first := (List.mem_filter.1 member).2
  have second := (List.mem_filter.1 member').2
  simp only [StaticCandidate.selected, Bool.and_eq_true, decide_eq_true_eq] at first second
  have sameId : left.candidateId = right.candidateId := congrArg (fun place => (ofLex place).2) together
  apply apart
  cases left with | mk leftKey => cases right with | mk rightKey =>
    cases leftKey
    cases rightKey
    simp_all [StaticCandidate.candidateId]

/-- The selected candidates are in the strict order of path and id. -/
theorem selectedCandidates_strict (table : CandidateTable) (scope : ScopeKey)
    (scopeFingerprint : String) :
    (selectedCandidates table scope scopeFingerprint).Pairwise
      fun first second => first.place < second.place :=
  insertionSort_strict (selected_places table scope scopeFingerprint)

theorem mem_selectedCandidates {candidate : StaticCandidate} :
    candidate ∈ selectedCandidates table scope scopeFingerprint ↔
      candidate ∈ table.rows ∧ candidate.selected scope scopeFingerprint = true := by
  rw [selectedCandidates, ordered, List.mem_insertionSort, List.mem_filter]

theorem isAfter_eq (last candidate : StaticCandidate) :
    candidate.isAfter (some (last.path, last.candidateId)) =
      decide (last.place < candidate.place) := by
  rw [StaticCandidate.isAfter, Option.all_some, decide_eq_decide, StaticCandidate.place,
    StaticCandidate.place, Prod.Lex.toLex_lt_toLex]
  exact or_congr_right (and_congr_left' eq_comm)

/-- A page behind a front of the selected candidates lists the first ones of the others. -/
theorem listCandidateBatchPage_behind {identity : CheckpointIdentity} {limit : Nat}
    (positive : 0 < limit) (known : candidateScopeKey identity scopeFingerprint = .ok scope)
    (parts : selectedCandidates table scope scopeFingerprint = front ++ back) :
    listCandidateBatchPage table identity scopeFingerprint
        (front.getLast?.map fun last => (last.path, last.candidateId)) limit =
      .ok (back.take limit) := by
  have raises : ¬ limit ≤ 0 := Nat.not_le.2 positive
  have page (after : Option (String × String)) :
      ordered (table.rows.filter fun row =>
        row.selected scope scopeFingerprint && row.isAfter after) =
      (selectedCandidates table scope scopeFingerprint).filter (·.isAfter after) := by
    rw [selectedCandidates, ordered, ordered,
      ← filter_insertionSort (selected_places table scope scopeFingerprint), List.filter_filter]
    simp only [Bool.and_comm]
  rw [listCandidateBatchPage, known]
  simp only [raiseIf, raises, if_false, bind, Except.bind, pure, Except.pure]
  rw [page, parts]
  cases isLast : front.getLast? with
  | none =>
      rw [List.getLast?_eq_none_iff.1 isLast, List.nil_append, Option.map_none]
      simp [StaticCandidate.isAfter]
  | some last =>
      have strict := parts ▸ selectedCandidates_strict table scope scopeFingerprint
      have behind := filter_after_last _ strict isLast
      simp only [Option.map_some, isAfter_eq, behind]

/-- Read in pages of any size, the candidates are packed as in one go. -/
theorem packPages_eq {batches : BatchScope}
    {page : Option (String × String) → Except PyError (List StaticCandidate)}
    {selected : List StaticCandidate} {limit : Nat} (positive : 0 < limit)
    (front : List StaticCandidate)
    (pages : ∀ front back, selected = front ++ back →
      page (front.getLast?.map fun last => (last.path, last.candidateId)) = .ok (back.take limit))
    {rounds : Nat} (state : Packing) (parts : selected = front ++ back)
    (enough : back.length < rounds) :
    packPages batches page rounds (front.getLast?.map fun last => (last.path, last.candidateId))
        state =
      some (packAll batches state back) := by
  induction rounds generalizing front back state with
  | zero => exact absurd enough (Nat.not_lt_zero _)
  | succ rounds ih =>
      rw [packPages, pages front back parts]
      have split := List.take_append_drop limit back
      cases isLast : (back.take limit).getLast? with
      | none =>
          rw [List.getLast?_eq_none_iff, List.take_eq_nil_iff] at isLast
          have nothing := isLast.resolve_left (Nat.ne_of_gt positive)
          subst nothing
          simp [packAll, pure, Except.pure]
      | some last =>
          simp only [packAll]
          rw [← split, List.foldlM_append, split]
          cases packed : (back.take limit).foldlM (packCandidate batches) state with
          | error generated => simp [bind, Except.bind, isLast]
          | ok next =>
              have fewer : (back.drop limit).length < rounds := by
                have filled : back ≠ [] := by
                  rintro rfl
                  simp at isLast
                have := List.length_pos_iff.2 filled
                rw [List.length_drop]
                omega
              have rest := ih (front ++ back.take limit) next
                (by rw [parts, List.append_assoc, split]) fewer
              rw [List.getLast?_append, isLast, Option.some_or] at rest
              simpa [bind, Except.bind, isLast, packed, packAll] using rest

end Pages

/-! ## Complete batches -/

section Complete

variable {scope : BatchScope} {candidate : StaticCandidate} {selected : List StaticCandidate}
  {generated : Generated}

theorem Overflows.not_fitsAlone (overflows : Overflows scope candidate) :
    fitsAlone scope candidate = false := by
  obtain ⟨ids, raised⟩ := overflows
  rw [fitsAlone, raised]
  rfl

/-- A candidate of a batch within the budget fits alone, when prompts grow. -/
theorem ValidBatch.fitsAlone {batch : CandidateBatch} (valid : ValidBatch scope batch)
    (member : candidate ∈ batch.candidates) (readable : scope.files.Readable)
    (grows : scope.files.Grows) : fitsAlone scope candidate = true := by
  obtain ⟨-, -, whole, rendered, size, within⟩ := assembleBatch_ok valid.assembled
  have path := valid.onePath candidate member
  unfold Candidates.fitsAlone
  cases alone : assembleBatch scope candidate.path [candidate] with
  | ok _ => rfl
  | error reason =>
      cases reason with
      | other reason => exact absurd (assembleBatch_other alone) (readable reason)
      | contextOverflow ids =>
          obtain ⟨-, single, renderedAlone, exceeds⟩ := assembleBatch_overflow alone
          rw [path] at renderedAlone
          have smaller := grows _ _ _ _ _ member rendered renderedAlone
          omega

/-- When prompts grow, the batches end in front of the first candidate that does not fit alone. -/
theorem BatchesOf.upToFirstOverflow (batches : BatchesOf scope selected generated)
    (readable : scope.files.Readable) (grows : scope.files.Grows) :
    UpToFirstOverflow scope selected generated := by
  obtain ⟨rest, rfl, ends⟩ := batches.listed
  have fits : ∀ candidate ∈ generated.listed, fitsAlone scope candidate = true := by
    intro candidate member
    obtain ⟨batch, yielded, inside⟩ := List.mem_flatMap.1 member
    exact (batches.valid batch yielded).fitsAlone inside readable grows
  have frontFound : generated.listed.find? (fun candidate => !fitsAlone scope candidate) = none := by
    rw [List.find?_eq_none]
    intro candidate member
    simp [fits candidate member]
  obtain ⟨yielded, ending⟩ := generated
  cases ending with
  | exhausted =>
      cases ends
      constructor
      · rw [List.append_nil, List.takeWhile_eq_self_iff.2 fits]
      · rw [List.append_nil, frontFound]
  | raised reason =>
      cases reason with
      | other reason => exact absurd ends (readable reason)
      | contextOverflow ids =>
          obtain ⟨candidate, later, rfl, rfl, overflows⟩ := ends
          have stopsHere := overflows.not_fitsAlone
          constructor
          · rw [List.takeWhile_append_of_pos fits, List.takeWhile_cons_of_neg (by simp [stopsHere]),
              List.append_nil]
          · rw [List.find?_append, frontFound, Option.none_or,
              List.find?_cons_of_pos (by simp [stopsHere])]

variable {table : CandidateTable} {call : BatchCall} {scopeKey : ScopeKey}

/-- Pages of every size give one packing of the selected candidates. -/
theorem iterCandidateBatches_packs (table : CandidateTable)
    (known : candidateScopeKey call.identity call.scope.scopeFingerprint = .ok scopeKey)
    (budget : 1024 ≤ call.scope.maxPromptBytes) (version : call.contextVersion ∈ [1, 2, 3, 4, 5]) :
    ∃ generated : Generated,
      (∀ dbPageSize, 1 ≤ dbPageSize → iterCandidateBatches table call dbPageSize = some generated) ∧
      BatchesOf call.scope (selectedCandidates table scopeKey call.scope.scopeFingerprint)
        generated := by
  have accepted (dbPageSize : Nat) (positive : 1 ≤ dbPageSize) :
      ¬ (call.scope.maxPromptBytes < 1024 ∨ dbPageSize < 1 ∨
        call.contextVersion ∉ [1, 2, 3, 4, 5]) := by
    simp only [version, not_true_eq_false, or_false]
    omega
  cases indexed : call.scope.files.index with
  | error reason =>
      refine ⟨⟨[], .raised (.other reason)⟩, ?_, List.forall_mem_nil _, _, List.nil_append _,
        .inl indexed⟩
      intro dbPageSize positive
      rw [iterCandidateBatches, if_neg (accepted dbPageSize positive), indexed]
  | ok _ =>
      refine ⟨packAll call.scope {} (selectedCandidates table scopeKey call.scope.scopeFingerprint),
        ?_, packAll_spec (packed_start _) _⟩
      intro dbPageSize positive
      rw [iterCandidateBatches, if_neg (accepted dbPageSize positive), indexed]
      have enough : (selectedCandidates table scopeKey call.scope.scopeFingerprint).length <
          table.rows.length + 1 := by
        rw [selectedCandidates, ordered, List.length_insertionSort]
        exact Nat.lt_succ_of_le (List.length_filter_le _ _)
      exact packPages_eq positive []
        (fun _ _ parts => listCandidateBatchPage_behind positive known parts) {} rfl enough

/-- Whatever the page size, the iteration yields the same batches of the selected candidates: in
the order of path and id, each once, up to the candidate that exceeds the budget alone. -/
theorem iterCandidateBatches_complete (table : CandidateTable) (call : BatchCall)
    {scopeKey : ScopeKey}
    (known : candidateScopeKey call.identity call.scope.scopeFingerprint = .ok scopeKey)
    (budget : 1024 ≤ call.scope.maxPromptBytes) (version : call.contextVersion ∈ [1, 2, 3, 4, 5]) :
    ∃ generated : Generated,
      (∀ dbPageSize, 1 ≤ dbPageSize → iterCandidateBatches table call dbPageSize = some generated) ∧
      ∃ selected : List StaticCandidate,
        selected.Pairwise (fun first second => first.place < second.place) ∧
        (∀ candidate, candidate ∈ selected ↔
          candidate ∈ table.rows ∧ candidate.selected scopeKey call.scope.scopeFingerprint = true) ∧
        BatchesOf call.scope selected generated ∧
        (∀ batch ∈ generated.yielded, batch.promptBytes ≤ call.scope.maxPromptBytes) ∧
        (call.scope.files.Readable → call.scope.files.Grows →
          UpToFirstOverflow call.scope selected generated) := by
  obtain ⟨generated, same, batches⟩ := iterCandidateBatches_packs table known budget version
  refine ⟨generated, same, _, selectedCandidates_strict _ _ _, fun _ => mem_selectedCandidates,
    batches, ?_, batches.upToFirstOverflow⟩
  intro batch yielded
  exact (batches.valid batch yielded).within

end Complete

namespace Concrete

/-- The scope of one run. -/
def scopeKey : ScopeKey := ⟨"analysis", "workspace", "commit"⟩

/-- A selected candidate of a file. -/
def included (path candidateId : String) : StaticCandidate :=
  ⟨⟨scopeKey, "scope", candidateId⟩, path, "INCLUDE", .null⟩

/-- Two selected candidates of one file. -/
def pairTable : CandidateTable := ⟨[included "app.py" "b", included "app.py" "a"], by decide⟩

/-- Prompts of the given sizes. -/
def sized (bytes : List StaticCandidate → Nat) : BatchCall where
  identity := ⟨"analysis", "workspace", "commit", none⟩
  scope := {
    sha256 := String.ofList
    files := ⟨.ok (), fun _ => .ok (), fun _ candidates => .ok ⟨"context", bytes candidates⟩⟩
    scopeFingerprint := "scope"
    maxPromptBytes := 5000 }
  contextVersion := 5

/-- Prompts that grow with every candidate. -/
def growing : BatchCall := sized fun candidates => 400 * candidates.length

/-- The prompt of one candidate exceeds the budget, but not the prompt of both. -/
def shrinking : BatchCall :=
  sized fun candidates => if candidates.map (·.candidateId) = ["b"] then 1000 else 100

/-- Both candidates are listed, although the second exceeds the budget alone. -/
theorem overflowAlone_listed :
    (selectedCandidates pairTable scopeKey "scope").map (·.candidateId) = ["a", "b"] ∧
      fitsAlone shrinking.scope (included "app.py" "b") = false ∧
      (iterCandidateBatches pairTable shrinking 1).map
          (fun generated => (generated.listed.map (·.candidateId), generated.ending)) =
        some (["a", "b"], .exhausted) := by
  decide

theorem growing_readable : growing.scope.files.Readable := by
  rintro reason (indexed | ⟨path, prepared⟩ | ⟨path, candidates, rendered⟩)
  · cases indexed
  · cases prepared
  · cases rendered

theorem growing_grows : growing.scope.files.Grows := by
  intro path candidates candidate whole alone member rendered renderedAlone
  cases rendered
  cases renderedAlone
  have filled := List.length_pos_of_mem member
  simp only [List.length_singleton]
  omega

theorem growing_known :
    candidateScopeKey growing.identity growing.scope.scopeFingerprint = .ok scopeKey := rfl

/-- The candidates of the table, whatever the page size. -/
theorem growing_batched :
    ∃ generated : Generated,
      (∀ dbPageSize, 1 ≤ dbPageSize →
        iterCandidateBatches pairTable growing dbPageSize = some generated) ∧
      ∃ selected : List StaticCandidate,
        (∀ candidate, candidate ∈ selected ↔
          candidate ∈ pairTable.rows ∧ candidate.selected scopeKey "scope" = true) ∧
        BatchesOf growing.scope selected generated ∧
        UpToFirstOverflow growing.scope selected generated := by
  obtain ⟨generated, same, selected, -, members, batches, -, upTo⟩ :=
    iterCandidateBatches_complete pairTable growing growing_known (by decide) (by decide)
  exact ⟨generated, same, selected, members, batches, upTo growing_readable growing_grows⟩

end Concrete

end Sastsimi.Candidates
