import Sastsimi.Lib.Recency
import Sastsimi.Lib.Transaction
import Sastsimi.Runtime.Catalogue

/-!
# Static scan attempts

`simple_static_scan_attempts`, `save_static_scan_attempt`, which inserts an attempt or updates
it in place, and `list_static_scan_attempts_for_run_key`, which lists the attempts of a run key
by descending row number.

The row number of a new row is above that of every other row, and nothing deletes a row, so the
rows stand in the order of their numbers.  A column that holds JSON text is the value that was
encoded.
-/

namespace Sastsimi.Static

open Lib Sastsimi.Runtime

/-! ## The table -/

/-- The status of an attempt. -/
inductive ScanStatus where
  | succeeded
  | blocked
  deriving DecidableEq

/-- The stored spelling of a status. -/
def ScanStatus.value : ScanStatus → String
  | succeeded => "SUCCEEDED"
  | blocked => "BLOCKED"

def ScanStatus.ofText (text : String) : Option ScanStatus :=
  if text = "SUCCEEDED" then some .succeeded
  else if text = "BLOCKED" then some .blocked
  else none

@[simp] theorem ScanStatus.ofText_value (status : ScanStatus) :
    ScanStatus.ofText status.value = some status := by
  cases status <;> rfl

/-- The columns that a listing for a run key compares. -/
structure RunScope where
  analysisId : String
  workspaceId : String
  commitId : String
  repository : String
  tool : String
  runKey : String
  deriving DecidableEq

/-- The primary key of an attempt. -/
structure AttemptKey where
  scope : RunScope
  fingerprint : String
  deriving DecidableEq

/-- A row of `simple_static_scan_attempts`. -/
structure AttemptRow where
  key : AttemptKey
  status : String
  rawRef : Option StoredDataRef
  coverageRef : Option StoredDataRef
  errorCode : Option String
  requestRef : Option StoredDataRef

/-- The rows in the order of their row numbers. -/
abbrev AttemptTable : Type := Table AttemptRow.key

/-- `_require_opengrep_ref_scope` accepts the reference. -/
def inRefScope (identity : CheckpointIdentity) (ref : StoredDataRef) : Bool :=
  decide (ref.workspaceId = identity.workspaceId ∧ ref.commitId = identity.commitId) &&
    !decide (ref.recordId ≠ none ∨ ref.dataKind ≠ "artifact" ∨ ref.storedDataId ≠ ref.contentHash)

/-! ## Saving -/

/-- The arguments of `save_static_scan_attempt`. -/
structure ScanSave where
  identity : CheckpointIdentity
  repository : String
  fingerprint : String
  tool : String
  runKey : String
  status : ScanStatus
  rawRef : Option StoredDataRef
  coverageRef : Option StoredDataRef
  errorCode : Option String
  requestRef : Option StoredDataRef := none

/-- The run key that arguments are about. -/
def runScope (identity : CheckpointIdentity) (repository tool runKey : String) : RunScope :=
  ⟨identity.analysisId, identity.workspaceId, identity.commitId, repository, tool, runKey⟩

/-- `_static_ref_json`. -/
def staticRef (identity : CheckpointIdentity) (ref : Option StoredDataRef) :
    Except PyError (Option StoredDataRef) :=
  match ref with
  | none => .ok none
  | some ref =>
      if inRefScope identity ref then .ok (some ref)
      else .error (.valueError "STATIC_SCAN_REF_SCOPE_MISMATCH")

/-- The values that `save_static_scan_attempt` inserts. -/
def ScanSave.row (save : ScanSave) : Except PyError AttemptRow := do
  raiseIf (save.identity.hypothesisId ≠ none ∨
      [save.repository, save.fingerprint, save.tool, save.runKey].any isBlank)
    (.valueError "STATIC_SCAN_KEY_INVALID")
  let rawRef ← staticRef save.identity save.rawRef
  let coverageRef ← staticRef save.identity save.coverageRef
  let requestRef ← staticRef save.identity save.requestRef
  pure {
    key := ⟨runScope save.identity save.repository save.tool save.runKey, save.fingerprint⟩
    status := save.status.value
    rawRef
    coverageRef
    errorCode := save.errorCode
    requestRef }

/-- `DO UPDATE SET`: an update without a request keeps the stored one. -/
def AttemptRow.update (excluded stored : AttemptRow) : AttemptRow :=
  { stored with
    status := excluded.status
    rawRef := excluded.rawRef
    coverageRef := excluded.coverageRef
    errorCode := excluded.errorCode
    requestRef := excluded.requestRef.or stored.requestRef }

@[simp] theorem AttemptRow.update_key {excluded stored : AttemptRow} :
    (excluded.update stored).key = stored.key := rfl

/-- `save_static_scan_attempt`. -/
def saveStaticScanAttempt (table : AttemptTable) (save : ScanSave) :
    AttemptTable × Except PyError Unit :=
  match save.row with
  | .error reason => (table, .error reason)
  | .ok row => (table.upsert row row.update fun _ => AttemptRow.update_key, .ok ())

/-- The table after a sequence of saves. -/
def savedTable (saves : List ScanSave) : AttemptTable :=
  runCalls saveStaticScanAttempt .empty saves

/-! ## Listing -/

/-- `StaticScanAttempt`. -/
structure StaticScanAttempt where
  fingerprint : String
  tool : String
  runKey : String
  status : ScanStatus
  rawRef : Option StoredDataRef
  coverageRef : Option StoredDataRef
  requestRef : Option StoredDataRef
  errorCode : Option String
  deriving DecidableEq

/-- The attempt of a row; nothing for a row with another status or with a reference of another
scope. -/
def AttemptRow.attempt (identity : CheckpointIdentity) (row : AttemptRow) :
    Option StaticScanAttempt :=
  match ScanStatus.ofText row.status with
  | none => none
  | some status =>
      if row.rawRef.all (inRefScope identity) && row.coverageRef.all (inRefScope identity) &&
          row.requestRef.all (inRefScope identity) then
        some {
          fingerprint := row.key.fingerprint
          tool := row.key.scope.tool
          runKey := row.key.scope.runKey
          status
          rawRef := row.rawRef
          coverageRef := row.coverageRef
          requestRef := row.requestRef
          errorCode := row.errorCode }
      else none

/-- `list_static_scan_attempts_for_run_key`. -/
def listStaticScanAttemptsForRunKey (table : AttemptTable) (identity : CheckpointIdentity)
    (repository tool runKey : String) : Except PyError (List StaticScanAttempt) := do
  raiseIf (identity.hypothesisId ≠ none ∨ [repository, tool, runKey].any isBlank)
    (.valueError "STATIC_SCAN_KEY_INVALID")
  let rows := table.rows.filter fun row =>
    decide (row.key.scope = runScope identity repository tool runKey)
  pure (rows.reverse.filterMap (·.attempt identity))

/-! ## The order of a listing -/

/-- The attempts that saves wrote, one entry for each save that returned. -/
def savedKeys (saves : List ScanSave) : List AttemptKey :=
  saves.filterMap fun save => save.row.toOption.map (·.key)

/-- The key of an attempt that a listing shows. -/
def StaticScanAttempt.key (identity : CheckpointIdentity) (repository : String)
    (attempt : StaticScanAttempt) : AttemptKey :=
  ⟨runScope identity repository attempt.tool attempt.runKey, attempt.fingerprint⟩

/-- The keys of a listing are the saved attempts of a run key, each once, by the latest save of
each, newest first. -/
structure ByLatestSave (saves : List ScanSave) (scope : RunScope) (listed : List AttemptKey) :
    Prop where
  once : listed.Nodup
  complete : ∀ key, key ∈ listed ↔ key ∈ savedKeys saves ∧ key.scope = scope
  newestFirst : listed.Pairwise fun first second =>
    lastWrite (savedKeys saves) second < lastWrite (savedKeys saves) first

/-- Every listing that returns is by the latest saves. -/
def ListsByLatestSave (saves : List ScanSave) : Prop :=
  ∀ identity repository tool runKey listed,
    listStaticScanAttemptsForRunKey (savedTable saves) identity repository tool runKey =
      .ok listed →
    ByLatestSave saves (runScope identity repository tool runKey)
      (listed.map (·.key identity repository))

/-- A save updates no attempt behind which another attempt of its run key was inserted. -/
def SavesInOrder (table : AttemptTable) (save : ScanSave) : Prop :=
  ∀ row, save.row = .ok row → ¬ Overtaken AttemptKey.scope (table.rows.map (·.key)) row.key

/-! ## Saved rows -/

variable {saves : List ScanSave} {save : ScanSave} {table : AttemptTable} {row : AttemptRow}
  {identity : CheckpointIdentity} {repository tool runKey : String}

theorem savedTable_concat :
    savedTable (saves ++ [save]) = (saveStaticScanAttempt (savedTable saves) save).1 :=
  runCalls_append

theorem savedKeys_error {reason : PyError} (raised : save.row = .error reason) :
    savedKeys (saves ++ [save]) = savedKeys saves := by
  simp [savedKeys, raised, Except.toOption]

theorem savedKeys_ok (returned : save.row = .ok row) :
    savedKeys (saves ++ [save]) = savedKeys saves ++ [row.key] := by
  simp [savedKeys, returned, Except.toOption]

/-- The rows of the table stand in the order of the first saves of their keys. -/
theorem keys_savedTable (saves : List ScanSave) :
    (savedTable saves).rows.map (·.key) = (savedKeys saves).eraseDups := by
  induction saves using List.reverseRecOn with
  | nil => simp [savedTable, runCalls, savedKeys, Table.empty]
  | append_singleton saves save ih =>
      rw [savedTable_concat, saveStaticScanAttempt]
      cases outcome : save.row with
      | error reason => rw [savedKeys_error outcome, ← ih]
      | ok row =>
          rw [savedKeys_ok outcome, eraseDups_concat, ← ih]
          exact Table.keys_upsert

theorem inRefScope_congr {other : CheckpointIdentity}
    (workspace : identity.workspaceId = other.workspaceId)
    (commit : identity.commitId = other.commitId) : inRefScope identity = inRefScope other := by
  funext ref
  rw [inRefScope, inRefScope, workspace, commit]

theorem staticRef_ok {ref stored : Option StoredDataRef}
    (accepted : staticRef identity ref = .ok stored) : stored.all (inRefScope identity) = true := by
  unfold staticRef at accepted
  split at accepted
  · cases accepted
    rfl
  · split at accepted
    · cases accepted
      assumption
    · cases accepted

/-- A row has a status, and its references are of its scope. -/
structure AttemptRow.Valid (row : AttemptRow) : Prop where
  status : ∃ status : ScanStatus, row.status = status.value
  refs : ∀ identity : CheckpointIdentity, row.key.scope.workspaceId = identity.workspaceId →
    row.key.scope.commitId = identity.commitId →
    row.rawRef.all (inRefScope identity) = true ∧ row.coverageRef.all (inRefScope identity) = true ∧
      row.requestRef.all (inRefScope identity) = true

/-- A save inserts a valid row. -/
theorem ScanSave.row_valid (returned : save.row = .ok row) : row.Valid := by
  obtain ⟨-, returned⟩ := raiseIf_bind_ok.1 returned
  obtain ⟨rawRef, raw, returned⟩ := except_bind_ok returned
  obtain ⟨coverageRef, coverage, returned⟩ := except_bind_ok returned
  obtain ⟨requestRef, request, returned⟩ := except_bind_ok returned
  cases returned
  constructor
  · exact ⟨save.status, rfl⟩
  · intro identity workspace commit
    rw [← inRefScope_congr workspace commit]
    exact ⟨staticRef_ok raw, staticRef_ok coverage, staticRef_ok request⟩

/-- An update with a valid row of the same key keeps a row valid. -/
theorem AttemptRow.Valid.update {excluded stored : AttemptRow} (new : excluded.Valid)
    (old : stored.Valid) (same : stored.key = excluded.key) : (excluded.update stored).Valid := by
  constructor
  · exact new.status
  · intro identity workspace commit
    have kept := old.refs identity workspace commit
    have written := new.refs identity (same ▸ workspace) (same ▸ commit)
    refine ⟨written.1, written.2.1, ?_⟩
    rw [AttemptRow.update]
    cases request : excluded.requestRef with
    | none => exact kept.2.2
    | some ref =>
        rw [request] at written
        exact written.2.2

/-- Every stored row is valid. -/
theorem savedTable_valid (saves : List ScanSave) : ∀ row ∈ (savedTable saves).rows, row.Valid := by
  induction saves using List.reverseRecOn with
  | nil => exact fun _ member => absurd member List.not_mem_nil
  | append_singleton saves save ih =>
      rw [savedTable_concat, saveStaticScanAttempt]
      cases outcome : save.row with
      | error reason => exact ih
      | ok row =>
          have new := ScanSave.row_valid outcome
          intro stored member
          rcases Table.mem_upsert member with old | rfl | ⟨old, known, same, rfl⟩
          · exact ih stored old
          · exact new
          · exact new.update (ih old known) same

/-! ## Listed attempts -/

/-- A valid row of a scope is shown under its key. -/
theorem AttemptRow.Valid.attempt (valid : row.Valid)
    (inScope : row.key.scope = runScope identity repository tool runKey) :
    ∃ attempt, row.attempt identity = some attempt ∧ attempt.key identity repository = row.key := by
  obtain ⟨status, known⟩ := valid.status
  have refs := valid.refs identity (by rw [inScope, runScope]) (by rw [inScope, runScope])
  have key : row.key = ⟨runScope identity repository tool runKey, row.key.fingerprint⟩ := by
    rw [← inScope]
  simp only [AttemptRow.attempt, known, ScanStatus.ofText_value, refs, Bool.and_self, if_true]
  refine ⟨_, rfl, ?_⟩
  rw [StaticScanAttempt.key, inScope, key]
  rfl

/-- The rows of a scope are all shown. -/
theorem filterMap_attempt {rows : List AttemptRow}
    (valid : ∀ row ∈ rows, row.Valid ∧ row.key.scope = runScope identity repository tool runKey) :
    (rows.filterMap (·.attempt identity)).map (·.key identity repository) = rows.map (·.key) := by
  induction rows with
  | nil => rfl
  | cons row rest ih =>
      obtain ⟨here, others⟩ := List.forall_mem_cons.1 valid
      obtain ⟨attempt, shown, key⟩ := here.1.attempt here.2
      rw [List.filterMap_cons_some shown, List.map_cons, List.map_cons, key, ih others]

/-- A listing shows the stored attempts of its run key from the last row to the first. -/
theorem listed_keys {listed : List StaticScanAttempt}
    (returned : listStaticScanAttemptsForRunKey (savedTable saves) identity repository tool runKey =
      .ok listed) :
    listed.map (·.key identity repository) =
      ((savedKeys saves).eraseDups.filter fun key =>
        decide (key.scope = runScope identity repository tool runKey)).reverse := by
  obtain ⟨-, returned⟩ := raiseIf_bind_ok.1 returned
  cases returned
  rw [filterMap_attempt, ← keys_savedTable, List.filter_map, List.map_reverse]
  · rfl
  · intro row member
    obtain ⟨stored, selected⟩ := List.mem_filter.1 (List.mem_reverse.1 member)
    exact ⟨savedTable_valid saves row stored, of_decide_eq_true selected⟩

/-! ## The order of the saves -/

/-- A listing shows every saved attempt of its run key once. -/
theorem byLatestSave_iff {listed : List AttemptKey} {scope : RunScope}
    (shown : listed =
      ((savedKeys saves).eraseDups.filter fun key => decide (key.scope = scope)).reverse) :
    ByLatestSave saves scope listed ↔
      ((savedKeys saves).eraseDups.filter fun key => decide (key.scope = scope)).Pairwise
        fun first second =>
          lastWrite (savedKeys saves) first < lastWrite (savedKeys saves) second := by
  subst shown
  constructor
  · intro listed
    exact List.pairwise_reverse.1 listed.newestFirst
  · intro ordered
    constructor
    · exact List.nodup_reverse.2 (nodup_eraseDups.filter _)
    · intro key
      simp
    · exact List.pairwise_reverse.2 ordered

/-- The run key of a saved attempt can be listed. -/
theorem listing_of_saved {key : AttemptKey} (saved : key ∈ savedKeys saves) :
    ∃ identity repository tool runKey listed,
      listStaticScanAttemptsForRunKey (savedTable saves) identity repository tool runKey =
        .ok listed ∧ key.scope = runScope identity repository tool runKey := by
  obtain ⟨save, -, keyed⟩ := List.mem_filterMap.1 saved
  cases outcome : save.row with
  | error reason =>
      rw [outcome] at keyed
      cases keyed
  | ok row =>
      rw [outcome] at keyed
      cases keyed
      obtain ⟨accepted, returned⟩ := raiseIf_bind_ok.1 outcome
      obtain ⟨rawRef, -, returned⟩ := except_bind_ok returned
      obtain ⟨coverageRef, -, returned⟩ := except_bind_ok returned
      obtain ⟨requestRef, -, returned⟩ := except_bind_ok returned
      cases returned
      have listable : ¬ (save.identity.hypothesisId ≠ none ∨
          [save.repository, save.tool, save.runKey].any isBlank = true) := by
        simp only [List.any_cons, List.any_nil, Bool.or_false, Bool.or_eq_true, not_or] at accepted ⊢
        exact ⟨accepted.1, accepted.2.1, accepted.2.2.2⟩
      exact ⟨save.identity, save.repository, save.tool, save.runKey, _,
        raiseIf_bind_ok.2 ⟨listable, rfl⟩, rfl⟩

/-- Every listing is by the latest saves exactly when the attempts of each run key were first
saved in the order of their latest saves. -/
theorem listsByLatestSave_iff :
    ListsByLatestSave saves ↔
      LatestLast AttemptKey.scope (savedKeys saves) (savedKeys saves).eraseDups := by
  constructor
  · intro lists
    apply List.pairwise_iff_forall_sublist.2
    intro first second placed together
    have saved : first ∈ savedKeys saves := List.mem_eraseDups.1 (placed.subset List.mem_cons_self)
    obtain ⟨identity, repository, tool, runKey, listed, returned, inScope⟩ := listing_of_saved saved
    have ordered := (byLatestSave_iff (listed_keys returned)).1
      (lists identity repository tool runKey listed returned)
    rw [List.pairwise_filter] at ordered
    exact List.pairwise_iff_forall_sublist.1 ordered placed (decide_eq_true inScope)
      (decide_eq_true (together ▸ inScope))
  · intro ordered identity repository tool runKey listed returned
    rw [byLatestSave_iff (listed_keys returned), List.pairwise_filter]
    apply ordered.imp
    intro first second latest here there
    exact latest ((of_decide_eq_true here).trans (of_decide_eq_true there).symm)

/-- Along a sequence of saves every listing is by the latest saves exactly when no save updates
an attempt behind which another attempt of its run key was inserted. -/
theorem listings_byLatestSave (saves : List ScanSave) :
    (∀ earlier, earlier <+: saves → ListsByLatestSave earlier) ↔
      ∀ earlier save, earlier ++ [save] <+: saves → SavesInOrder (savedTable earlier) save := by
  constructor
  · intro lists earlier save reached row outcome
    have ordered := listsByLatestSave_iff.1 (lists _ reached)
    rw [savedKeys_ok outcome] at ordered
    rw [keys_savedTable]
    exact ordered.not_overtaken
  · intro inOrder earlier reached
    rw [listsByLatestSave_iff]
    induction earlier using List.reverseRecOn with
    | nil => exact .nil
    | append_singleton earlier save ih =>
        have ordered := ih ((List.prefix_append _ _).trans reached)
        cases outcome : save.row with
        | error reason => rwa [savedKeys_error outcome]
        | ok row =>
            have apart := inOrder earlier save reached row outcome
            rw [keys_savedTable] at apart
            rw [savedKeys_ok outcome]
            exact ordered.write apart

end Sastsimi.Static

namespace Sastsimi.Static.Concrete

open Lib Sastsimi.Runtime

/-- A blocked scan of one batch under a coverage fingerprint. -/
def batchSave (fingerprint : String) : ScanSave where
  identity := ⟨"analysis-1", "workspace-1", "commit-1", none⟩
  repository := "owner/repo"
  fingerprint := fingerprint
  tool := "opengrep"
  runKey := "batch-1"
  status := .blocked
  rawRef := none
  coverageRef := none
  errorCode := some "OPENGREP_PARTIAL_SCAN"

/-- An attempt that is saved again after another one was inserted is still listed last. -/
theorem resavedAttempt_listedLast :
    ¬ ListsByLatestSave [batchSave "older", batchSave "newer", batchSave "older"] := by
  rw [listsByLatestSave_iff, LatestLast]
  decide +kernel

end Sastsimi.Static.Concrete
