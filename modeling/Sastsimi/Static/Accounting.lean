import Sastsimi.Lib.Raising
import Sastsimi.Static.Coverage
import Mathlib.Algebra.Ring.Int.Defs

/-!
# Coverage accounting

A pair is verified by a report when the report is about it, lists its file as scanned and gives
no signal against it.  Over any run of assessments that share one budget, the verified pairs are
those that some returned slice verified, the gaps are the other expected pairs, and the budget
holds what the returned slices retain.
-/

namespace Sastsimi.Static

open Lib

/-! ## What a report says -/

/-- The entries of a field that is a list. -/
def Json.entries (document : Json) (key : String) : List Json :=
  (((document.get? key).getD (.arr [])).arr?).getD []

/-- A path is listed under a key of the `paths` of a report. -/
def Lists (files : FileSystem) (site : Nat → Lookup) (document : Json) (key path : String) :
    Prop :=
  ∃ entry ∈ (Json.entries (document.getD "paths" .null) key).zipIdx, ∃ raw,
    entryPath entry.1 = some raw ∧ files (site entry.2) raw = some path

/-- One call of `assess_scan`, with what the file system answers during the call. -/
structure ScanCall where
  batch : RuleBatch
  raw : List UInt8
  engine : Engine
  targets : Option (List String)
  files : FileSystem

/-- The call, with the shared budget. -/
def ScanCall.perform (call : ScanCall) (loads : JsonLoads) (plan : StaticCoveragePlan)
    (budget : StaticCandidateBudget) : StaticCandidateBudget × Except String CoverageSlice :=
  assessScan loads call.files plan call.batch call.raw call.engine call.targets budget

/-- A report is about a pair, lists its file as scanned and gives no signal against it. -/
structure ScanCall.Verifies (call : ScanCall) (document : Json) (pair : Pair) : Prop where
  inBatch : pair.2 ∈ call.batch.ruleIds
  inTargets : ∀ targets, call.targets = some targets →
    ∃ entry ∈ targets.zipIdx, call.files (.target entry.2) entry.1 = some pair.1
  scanned : Lists call.files .scanned document "scanned" pair.1
  noErrorOnPath : ∀ error ∈ (Json.entries document "errors").zipIdx,
    errorPath call.files error ≠ some pair.1
  noUnlocatedError : ∀ error ∈ (Json.entries document "errors").zipIdx,
    errorPath call.files error ≠ none
  fileNotSkipped : ¬ Lists call.files .skipped document "skipped" pair.1
  ruleNotSkipped : ∀ item ∈ Json.entries document "skipped_rules",
    entryRule item ≠ some pair.2

/-! ## Paths -/

variable {loads : JsonLoads} {files : FileSystem} {plan : StaticCoveragePlan} {batch : RuleBatch}
  {allowed : Finset Pair} {targets : Option (Finset String)} {site : Nat → Lookup}

theorem addPath_ok {paths after : Finset String} {item : Json × Nat}
    (added : addPath files site paths item = .ok after) (path : String) :
    path ∈ after ↔ path ∈ paths ∨ ∃ raw, entryPath item.1 = some raw ∧
      files (site item.2) raw = some path := by
  unfold addPath at added
  split at added
  · cases added
  · rename_i raw entry
    split at added
    · cases added
    · rename_i found located
      cases added
      simp [entry, located, Finset.mem_insert, eq_comm, or_comm]

/-- `_paths` returns the files of all entries. -/
theorem readPaths_ok {items : List Json} {paths : Finset String}
    (returned : readPaths files site (.arr items) = .ok paths) (path : String) :
    path ∈ paths ↔ ∃ entry ∈ items.zipIdx, ∃ raw,
      entryPath entry.1 = some raw ∧ files (site entry.2) raw = some path := by
  have loop := foldlM_adds (path ∈ ·) (fun _ added => addPath_ok added path) returned
  simpa using loop

/-- The paths read under a key are those that the report lists there. -/
theorem readPaths_lists {document : Json} {key : String} {fallback : Json} {paths : Finset String}
    (noEntries : fallback = .null ∨ fallback = .arr [])
    (returned : readPaths files site ((document.getD "paths" .null).getD key fallback) = .ok paths)
    (path : String) : path ∈ paths ↔ Lists files site document key path := by
  have listed : (((document.getD "paths" .null).getD key fallback).arr?).getD [] =
      Json.entries (document.getD "paths" .null) key := by
    unfold Json.entries Json.getD
    cases (((document.get? "paths").getD Json.null).get? key) with
    | some value => rfl
    | none => rcases noEntries with rfl | rfl <;> rfl
  rw [Lists, ← listed]
  cases value : (document.getD "paths" .null).getD key fallback with
  | arr items => rw [value] at returned; exact readPaths_ok returned path
  | _ => rw [value] at returned; cases returned

/-- The files of the targets. -/
theorem readPaths_targets {names : List String} {paths : Finset String}
    (returned : readPaths files .target (.arr (names.map .str)) = .ok paths) (path : String) :
    path ∈ paths ↔ ∃ entry ∈ names.zipIdx, files (.target entry.2) entry.1 = some path := by
  rw [readPaths_ok returned path, List.zipIdx_map]
  constructor
  · rintro ⟨_, listed, raw, entry, located⟩
    obtain ⟨named, member, rfl⟩ := List.mem_map.1 listed
    cases entry
    exact ⟨named, member, located⟩
  · rintro ⟨named, member, located⟩
    exact ⟨_, List.mem_map_of_mem member, named.1, rfl, located⟩

/-! ## Signals -/

/-- The allowed pairs of a report. -/
theorem mem_allowedPairs {pair : Pair} : pair ∈ allowedPairs plan batch targets ↔
    pair ∈ plan.expectedPairs ∧ pair ∉ plan.unavailablePairs ∧ pair.2 ∈ batch.ruleIds ∧
      ∀ paths, targets = some paths → pair.1 ∈ paths := by
  cases targets with
  | none => simp [allowedPairs]
  | some paths =>
      simp only [allowedPairs, Finset.mem_filter, Finset.mem_product, List.mem_toFinset,
        Option.some.injEq, forall_eq']
      tauto

/-- A signal leaves a reason at the allowed pairs it is about, and takes none away. -/
theorem note_ne_none {about : Pair → Bool} {reason : Option String → String} {reasons : Reasons}
    {pair : Pair} (member : pair ∈ allowed) :
    note allowed about reason reasons pair ≠ none ↔ reasons pair ≠ none ∨ about pair = true := by
  unfold note
  by_cases signal : about pair = true
  · simp [member, signal]
  · simp [member, signal]

theorem noteError_ok {reasons after : Reasons} {error : Json × Nat} {pair : Pair}
    (member : pair ∈ allowed) (noted : noteError files targets allowed reasons error = .ok after) :
    after pair ≠ none ↔ reasons pair ≠ none ∨
      (errorPath files error = none ∨ errorPath files error = some pair.1) := by
  unfold noteError at noted
  split at noted
  · rename_i unlocated
    cases noted
    rw [note_ne_none member]
    simp [unlocated]
  · rename_i path located
    split at noted
    · cases noted
    · cases noted
      rw [note_ne_none member, beq_iff_eq, @eq_comm _ pair.1 path]
      simp [located]

theorem noteSkippedRule_ok {reasons after : Reasons} {item : Json} {pair : Pair}
    (member : pair ∈ allowed) (noted : noteSkippedRule batch allowed reasons item = .ok after) :
    after pair ≠ none ↔ reasons pair ≠ none ∨ entryRule item = some pair.2 := by
  unfold noteSkippedRule at noted
  split at noted
  · cases noted
  · rename_i ruleId named
    split at noted
    · cases noted
      rw [note_ne_none member, beq_iff_eq, @eq_comm _ pair.2 ruleId]
      simp [named]
    · cases noted

/-- After the errors, the skipped rules and the skipped files, a pair has no reason exactly when
no signal of the report is about it. -/
theorem reasons_none {errors skippedRules : List Json} {skipped : Finset String}
    {afterErrors afterRules : Reasons} {pair : Pair} (member : pair ∈ allowed)
    (errorsNoted : errors.zipIdx.foldlM (noteError files targets allowed) (fun _ => none) =
      .ok afterErrors)
    (rulesNoted : skippedRules.foldlM (noteSkippedRule batch allowed) afterErrors =
      .ok afterRules) :
    note allowed (fun pair => decide (pair.1 ∈ skipped)) (fun _ => "skipped_file") afterRules pair
        = none ↔
      (∀ error ∈ errors.zipIdx, errorPath files error ≠ some pair.1) ∧
      (∀ error ∈ errors.zipIdx, errorPath files error ≠ none) ∧
      pair.1 ∉ skipped ∧ ∀ item ∈ skippedRules, entryRule item ≠ some pair.2 := by
  have fromErrors :=
    foldlM_adds (· pair ≠ none) (fun _ noted => noteError_ok member noted) errorsNoted
  have fromRules :=
    foldlM_adds (· pair ≠ none) (fun _ noted => noteSkippedRule_ok member noted) rulesNoted
  rw [← not_iff_not, ← ne_eq, note_ne_none member, fromRules, fromErrors]
  simp only [ne_eq, not_true_eq_false, false_or, decide_eq_true_eq, not_and_or, not_forall,
    not_not, exists_prop]
  constructor
  · rintro ((⟨error, reported, unlocated | located⟩ | skippedRule) | skippedFile)
    · exact .inr (.inl ⟨error, reported, unlocated⟩)
    · exact .inl ⟨error, reported, located⟩
    · exact .inr (.inr (.inr skippedRule))
    · exact .inr (.inr (.inl skippedFile))
  · rintro (⟨error, reported, located⟩ | ⟨error, reported, unlocated⟩ | skippedFile | skippedRule)
    · exact .inl (.inl ⟨error, reported, .inr located⟩)
    · exact .inl (.inl ⟨error, reported, .inl unlocated⟩)
    · exact .inr skippedFile
    · exact .inl (.inr skippedRule)

/-! ## Rows -/

theorem field_eq_str {document : Json} {key text : String}
    (found : (document.get? key).bind Json.str? = some text) :
    document.get? key = some (.str text) := by
  obtain ⟨value, present, isText⟩ := Option.bind_eq_some_iff.1 found
  rw [present, Json.str?_eq_some.1 isText]

theorem checkResult_ok {item : Json} (checked : checkResult batch item = .ok ()) :
    ∃ ruleId, item.get? "check_id" = some (.str ruleId) := by
  obtain ⟨ruleId, named, -⟩ := except_bind_ok checked
  exact ⟨ruleId, field_eq_str (required_ok.1 named)⟩

/-- An accepted document: its errors, and its findings, which are objects with a rule id. -/
structure Accepted (loads : JsonLoads) (raw : List UInt8) (parsed : ParsedReport) : Prop where
  loaded : loads raw = .ok parsed.document
  errors : parsed.errors = Json.entries parsed.document "errors"
  results : ∀ result ∈ parsed.results, result.isObj = true ∧
    ∃ ruleId, result.get? "check_id" = some (.str ruleId)

theorem loadReport_ok {raw : List UInt8} {value : Json}
    (returned : loadReport loads raw = .ok value) : loads raw = .ok value := by
  unfold loadReport at returned
  split at returned
  · cases returned
  · cases returned
  · cases returned
    assumption

theorem parseRuleBatch_ok {raw : List UInt8} {parsed : ParsedReport}
    (returned : parseRuleBatch loads raw batch true = .ok parsed) :
    Accepted loads raw parsed := by
  obtain ⟨value, loaded, returned⟩ := except_bind_ok returned
  obtain ⟨-, returned⟩ := raiseIf_bind_ok.1 returned
  obtain ⟨results, -, returned⟩ := except_bind_ok returned
  obtain ⟨errors, errorsListed, returned⟩ := except_bind_ok returned
  obtain ⟨objects, returned⟩ := raiseIf_bind_ok.1 returned
  obtain ⟨-, returned⟩ := raiseIf_bind_ok.1 returned
  obtain ⟨_, checked, returned⟩ := except_bind_ok returned
  cases returned
  have errorsListed : (value.getD "errors" (.arr [])).arr? = some errors :=
    required_ok.1 errorsListed
  have shapes := (not_not.1 objects).1
  constructor
  · exact loadReport_ok loaded
  · rw [Json.entries, ← Json.getD, errorsListed]
    rfl
  · intro result member
    exact ⟨List.all_eq_true.1 shapes result member, checkResult_ok (forM_ok checked result member)⟩

/-- A row names its pair, and is marked exactly when the pair is not verified. -/
def RowMarked (verified : Finset Pair) (row : Json) : Prop :=
  ∃ path ruleId, row.get? "path" = some (.str path) ∧
    row.get? "check_id" = some (.str ruleId) ∧
    row.get? "scan_incomplete" = some (.bool (decide ((path, ruleId) ∉ verified)))

theorem normalizeResult_ok {verified : Finset Pair} {budget : StaticCandidateBudget}
    {state after : ResultState} {result : Json × Nat} (isObject : result.1.isObj = true)
    (hasRule : ∃ ruleId, result.1.get? "check_id" = some (.str ruleId))
    (normalized : normalizeResult files targets allowed verified budget state result = .ok after)
    (marked : ∀ row ∈ state.normalized, RowMarked verified row) :
    ∀ row ∈ after.normalized, RowMarked verified row := by
  obtain ⟨ruleId, named⟩ := hasRule
  obtain ⟨raw, -, normalized⟩ := except_bind_ok normalized
  obtain ⟨located, -, normalized⟩ := except_bind_ok normalized
  obtain ⟨-, normalized⟩ := raiseIf_bind_ok.1 normalized
  split at normalized
  · obtain ⟨_, -, kept⟩ := except_bind_ok normalized
    cases kept
    intro row member
    rcases List.mem_append.1 member with old | new
    · exact marked row old
    · cases List.mem_singleton.1 new
      refine ⟨located.1, ruleId, ?_, ?_, ?_⟩
      · rw [Json.get?_set_other (by decide), Json.get?_set_same isObject]
      · rw [Json.get?_set_other (by decide), Json.get?_set_other (by decide), named]
      · rw [Json.get?_set_same (by rw [Json.isObj_set, isObject]), named]
        rfl
  · cases normalized
    exact marked

/-! ## One assessment -/

/-- What one returned slice says, and what the assessment did to the budget. -/
structure Assessed (loads : JsonLoads) (plan : StaticCoveragePlan) (call : ScanCall)
    (slice : CoverageSlice) : Prop where
  verified : ∀ pair, pair ∈ slice.verifiedPairs ↔
    pair ∈ plan.expectedPairs ∧ pair ∉ plan.unavailablePairs ∧
      ∃ document, loads call.raw = .ok document ∧ call.Verifies document pair
  rows : ∀ row ∈ slice.normalizedResults, RowMarked slice.verifiedPairs row

theorem claimResults_ok {budget claimed : StaticCandidateBudget} {count : Int}
    (returned : budget.claimResults count = .ok claimed) :
    claimed = { budget with usedResults := budget.usedResults + count } := by
  obtain ⟨_, -, changed⟩ := except_bind_ok returned
  cases changed
  rfl

theorem readTargets_ok {names : Option (List String)}
    (returned : readTargets files names = .ok targets) (path : String) :
    (∀ paths, targets = some paths → path ∈ paths) ↔ ∀ listed, names = some listed →
      ∃ entry ∈ listed.zipIdx, files (.target entry.2) entry.1 = some path := by
  cases names with
  | none =>
      cases returned
      simp
  | some listed =>
      obtain ⟨paths, read, returned⟩ := except_bind_ok returned
      cases returned
      simp only [Option.some.injEq, forall_eq']
      exact readPaths_targets read path

/-- The pairs that an assessment verifies are the expected and available ones that its report
verifies. -/
theorem mem_verified {call : ScanCall} {document : Json} {scanned skipped : Finset String}
    {afterErrors afterRules : Reasons}
    (scannedRead : ∀ path, path ∈ scanned ↔ Lists call.files .scanned document "scanned" path)
    (skippedRead : ∀ path, path ∈ skipped ↔ Lists call.files .skipped document "skipped" path)
    (targetsRead : ∀ path, (∀ paths, targets = some paths → path ∈ paths) ↔
      ∀ listed, call.targets = some listed →
        ∃ entry ∈ listed.zipIdx, call.files (.target entry.2) entry.1 = some path)
    (errorsNoted : (Json.entries document "errors").zipIdx.foldlM
      (noteError call.files targets (allowedPairs plan call.batch targets)) (fun _ => none) =
        .ok afterErrors)
    (rulesNoted : (Json.entries document "skipped_rules").foldlM
      (noteSkippedRule call.batch (allowedPairs plan call.batch targets)) afterErrors =
        .ok afterRules)
    (pair : Pair) :
    (pair ∈ allowedPairs plan call.batch targets ∧ pair.1 ∈ scanned ∧
        note (allowedPairs plan call.batch targets) (fun pair => decide (pair.1 ∈ skipped))
          (fun _ => "skipped_file") afterRules pair = none) ↔
      pair ∈ plan.expectedPairs ∧ pair ∉ plan.unavailablePairs ∧
        call.Verifies document pair := by
  constructor
  · rintro ⟨member, listed, unreasoned⟩
    obtain ⟨expected, available, inBatch, inTargets⟩ := mem_allowedPairs.1 member
    obtain ⟨located, unlocated, kept, rules⟩ :=
      (reasons_none member errorsNoted rulesNoted).1 unreasoned
    exact ⟨expected, available, {
      inBatch := inBatch
      inTargets := (targetsRead pair.1).1 inTargets
      scanned := (scannedRead pair.1).1 listed
      noErrorOnPath := located
      noUnlocatedError := unlocated
      fileNotSkipped := fun skips => kept ((skippedRead pair.1).2 skips)
      ruleNotSkipped := rules }⟩
  · rintro ⟨expected, available, verifies⟩
    have member : pair ∈ allowedPairs plan call.batch targets :=
      mem_allowedPairs.2 ⟨expected, available, verifies.inBatch,
        (targetsRead pair.1).2 verifies.inTargets⟩
    refine ⟨member, (scannedRead pair.1).2 verifies.scanned, ?_⟩
    apply (reasons_none member errorsNoted rulesNoted).2
    exact ⟨verifies.noErrorOnPath, verifies.noUnlocatedError,
      fun skips => verifies.fileNotSkipped ((skippedRead pair.1).1 skips),
      verifies.ruleNotSkipped⟩

theorem assessParsed_ok {call : ScanCall} {budget claimed : StaticCandidateBudget}
    {slice : CoverageSlice}
    (returned : assessParsed loads call.files plan call.batch call.raw call.engine call.targets
      budget = .ok (slice, claimed)) :
    Assessed loads plan call slice ∧ claimed =
      { budget with usedResults := budget.usedResults + slice.normalizedResults.length } := by
  obtain ⟨parsed, accepted, returned⟩ := except_bind_ok returned
  obtain ⟨-, returned⟩ := raiseIf_bind_ok.1 returned
  obtain ⟨scanned, scannedRead, returned⟩ := except_bind_ok returned
  obtain ⟨skipped, skippedRead, returned⟩ := except_bind_ok returned
  obtain ⟨targetSet, targetsRead, returned⟩ := except_bind_ok returned
  obtain ⟨-, returned⟩ := raiseIf_bind_ok.1 returned
  obtain ⟨afterErrors, errorsNoted, returned⟩ := except_bind_ok returned
  obtain ⟨skippedRules, rulesListed, returned⟩ := except_bind_ok returned
  obtain ⟨afterRules, rulesNoted, returned⟩ := except_bind_ok returned
  obtain ⟨state, normalized, returned⟩ := except_bind_ok returned
  obtain ⟨-, returned⟩ := raiseIf_bind_ok.1 returned
  obtain ⟨claimedBudget, resultsClaimed, returned⟩ := except_bind_ok returned
  cases returned
  have accepted := parseRuleBatch_ok accepted
  have rulesListed : skippedRules = Json.entries parsed.document "skipped_rules" := by
    rw [Json.entries, ← Json.getD, required_ok.1 rulesListed]
    rfl
  have errorsNoted := accepted.errors ▸ errorsNoted
  have rulesNoted := rulesListed ▸ rulesNoted
  refine ⟨⟨fun pair => ?_, ?_⟩, claimResults_ok resultsClaimed⟩
  · have verdict := mem_verified (readPaths_lists (.inl rfl) scannedRead)
      (readPaths_lists (.inr rfl) skippedRead) (readTargets_ok targetsRead) errorsNoted rulesNoted
    rw [Finset.mem_filter, verdict pair, accepted.loaded]
    simp
  · have marked : ∀ row ∈ state.normalized, RowMarked _ row :=
      foldlM_keeps (fun member turned kept =>
        have shape := accepted.results _ (List.fst_mem_of_mem_zipIdx member)
        normalizeResult_ok shape.1 shape.2 turned kept) normalized (by simp)
    exact marked

/-- A call that returns keeps the bytes of its report and its rows in the budget. -/
theorem ScanCall.perform_ok {call : ScanCall} {budget after : StaticCandidateBudget}
    {slice : CoverageSlice} (returned : call.perform loads plan budget = (after, .ok slice)) :
    Assessed loads plan call slice ∧ after =
      { budget with
        usedRawBytes := budget.usedRawBytes + call.raw.length
        usedResults := budget.usedResults + slice.normalizedResults.length } := by
  unfold ScanCall.perform assessScan at returned
  split at returned
  · cases returned
  · rename_i reserved reserves
    split at returned
    · cases returned
    · rename_i assessed
      cases returned
      obtain ⟨account, claimed⟩ := assessParsed_ok assessed
      unfold StaticCandidateBudget.reserveRaw at reserves
      split at reserves
      · cases reserves
      · cases reserves
        exact ⟨account, claimed⟩

/-- A call that raises leaves the budget as it was. -/
theorem ScanCall.perform_error {call : ScanCall} {budget after : StaticCandidateBudget}
    {reason : String} (raised : call.perform loads plan budget = (after, .error reason)) :
    after = budget := by
  unfold ScanCall.perform assessScan at raised
  split at raised
  · cases raised
    rfl
  · rename_i reserved reserves
    split at raised
    · cases raised
      unfold StaticCandidateBudget.reserveRaw at reserves
      split at reserves
      · cases reserves
      · cases reserves
        simp [StaticCandidateBudget.releaseRaw]
    · cases raised

/-! ## Runs -/

/-- The budget after a run of calls that share it, and the slices that were returned. -/
def performScans (loads : JsonLoads) (plan : StaticCoveragePlan) :
    StaticCandidateBudget → List ScanCall →
      StaticCandidateBudget × List (ScanCall × CoverageSlice)
  | budget, [] => (budget, [])
  | budget, call :: rest =>
      match call.perform loads plan budget with
      | (after, .error _) => performScans loads plan after rest
      | (after, .ok slice) =>
          let later := performScans loads plan after rest
          (later.1, (call, slice) :: later.2)

/-- The slices of a run. -/
def slices (returned : List (ScanCall × CoverageSlice)) : List CoverageSlice :=
  returned.map (·.2)

theorem performScans_assessed (loads : JsonLoads) (plan : StaticCoveragePlan)
    (calls : List ScanCall) (budget : StaticCandidateBudget) :
    ∀ entry ∈ (performScans loads plan budget calls).2, Assessed loads plan entry.1 entry.2 := by
  induction calls generalizing budget with
  | nil => exact fun _ member => absurd member List.not_mem_nil
  | cons call rest ih =>
      rw [performScans]
      split
      · exact ih _
      · rename_i after slice returned
        intro entry member
        rcases List.mem_cons.1 member with rfl | later
        · exact (ScanCall.perform_ok returned).1
        · exact ih _ entry later

/-- A run adds to the budget what its returned slices retain. -/
theorem performScans_budget (loads : JsonLoads) (plan : StaticCoveragePlan)
    (calls : List ScanCall) (budget : StaticCandidateBudget) :
    (performScans loads plan budget calls).1 =
      { budget with
        usedRawBytes := budget.usedRawBytes +
          ((performScans loads plan budget calls).2.map fun entry => (entry.1.raw.length : Int)).sum
        usedResults := budget.usedResults + ((performScans loads plan budget calls).2.map
          fun entry => (entry.2.normalizedResults.length : Int)).sum } := by
  induction calls generalizing budget with
  | nil => simp [performScans]
  | cons call rest ih =>
      rw [performScans]
      split
      · rename_i after reason raised
        rw [ScanCall.perform_error raised]
        exact ih budget
      · rename_i after slice returned
        have charged := (ScanCall.perform_ok returned).2
        rw [ih after, charged]
        simp [add_assoc]

/-! ## Joining the slices -/

theorem mem_foldl_union {parts : List CoverageSlice} {pairs : Finset Pair} {pair : Pair} :
    pair ∈ parts.foldl (fun pairs slice => pairs ∪ slice.verifiedPairs) pairs ↔
      pair ∈ pairs ∨ ∃ slice ∈ parts, pair ∈ slice.verifiedPairs := by
  induction parts generalizing pairs with
  | nil => simp
  | cons slice rest ih => simp [ih, or_assoc]

theorem mem_verifiedPairs {parts : List CoverageSlice} {pair : Pair} :
    pair ∈ verifiedPairs plan parts ↔ (∃ slice ∈ parts, pair ∈ slice.verifiedPairs) ∧
      pair ∈ plan.expectedPairs ∧ pair ∉ plan.unavailablePairs := by
  simp [verifiedPairs, mem_foldl_union]

/-- More slices verify more pairs. -/
theorem verifiedPairs_mono {parts more : List CoverageSlice} (included : parts ⊆ more) :
    verifiedPairs plan parts ⊆ verifiedPairs plan more := by
  intro pair verified
  obtain ⟨⟨slice, member, verifies⟩, expected⟩ := mem_verifiedPairs.1 verified
  exact mem_verifiedPairs.2 ⟨⟨slice, included member, verifies⟩, expected⟩

theorem mem_sortPairs {pairs : Finset Pair} {pair : Pair} :
    pair ∈ sortPairs pairs ↔ pair ∈ pairs := by
  simp [sortPairs]

theorem sortPairs_nodup (pairs : Finset Pair) : (sortPairs pairs).Nodup :=
  (Finset.sort_nodup _ _).map ofLex.injective

/-- The pairs of the gaps of a report. -/
def StaticCoverageReport.gapPairs (report : StaticCoverageReport) : List Pair :=
  report.gaps.map fun gap => (gap.path, gap.ruleId)

/-- The gaps are the expected pairs that no slice verified, each once. -/
theorem gapPairs_finishCoverage (parts : List CoverageSlice) :
    (finishCoverage plan parts).gapPairs =
      sortPairs (plan.expectedPairs \ verifiedPairs plan parts) := by
  rw [StaticCoverageReport.gapPairs, finishCoverage, List.map_map]
  exact List.map_id _

/-! ## The accounting -/

/-- The account of a run: the slices returned for its calls, and the budget it left. -/
structure Accounted (loads : JsonLoads) (plan : StaticCoveragePlan)
    (returned : List (ScanCall × CoverageSlice)) (budget : StaticCandidateBudget) : Prop where
  /-- A pair is verified exactly when it is expected, available and verified by the report of
  some returned slice. -/
  verified : ∀ pair, pair ∈ verifiedPairs plan (slices returned) ↔
    pair ∈ plan.expectedPairs ∧ pair ∉ plan.unavailablePairs ∧ ∃ entry ∈ returned, ∃ document,
      loads entry.1.raw = .ok document ∧ entry.1.Verifies document pair
  /-- Verified pairs and gaps partition the expected pairs. -/
  partitioned : (finishCoverage plan (slices returned)).gapPairs.Nodup ∧ ∀ pair,
    (pair ∈ plan.expectedPairs ↔ pair ∈ verifiedPairs plan (slices returned) ∨
      pair ∈ (finishCoverage plan (slices returned)).gapPairs) ∧
    ¬ (pair ∈ verifiedPairs plan (slices returned) ∧
      pair ∈ (finishCoverage plan (slices returned)).gapPairs)
  /-- The report counts both parts. -/
  counted : (finishCoverage plan (slices returned)).verifiedCount +
    (finishCoverage plan (slices returned)).gaps.length =
      (finishCoverage plan (slices returned)).expectedCount
  /-- A row is marked incomplete exactly when its own slice does not verify its pair. -/
  rows : ∀ entry ∈ returned, ∀ row ∈ entry.2.normalizedResults,
    RowMarked entry.2.verifiedPairs row
  /-- Adding slices removes no verified pair. -/
  monotone : ∀ more, slices returned ⊆ more →
    verifiedPairs plan (slices returned) ⊆ verifiedPairs plan more
  /-- The budget holds the bytes and rows of the returned slices. -/
  rawBytes : budget.usedRawBytes = (returned.map fun entry => (entry.1.raw.length : Int)).sum
  results : budget.usedResults =
    (returned.map fun entry => (entry.2.normalizedResults.length : Int)).sum

/-- Every run of assessments that share one new budget is accounted for. -/
theorem coverage_accounted (loads : JsonLoads) (plan : StaticCoveragePlan)
    (calls : List ScanCall) (maxResults : Option Int) (maxRawBytes : Int) :
    let run := performScans loads plan { maxResults, maxRawBytes } calls
    Accounted loads plan run.2 run.1 := by
  intro run
  have assessed : ∀ entry ∈ run.2, Assessed loads plan entry.1 entry.2 :=
    performScans_assessed loads plan calls _
  have charged : run.1 = _ := performScans_budget loads plan calls _
  have included : verifiedPairs plan (slices run.2) ⊆ plan.expectedPairs :=
    fun pair verified => (mem_verifiedPairs.1 verified).2.1
  constructor
  · intro pair
    rw [mem_verifiedPairs]
    constructor
    · rintro ⟨⟨slice, member, verifies⟩, expected, available⟩
      obtain ⟨entry, listed, rfl⟩ := List.mem_map.1 member
      exact ⟨expected, available, entry, listed,
        (((assessed entry listed).verified pair).1 verifies).2.2⟩
    · rintro ⟨expected, available, entry, listed, verifies⟩
      exact ⟨⟨entry.2, List.mem_map_of_mem listed,
        ((assessed entry listed).verified pair).2 ⟨expected, available, verifies⟩⟩,
        expected, available⟩
  · rw [gapPairs_finishCoverage]
    refine ⟨sortPairs_nodup _, fun pair => ?_⟩
    rw [mem_sortPairs, Finset.mem_sdiff]
    constructor
    · have expected := @included pair
      tauto
    · tauto
  · have gaps : (finishCoverage plan (slices run.2)).gaps.length =
        (plan.expectedPairs \ verifiedPairs plan (slices run.2)).card := by
      simp [finishCoverage, sortPairs]
    rw [gaps, Finset.card_sdiff_of_subset included]
    exact Nat.add_sub_cancel' (Finset.card_le_card included)
  · exact fun entry listed => (assessed entry listed).rows
  · exact fun more included => verifiedPairs_mono included
  · rw [charged]
    simp [run]
  · rw [charged]
    simp [run]

end Sastsimi.Static
