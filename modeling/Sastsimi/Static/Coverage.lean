import Sastsimi.Lib.Json
import Sastsimi.Lib.Raising
import Mathlib.Data.Finset.Sort
import Mathlib.Data.Finset.Prod
import Mathlib.Data.Prod.Lex
import Mathlib.Data.String.Basic
import Mathlib.Algebra.BigOperators.Group.List.Basic

/-!
# Static coverage

`assess_scan` accepts one engine report and decides which file and rule pairs it verified;
`finish_coverage` joins the slices of all reports; a `StaticCandidateBudget` is charged for
every retained report.

The decoder of a report and the answers of the file system are parameters.  Every read of the
file system has its own answer, since the checkout may change between two reads.
-/

namespace Sastsimi.Static

open Lib

/-- A path and a rule id. -/
abbrev Pair : Type := String × String

/-- `RuleBatch`. -/
structure RuleBatch where
  index : Nat
  ruleIds : List String
  excludedRuleIds : List String
  key : String

/-- `StaticCoveragePlan`; the workspace it binds is the one that the reads are about. -/
structure StaticCoveragePlan where
  fingerprint : String
  expectedPairs : Finset Pair
  unavailablePairs : Finset Pair
  unsupported : List (String × Nat)
  excludedPaths : List String
  unsupportedFiles : List (String × String)

/-- The scanner that wrote a report. -/
inductive Engine where
  | opengrep
  | semgrep
  deriving DecidableEq

/-- `CoverageSlice`, as `assess_scan` returns it: without a reference to the raw artifact. -/
structure CoverageSlice where
  engine : Engine
  batchKey : String
  ruleIds : List String
  verifiedPairs : Finset Pair
  gapReasons : List (String × String × String)
  parsed : Json
  normalizedResults : List Json

structure CoverageGap where
  path : String
  ruleId : String
  reason : String
  deriving DecidableEq

structure StaticCoverageReport where
  fingerprint : String
  expectedCount : Nat
  verifiedCount : Nat
  gaps : List CoverageGap
  unsupported : List (String × Nat)
  excludedPaths : List String
  unsupportedFiles : List (String × String)

/-! ## The candidate budget -/

/-- `StaticCandidateBudget`. -/
structure StaticCandidateBudget where
  maxResults : Option Int := none
  maxRawBytes : Int := 4 * 1024 * 1024 * 1024
  usedResults : Int := 0
  usedRawBytes : Int := 0
  deriving DecidableEq

namespace StaticCandidateBudget

def reserveRaw (budget : StaticCandidateBudget) (size : Int) :
    Except String StaticCandidateBudget :=
  if size > budget.maxRawBytes - budget.usedRawBytes then
    .error "STATIC_CANDIDATES_TOO_LARGE"
  else .ok { budget with usedRawBytes := budget.usedRawBytes + size }

def releaseRaw (budget : StaticCandidateBudget) (size : Int) : StaticCandidateBudget :=
  { budget with usedRawBytes := budget.usedRawBytes - size }

def requireResults (budget : StaticCandidateBudget) (additional : Int) : Except String Unit :=
  match budget.maxResults with
  | some maxResults =>
      if additional > maxResults - budget.usedResults then .error "STATIC_CANDIDATES_TOO_LARGE"
      else .ok ()
  | none => .ok ()

def claimResults (budget : StaticCandidateBudget) (count : Int) :
    Except String StaticCandidateBudget := do
  budget.requireResults count
  return { budget with usedResults := budget.usedResults + count }

end StaticCandidateBudget

/-! ## The surroundings -/

/-- The reads of the file system during one assessment, by the entry that is read. -/
inductive Lookup where
  | scanned (index : Nat)
  | skipped (index : Nat)
  | target (index : Nat)
  | error (index : Nat)
  | result (index : Nat)
  | recheck (index : Nat)
  deriving DecidableEq

/-- What `_safe_relative_from_root` answers at each read. -/
abbrev FileSystem : Type := Lookup → String → Option String

/-- How `json.loads` with the hooks of `parse_rule_batch` fails: with a Unicode or value error,
or with another exception. -/
inductive LoadError where
  | value
  | other (reason : String)

/-- `json.loads` on the bytes of a report. -/
abbrev JsonLoads : Type := List UInt8 → Except LoadError Json

/-! ## Reading a report -/

/-- `json.loads`, as `parse_rule_batch` calls it. -/
def loadReport (loads : JsonLoads) (raw : List UInt8) : Except String Json :=
  match loads raw with
  | .error .value => .error "OPENGREP_RESULT_INVALID"
  | .error (.other reason) => .error reason
  | .ok value => .ok value

/-- The checks of `parse_rule_batch` on one finding. -/
def checkResult (batch : RuleBatch) (item : Json) : Except String Unit := do
  let ruleId ← required ((item.get? "check_id").bind Json.str?) "OPENGREP_BATCH_RULE_MISMATCH"
  raiseIf (ruleId ∉ batch.ruleIds) "OPENGREP_BATCH_RULE_MISMATCH"
  let path ← required ((item.get? "path").bind Json.str?) "OPENGREP_RESULT_INVALID"
  let line ← required (((item.get? "start").bind (·.get? "line")).bind Json.int?)
    "OPENGREP_RESULT_INVALID"
  raiseIf (path = "" ∨ line < 1) "OPENGREP_RESULT_INVALID"

/-- What `parse_rule_batch` returns, with the lists it checked. -/
structure ParsedReport where
  document : Json
  results : List Json
  errors : List Json

/-- `parse_rule_batch`. -/
def parseRuleBatch (loads : JsonLoads) (raw : List UInt8) (batch : RuleBatch)
    (allowErrors : Bool) : Except String ParsedReport := do
  let value ← loadReport loads raw
  raiseIf (value.isObj = false) "OPENGREP_RESULT_INVALID"
  let results ← required ((value.get? "results").bind Json.arr?) "OPENGREP_RESULT_INVALID"
  let errors ← required (value.getD "errors" (.arr [])).arr? "OPENGREP_RESULT_INVALID"
  raiseIf (¬ (results.all Json.isObj ∧ errors.all Json.isObj)) "OPENGREP_RESULT_INVALID"
  raiseIf (errors.isEmpty = false ∧ allowErrors = false) "OPENGREP_PARTIAL_SCAN"
  forM results (checkResult batch)
  return { document := value, results := results, errors := errors }

/-- The text of an entry of a path list: the entry, or its `path`. -/
def entryPath (item : Json) : Option String :=
  if item.isObj then (item.get? "path").bind Json.str? else item.str?

/-- One turn of the loop of `_paths`. -/
def addPath (files : FileSystem) (site : Nat → Lookup) (paths : Finset String)
    (item : Json × Nat) : Except String (Finset String) :=
  match entryPath item.1 with
  | none => .error "STATIC_SCAN_PATHS_INVALID"
  | some raw =>
      match files (site item.2) raw with
      | none => .error "STATIC_SCAN_PATHS_INVALID"
      | some path => .ok (insert path paths)

/-- `_paths`. -/
def readPaths (files : FileSystem) (site : Nat → Lookup) (value : Json) :
    Except String (Finset String) :=
  match value.arr? with
  | none => .error "STATIC_SCAN_PATHS_INVALID"
  | some items => items.zipIdx.foldlM (addPath files site) ∅

/-! ## Assessing a report -/

/-- The pairs a report may verify: those of the batch that are expected and available, and of
its targets when it names targets. -/
def allowedPairs (plan : StaticCoveragePlan) (batch : RuleBatch) :
    Option (Finset String) → Finset Pair
  | none =>
      plan.expectedPairs.filter fun pair =>
        pair ∉ plan.unavailablePairs ∧ pair.2 ∈ batch.ruleIds
  | some targets =>
      (targets ×ˢ batch.ruleIds.toFinset).filter fun pair =>
        pair ∈ plan.expectedPairs ∧ pair ∉ plan.unavailablePairs

/-- The reasons a pair is not verified; the last one noted for a pair stands. -/
abbrev Reasons : Type := Pair → Option String

/-- Note a reason for the allowed pairs that a signal is about. -/
def note (allowed : Finset Pair) (about : Pair → Bool) (reason : Option String → String)
    (reasons : Reasons) : Reasons := fun pair =>
  if pair ∈ allowed ∧ about pair then some (reason (reasons pair)) else reasons pair

/-- Where the file of an error is, when the error names a file that can be read. -/
def errorPath (files : FileSystem) (error : Json × Nat) : Option String :=
  ((error.1.get? "path").bind Json.str?).bind (files (.error error.2))

/-- An error of the type that the scanners report for a timeout. -/
def isTimeout (error : Json) : Bool :=
  (error.get? "type").bind Json.str? == some "Timeout"

/-- One turn of the loop over the errors of a report. -/
def noteError (files : FileSystem) (targets : Option (Finset String)) (allowed : Finset Pair)
    (reasons : Reasons) (error : Json × Nat) : Except String Reasons :=
  match errorPath files error with
  | none => .ok (note allowed (fun _ => true) (fun _ => "unlocated_scan_error") reasons)
  | some path =>
      if targets.any (path ∉ ·) then .error "STATIC_SCAN_SCOPE_MISMATCH"
      else
        .ok (note allowed (·.1 == path)
          (fun noted =>
            if isTimeout error.1 || noted == some "scan_timeout" then "scan_timeout"
            else "parse_or_scan_error") reasons)

/-- The id of an entry of `skipped_rules`: the entry, or its `id`. -/
def entryRule (item : Json) : Option String :=
  if item.isObj then (item.get? "id").bind Json.str? else item.str?

/-- One turn of the loop over the skipped rules of a report. -/
def noteSkippedRule (batch : RuleBatch) (allowed : Finset Pair) (reasons : Reasons)
    (item : Json) : Except String Reasons :=
  match entryRule item with
  | none => .error "STATIC_SCAN_RULES_INVALID"
  | some ruleId =>
      if ruleId ∈ batch.ruleIds then
        .ok (note allowed (·.2 == ruleId) (fun _ => "skipped_rule") reasons)
      else .error "STATIC_SCAN_RULES_INVALID"

/-- The rows kept so far, and the files of the result paths read so far. -/
structure ResultState where
  normalized : List Json := []
  resultPaths : List (String × String) := []

/-- The file of a result, which is read once for every spelling. -/
def resultPath (files : FileSystem) (state : ResultState) (index : Nat) (raw : String) :
    Except String (String × List (String × String)) :=
  match state.resultPaths.lookup raw with
  | some path => .ok (path, state.resultPaths)
  | none =>
      match files (.result index) raw with
      | none => .error "STATIC_SCAN_RESULT_PATH_INVALID"
      | some path => .ok (path, state.resultPaths ++ [(raw, path)])

/-- One turn of the loop over the results of a report; every result has a rule id, since
`parse_rule_batch` asks for it. -/
def normalizeResult (files : FileSystem) (targets : Option (Finset String))
    (allowed verified : Finset Pair) (budget : StaticCandidateBudget) (state : ResultState)
    (result : Json × Nat) : Except String ResultState := do
  let raw ← required ((result.1.get? "path").bind Json.str?) "STATIC_SCAN_RESULT_PATH_INVALID"
  let located ← resultPath files state result.2 raw
  let pair : Pair := (located.1, ((result.1.get? "check_id").bind Json.str?).getD "")
  raiseIf (targets.any (pair.1 ∉ ·)) "STATIC_SCAN_SCOPE_MISMATCH"
  if pair ∈ allowed then do
    budget.requireResults (state.normalized.length + 1)
    return {
      normalized := state.normalized ++
        [(result.1.set "path" (.str pair.1)).set "scan_incomplete"
          (.bool (decide (pair ∉ verified)))]
      resultPaths := located.2 }
  else return { state with resultPaths := located.2 }

/-- Sort pairs by path, then by rule. -/
def sortPairs (pairs : Finset Pair) : List Pair :=
  ((pairs.map toLex.toEmbedding).sort).map ofLex

/-- The files of the targets, when there are targets. -/
def readTargets (files : FileSystem) :
    Option (List String) → Except String (Option (Finset String))
  | none => .ok none
  | some targets => do
      let paths ← readPaths files .target (.arr (targets.map .str))
      return some paths

/-- `_assess_scan`, with the budget it leaves when it returns; when it raises, the budget is as
it was, since only the last statement changes it. -/
def assessParsed (loads : JsonLoads) (files : FileSystem) (plan : StaticCoveragePlan)
    (batch : RuleBatch) (raw : List UInt8) (engine : Engine) (targets : Option (List String))
    (budget : StaticCandidateBudget) : Except String (CoverageSlice × StaticCandidateBudget) := do
  let parsed ← parseRuleBatch loads raw batch true
  let paths := parsed.document.getD "paths" .null
  raiseIf (paths.isObj = false) "STATIC_SCAN_PATHS_INVALID"
  let scanned ← readPaths files .scanned (paths.getD "scanned" .null)
  let skipped ← readPaths files .skipped (paths.getD "skipped" (.arr []))
  let targetSet ← readTargets files targets
  raiseIf (targetSet.any (¬ scanned ∪ skipped ⊆ ·)) "STATIC_SCAN_SCOPE_MISMATCH"
  let allowed := allowedPairs plan batch targetSet
  let afterErrors ← parsed.errors.zipIdx.foldlM (noteError files targetSet allowed) fun _ => none
  let skippedRules ←
    required (parsed.document.getD "skipped_rules" (.arr [])).arr? "STATIC_SCAN_RULES_INVALID"
  let afterRules ← skippedRules.foldlM (noteSkippedRule batch allowed) afterErrors
  let reasons := note allowed (fun pair => decide (pair.1 ∈ skipped)) (fun _ => "skipped_file")
    afterRules
  let verified := allowed.filter fun pair => pair.1 ∈ scanned ∧ reasons pair = none
  let state ← parsed.results.zipIdx.foldlM
    (normalizeResult files targetSet allowed verified budget) {}
  raiseIf (state.resultPaths.zipIdx.any fun entry =>
      files (.recheck entry.2) entry.1.1 ≠ some entry.1.2) "STATIC_SCAN_RESULT_PATH_INVALID"
  let slice : CoverageSlice := {
    engine := engine
    batchKey := batch.key
    ruleIds := batch.ruleIds
    verifiedPairs := verified
    gapReasons := (sortPairs allowed).filterMap fun pair =>
      (reasons pair).map fun reason => (pair.1, pair.2, reason)
    parsed := parsed.document.set "results" (.arr [])
    normalizedResults := state.normalized }
  let claimed ← budget.claimResults state.normalized.length
  return (slice, claimed)

/-- `assess_scan` with a candidate budget: reserve the bytes of the report, and release them
when the assessment raises. -/
def assessScan (loads : JsonLoads) (files : FileSystem) (plan : StaticCoveragePlan)
    (batch : RuleBatch) (raw : List UInt8) (engine : Engine) (targets : Option (List String))
    (budget : StaticCandidateBudget) : StaticCandidateBudget × Except String CoverageSlice :=
  match budget.reserveRaw raw.length with
  | .error reason => (budget, .error reason)
  | .ok reserved =>
      match assessParsed loads files plan batch raw engine targets reserved with
      | .error reason => (reserved.releaseRaw raw.length, .error reason)
      | .ok (slice, claimed) => (claimed, .ok slice)

/-! ## Joining slices -/

/-- The pairs that `finish_coverage` counts as verified. -/
def verifiedPairs (plan : StaticCoveragePlan) (slices : List CoverageSlice) : Finset Pair :=
  slices.foldl (fun pairs slice => pairs ∪ slice.verifiedPairs) ∅ ∩
    (plan.expectedPairs \ plan.unavailablePairs)

/-- The last reason that the slices give for a pair. -/
def gapReason (slices : List CoverageSlice) (pair : Pair) : Option String :=
  ((slices.flatMap (·.gapReasons)).reverse.find? fun (path, ruleId, _) =>
    (path, ruleId) = pair).map fun (_, _, reason) => reason

/-- `finish_coverage`. -/
def finishCoverage (plan : StaticCoveragePlan) (slices : List CoverageSlice) :
    StaticCoverageReport where
  fingerprint := plan.fingerprint
  expectedCount := plan.expectedPairs.card
  verifiedCount := (verifiedPairs plan slices).card
  gaps := (sortPairs (plan.expectedPairs \ verifiedPairs plan slices)).map fun pair =>
    { path := pair.1
      ruleId := pair.2
      reason :=
        if pair ∈ plan.unavailablePairs then "source_unavailable"
        else (gapReason slices pair).getD "not_scanned" }
  unsupported := plan.unsupported
  excludedPaths := plan.excludedPaths
  unsupportedFiles := plan.unsupportedFiles

end Sastsimi.Static
