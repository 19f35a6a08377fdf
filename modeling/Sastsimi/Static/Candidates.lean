import Mathlib.Data.List.Sort
import Mathlib.Order.Basic
import Sastsimi.Lib.JsonForms
import Sastsimi.Lib.RoundRobin
import Sastsimi.Static.Coverage

/-!
# Merged static candidates

`merge_static_candidates` joins the verified hits of all slices: hits with the same evidence are
one candidate with the engines of all of them, and the candidates of the rules take turns.
`merge_static_candidates_preview` selects a bounded number of them, with a share for every rule.

The hash of the evidence is a parameter.  A fraction in a hit is the text that it is written with.
-/

namespace Sastsimi.Static

open Lib Json

/-! ## Hits -/

/-- What the merges read of a `RuleBatchPlan`. -/
structure RuleBatchPlan where
  fingerprint : String
  ruleIds : List String

/-- A `CoverageSlice` with the reference to its raw artifact, and dictionaries as hits. -/
structure ScanSlice extends CoverageSlice where
  rawRef : Option Json
  numbered : ∀ item ∈ normalizedResults, item.numbered = true
  unique : ∀ item ∈ normalizedResults, item.uniqueKeys = true

/-- What the merges read of a hit. -/
structure Hit where
  ruleId : String
  path : String
  line : Int
  item : Json

/-- The rule of a hit. -/
def ruleOf (item : Json) : Option String := (item.get? "check_id").bind str?

/-- The line of a hit. -/
def lineOf (item : Json) : Option Int := ((item.get? "start").bind (·.get? "line")).bind int?

/-- The checks of a hit, which are those of both merges. -/
def readHit (known : List String) (item : Json) : Except String Hit :=
  match ruleOf item, (item.get? "path").bind str?, lineOf item with
  | some ruleId, some path, some line =>
      if ruleId ∈ known then .ok ⟨ruleId, path, line, item⟩ else .error "STATIC_CANDIDATE_INVALID"
  | _, _, _ => .error "STATIC_CANDIDATE_INVALID"

/-- The slice verified the file and rule of the hit. -/
def ScanSlice.verifies (slice : ScanSlice) (hit : Hit) : Bool :=
  decide ((hit.path, hit.ruleId) ∈ slice.verifiedPairs)

/-- An object without a member. -/
def without (key : String) : Json → Json
  | .obj fields => .obj (fields.filter fun field => field.1 != key)
  | value => value

/-- The text of a hit without `scan_incomplete`. -/
def evidenceText (item : Json) : List Char := (without "scan_incomplete" item).sorted.text

/-- A value counts as true. -/
def truthy : Json → Bool
  | .null => false
  | .bool value => value
  | .int value => value != 0
  | .float text => text != "0.0" && text != "-0.0"
  | .str value => value != ""
  | .arr items => !items.isEmpty
  | .obj fields => !fields.isEmpty

/-- `item.get("scan_incomplete")` counts as true. -/
def isIncomplete (item : Json) : Bool := (item.get? "scan_incomplete").any truthy

def Engine.text : Engine → String
  | .opengrep => "opengrep"
  | .semgrep => "semgrep"

/-- Add an engine to the engines of a candidate. -/
def noteEngine (engines : List Engine) (engine : Engine) : List Engine :=
  if engine ∈ engines then engines else engines ++ [engine]

/-! ## Merging -/

/-- A hit with its `engine` and `engines`. -/
structure MergedCandidate where
  item : Json
  engine : Engine
  engines : List Engine

def MergedCandidate.json (candidate : MergedCandidate) : Json :=
  (candidate.item.set "engine" (.str candidate.engine.text)).set "engines"
    (.arr (candidate.engines.map fun engine => .str engine.text))

/-- `previous.update(candidate)`. -/
def updated : Json → Json → Json
  | .obj previous, .obj candidate =>
      .obj (candidate.foldl (fun fields field => assign field.1 field.2 fields) previous)
  | previous, _ => previous

/-- Merge a candidate with the same evidence. -/
def MergedCandidate.absorb (previous candidate : MergedCandidate) : MergedCandidate :=
  let engines := noteEngine previous.engines candidate.engine
  if isIncomplete previous.item && !isIncomplete candidate.item then
    { item := updated previous.item candidate.item, engine := candidate.engine, engines }
  else { previous with engines }

/-- `seen`, and the candidates of every rule by their evidence. -/
structure MergeState where
  seen : List (String × MergedCandidate) := []
  buckets : String → List String := fun _ => []

mutual

/-- The text of a value with spaces behind commas and colons. -/
def spacedText : Json → List Char
  | .arr (first :: rest) => '[' :: (spacedText first ++ (spacedItems rest ++ [']']))
  | .obj ((key, value) :: rest) =>
      '\x7b' :: (quoted key ++ ':' :: ' ' :: (spacedText value ++ (spacedFields rest ++ ['\x7d'])))
  | value => value.text

def spacedItems : List Json → List Char
  | [] => []
  | value :: rest => ',' :: ' ' :: (spacedText value ++ spacedItems rest)

def spacedFields : List (String × Json) → List Char
  | [] => []
  | (key, value) :: rest =>
      ',' :: ' ' :: (quoted key ++ ':' :: ' ' :: (spacedText value ++ spacedFields rest))

end

/-- `_SNIPPET_LIMIT`. -/
def snippetLimit : Nat := 500

/-- What `merge_static_candidates` dumps. -/
structure MergedCandidates where
  planFingerprint : String
  ruleIds : List String
  results : List MergedCandidate
  batches : List ScanSlice
  candidateSnippetsTruncated : Bool

/-- What the preview says of a slice. -/
def ScanSlice.batch (slice : ScanSlice) : List (String × Json) :=
  [("key", .str slice.batchKey), ("rule_ids", .arr (slice.ruleIds.map .str)),
    ("engine", .str slice.engine.text), ("raw_ref", slice.rawRef.getD .null)]

/-- The text that `merge_static_candidates` returns. -/
def MergedCandidates.text (merged : MergedCandidates) : List Char :=
  (Json.obj [("kind", .str "simple_static_merged_candidates_v1"),
    ("plan_fingerprint", .str merged.planFingerprint),
    ("rule_ids", .arr (merged.ruleIds.map .str)), ("results", .arr (merged.results.map (·.json))),
    ("errors", .arr []),
    ("batches", .arr (merged.batches.map fun slice => .obj (slice.batch ++
      [("paths", slice.parsed.getD "paths" (.obj [])),
        ("errors", slice.parsed.getD "errors" (.arr []))]))),
    ("candidate_snippet_limit", .int snippetLimit),
    ("candidate_snippets_truncated", .bool merged.candidateSnippetsTruncated)]).sorted.text

/-- A candidate of the preview. -/
structure PreviewCandidate where
  checkId : String
  path : String
  line : Int
  col : Option Int
  engine : Engine
  engines : List Engine
  scanIncomplete : Bool
  candidateDigest : String

def PreviewCandidate.json (candidate : PreviewCandidate) : Json :=
  .obj [("check_id", .str candidate.checkId), ("path", .str candidate.path),
    ("start", .obj (("line", .int candidate.line) ::
      (candidate.col.map fun col => ("col", Json.int col)).toList)),
    ("engine", .str candidate.engine.text),
    ("engines", .arr (candidate.engines.map fun engine => .str engine.text)),
    ("scan_incomplete", .bool candidate.scanIncomplete),
    ("candidate_digest", .str candidate.candidateDigest)]

/-- `selected`, the candidates of every rule by their digest, and whether a hit was left out. -/
structure PreviewState where
  selected : List (String × PreviewCandidate) := []
  buckets : String → List String := fun _ => []
  omitted : Bool := false

/-- A hit whose evidence is selected. -/
def PreviewCandidate.note (previous : PreviewCandidate) (slice : ScanSlice) (hit : Hit) :
    PreviewCandidate :=
  let engines := noteEngine previous.engines slice.engine
  if previous.scanIncomplete && !isIncomplete hit.item then
    { previous with engines, engine := slice.engine, scanIncomplete := false }
  else { previous with engines }

/-- What the preview selects with: the hash, the rules it shows and its limit. -/
structure PreviewScope where
  sha256 : List Char → String
  visible : List String
  limit : Nat

/-- The digest of a hit. -/
def PreviewScope.digest (scope : PreviewScope) (hit : Hit) : String :=
  scope.sha256 (evidenceText hit.item)

/-- What `merge_static_candidates_preview` dumps. -/
structure CandidatePreview where
  planFingerprint : String
  ruleIds : List String
  ruleIdsTruncated : Bool
  results : List PreviewCandidate
  batches : List ScanSlice
  batchesTruncated : Bool
  candidateSnippetLimit : Nat
  candidateSnippetsTruncated : Bool

/-- The text that `merge_static_candidates_preview` returns. -/
def CandidatePreview.text (preview : CandidatePreview) : List Char :=
  (Json.obj [("kind", .str "simple_static_merged_candidates_v1"), ("preview_only", .bool true),
    ("plan_fingerprint", .str preview.planFingerprint),
    ("rule_ids", .arr (preview.ruleIds.map .str)),
    ("rule_ids_truncated", .bool preview.ruleIdsTruncated),
    ("results", .arr (preview.results.map (·.json))), ("errors", .arr []),
    ("batches", .arr (preview.batches.map fun slice => .obj slice.batch)),
    ("batches_truncated", .bool preview.batchesTruncated),
    ("candidate_snippet_limit", .int preview.candidateSnippetLimit),
    ("candidate_snippets_truncated", .bool preview.candidateSnippetsTruncated)]).sorted.text

end Sastsimi.Static
