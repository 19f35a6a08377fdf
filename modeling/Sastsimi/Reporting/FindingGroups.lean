import Mathlib.Data.List.Sort
import Mathlib.Data.Prod.Lex
import Mathlib.Data.String.Basic
import Sastsimi.Lib.Grouping
import Sastsimi.Lib.JsonUnique
import Sastsimi.Lib.Raising
import Sastsimi.Runtime.Store

/-!
# Groups of verified findings

`group_verified_findings` groups the findings of an analysis by their proven flow: findings with
the same flow anchor converge, and a finding without an anchor stays alone.

The hash is a parameter, and `int` of a decimal text has no limit on the number of digits.
-/

namespace Sastsimi.Reporting

open Sastsimi.Lib Sastsimi.Runtime

/-! ## Findings -/

/-- `FlowAnchor`. -/
structure FlowAnchor where
  route : String
  function : String
  sourceFile : String
  sourceLine : Int
  sourceAccess : String
  sourceKey : String
  defUseNodes : List String
  sinkFile : String
  sinkLine : Int
  sinkCallee : String
  sinkArgument : Int
  branchNodes : List String
  cwe : String
  traceNodes : List String := []
  deriving DecidableEq

/-- `CandidateOrigin`. -/
structure CandidateOrigin where
  engine : String
  ruleId : String
  artifactRef : StoredDataRef
  resultIndex : Nat
  deriving DecidableEq

/-- `VerifiedFindingMember`. -/
structure VerifiedFindingMember where
  analysisId : String
  workspaceId : String
  commitId : String
  displayId : String
  findingRef : StoredDataRef
  hypothesisId : String
  validatedPocRef : StoredDataRef
  proposalRef : StoredDataRef
  cweRef : StoredDataRef
  candidateIds : List String
  candidateOrigins : List CandidateOrigin
  scopeStatus : String
  anchor : Option FlowAnchor
  undeterminedReason : Option String := none
  surfaceId : Option String := none
  deriving DecidableEq

/-- The status of a group. -/
inductive GroupStatus where
  | provenSameFlow
  | groupingUndetermined
  deriving DecidableEq

/-- `FindingGroup`. -/
structure FindingGroup where
  groupId : String
  representativeId : String
  memberIds : List String
  members : List VerifiedFindingMember
  status : GroupStatus
  scopeStatus : String
  deriving DecidableEq

/-- `FindingGroupProjection`. -/
structure FindingGroupProjection where
  groups : List FindingGroup
  rawCount : Nat
  visibleGroupCount : Nat
  undeterminedCount : Nat
  deriving DecidableEq

/-! ## The order of display ids -/

/-- The code points of the decimal digits zero; nine digits follow each. -/
def decimalZeros : List Nat :=
  [0x30, 0x660, 0x6f0, 0x7c0, 0x966, 0x9e6, 0xa66, 0xae6, 0xb66, 0xbe6, 0xc66, 0xce6, 0xd66,
    0xde6, 0xe50, 0xed0, 0xf20, 0x1040, 0x1090, 0x17e0, 0x1810, 0x1946, 0x19d0, 0x1a80, 0x1a90,
    0x1b50, 0x1bb0, 0x1c40, 0x1c50, 0xa620, 0xa8d0, 0xa900, 0xa9d0, 0xa9f0, 0xaa50, 0xabf0, 0xff10,
    0x104a0, 0x10d30, 0x11066, 0x110f0, 0x11136, 0x111d0, 0x112f0, 0x11450, 0x114d0, 0x11650,
    0x116c0, 0x11730, 0x118e0, 0x11950, 0x11c50, 0x11d50, 0x11da0, 0x11f50, 0x16a60, 0x16ac0,
    0x16b50, 0x1d7ce, 0x1d7d8, 0x1d7e2, 0x1d7ec, 0x1d7f6, 0x1e140, 0x1e2f0, 0x1e4f0, 0x1e950,
    0x1fbf0]

/-- The value of a decimal digit. -/
def decimalDigit (character : Char) : Option Nat :=
  (decimalZeros.find? fun start => start ≤ character.toNat ∧ character.toNat < start + 10).map
    (character.toNat - ·)

/-- `int(number)` of a text for which `number.isdecimal()`. -/
def decimalValue (number : List Char) : Option Nat :=
  if number = [] then none
  else (number.mapM decimalDigit).map (·.foldl (fun value digit => 10 * value + digit) 0)

/-- `_display_order`. -/
def displayOrder (displayId : String) : Nat ×ₗ String :=
  match displayId.toList with
  | 'F' :: '-' :: number =>
      match decimalValue number with
      | some value => toLex (value, displayId)
      | none => toLex (2 ^ 63, displayId)
  | _ => toLex (2 ^ 63, displayId)

/-! ## Group keys -/

/-- `asdict` of an anchor. -/
def FlowAnchor.asdict (anchor : FlowAnchor) : List (String × Json) :=
  [("route", .str anchor.route), ("function", .str anchor.function),
    ("source_file", .str anchor.sourceFile), ("source_line", .int anchor.sourceLine),
    ("source_access", .str anchor.sourceAccess), ("source_key", .str anchor.sourceKey),
    ("def_use_nodes", .arr (anchor.defUseNodes.map .str)), ("sink_file", .str anchor.sinkFile),
    ("sink_line", .int anchor.sinkLine), ("sink_callee", .str anchor.sinkCallee),
    ("sink_argument", .int anchor.sinkArgument),
    ("branch_nodes", .arr (anchor.branchNodes.map .str)), ("cwe", .str anchor.cwe),
    ("trace_nodes", .arr (anchor.traceNodes.map .str))]

/-- `flow.pop("trace_nodes")`. -/
def popTraceNodes (flow : List (String × Json)) : List (String × Json) :=
  flow.filter fun field => field.1 ≠ "trace_nodes"

/-- `json.dumps` with sorted keys and without spaces. -/
def dumps (value : Json) : List Char := value.sorted.text

variable (sha256 : List Char → String)

/-- `_digest`. -/
def digest (value : List (String × Json)) : String := sha256 (dumps (.obj value))

/-- The anchor has the identity of the first version. -/
def legacyIdentity (member : VerifiedFindingMember) : Bool :=
  member.anchor.all fun anchor => anchor.cwe = "CWE-78" && anchor.traceNodes.isEmpty

/-- The fields that every group key hashes. -/
def commonFields (member : VerifiedFindingMember) : List (String × Json) :=
  [("version",
      .str (if legacyIdentity member then "verified-python-flow-v1" else "verified-python-flow-v2")),
    ("analysis_id", .str member.analysisId), ("workspace_id", .str member.workspaceId),
    ("commit_id", .str member.commitId)]

/-- The flow that a group key hashes; one without trace is as serialized before traces. -/
def keyFlow (anchor : FlowAnchor) : List (String × Json) :=
  if anchor.traceNodes = [] then popTraceNodes anchor.asdict else anchor.asdict

/-- What a group key hashes. -/
def groupFields (member : VerifiedFindingMember) : List (String × Json) :=
  match member.anchor with
  | some anchor => commonFields member ++ [("flow", .obj (keyFlow anchor))]
  | none =>
      commonFields member ++
        [("singleton_display_id", .str member.displayId),
          ("hypothesis_id", .str member.hypothesisId),
          ("finding_hash", .str member.findingRef.contentHash)]

/-- `_group_key`. -/
def groupKey (member : VerifiedFindingMember) : String := digest sha256 (groupFields member)

/-- What `_flow_without_trace_identity` encodes. -/
def baseFields (member : VerifiedFindingMember) (anchor : FlowAnchor) : Json :=
  .obj [("version", .str "verified-python-flow-v2-base"), ("analysis_id", .str member.analysisId),
    ("workspace_id", .str member.workspaceId), ("commit_id", .str member.commitId),
    ("flow", .obj (popTraceNodes anchor.asdict))]

/-- `_flow_without_trace_identity`. -/
def flowWithoutTraceIdentity (member : VerifiedFindingMember) : Except PyError (List Char) :=
  match member.anchor with
  | none => .error (.valueError "FINDING_GROUP_FLOW_ANCHOR_REQUIRED")
  | some anchor => .ok (dumps (baseFields member anchor))

/-! ## Buckets -/

/-- The findings under their group keys. -/
abbrev GroupBuckets : Type := List (Bucket String VerifiedFindingMember)

/-- The state of the loop over the members. -/
structure Filing where
  byDisplay : List (String × String) := []
  buckets : GroupBuckets := []
  flowBuckets : List (Bucket (List Char) VerifiedFindingMember) := []

/-- One turn of the loop over the members. -/
def fileMember (state : Filing) (member : VerifiedFindingMember) : Except PyError Filing := do
  raiseIf ((member.analysisId, member.displayId) ∈ state.byDisplay)
    (.valueError "FINDING_GROUP_DUPLICATE_DISPLAY_ID")
  let byDisplay := (member.analysisId, member.displayId) :: state.byDisplay
  match member.anchor with
  | none =>
      pure { state with
        byDisplay
        buckets := Bucket.extend (groupKey sha256 member) [member] (by simp) state.buckets }
  | some _ => do
      let identity ← flowWithoutTraceIdentity member
      pure { state with
        byDisplay
        flowBuckets := Bucket.extend identity [member] (by simp) state.flowBuckets }

/-- The trace nodes of a member; the loop over the flows asserts that it has an anchor. -/
def traceNodes (member : VerifiedFindingMember) : List String :=
  (member.anchor.map (·.traceNodes)).getD []

/-- The members with a trace, by their trace nodes. -/
def tracedBuckets (entries : List VerifiedFindingMember) :
    List (Bucket (List String) VerifiedFindingMember) :=
  (entries.filter fun member => traceNodes member ≠ []).foldl
    (fun traced member => Bucket.extend (traceNodes member) [member] (by simp) traced) []

/-- File members of one flow under the group key of the first. -/
def fileFlow (buckets : GroupBuckets) (entries : List VerifiedFindingMember) : GroupBuckets :=
  if filled : entries ≠ [] then
    Bucket.extend (groupKey sha256 (entries.head filled)) entries filled buckets
  else buckets

/-- One turn of the loop over the flows. -/
def fileEntries (buckets : GroupBuckets) (entries : List VerifiedFindingMember) : GroupBuckets :=
  let untraced := entries.filter fun member => traceNodes member = []
  fileFlow sha256
    ((tracedBuckets entries).foldl (fun buckets traced => fileFlow sha256 buckets traced.items)
      buckets) untraced

/-! ## Groups -/

/-- `sorted(entries, key=...)`. -/
def orderedMembers (entries : List VerifiedFindingMember) : List VerifiedFindingMember :=
  entries.insertionSort fun left right =>
    displayOrder left.displayId ≤ displayOrder right.displayId

theorem orderedMembers_filled {entries : List VerifiedFindingMember} (filled : entries ≠ []) :
    orderedMembers entries ≠ [] := by
  intro nothing
  exact filled ((List.perm_insertionSort _ entries).symm.trans (.of_eq nothing)).eq_nil

/-- The common scope status of the members. -/
def commonScope (ordered : List VerifiedFindingMember) : String :=
  match (ordered.map (·.scopeStatus)).dedup with
  | [status] => status
  | _ => "MIXED"

/-- The group of a bucket. -/
def findingGroup (bucket : Bucket String VerifiedFindingMember) : FindingGroup :=
  let ordered := orderedMembers bucket.items
  let representative := ordered.head (orderedMembers_filled bucket.filled)
  { groupId := bucket.key
    representativeId := representative.displayId
    memberIds := ordered.map (·.displayId)
    members := ordered
    status :=
      if representative.anchor ≠ none then .provenSameFlow else .groupingUndetermined
    scopeStatus := commonScope ordered }

/-- `group_verified_findings`. -/
def groupVerifiedFindings (members : List VerifiedFindingMember) :
    Except PyError FindingGroupProjection := do
  let filed ← members.foldlM (fileMember sha256) {}
  let buckets := (filed.flowBuckets.map (·.items)).foldl (fileEntries sha256) filed.buckets
  let groups := (buckets.map findingGroup).insertionSort fun left right =>
    displayOrder left.representativeId ≤ displayOrder right.representativeId
  pure {
    groups
    rawCount := members.length
    visibleGroupCount := groups.length
    undeterminedCount := groups.countP fun group => group.status = .groupingUndetermined }

end Sastsimi.Reporting
