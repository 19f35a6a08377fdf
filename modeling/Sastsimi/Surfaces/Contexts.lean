import Mathlib.Data.List.MinMax
import Mathlib.Data.List.Sort
import Mathlib.Data.Prod.Lex
import Sastsimi.Contracts.CanonicalJson
import Sastsimi.Lib.JsonDecoding
import Sastsimi.Lib.Packing
import Sastsimi.Runtime.Checkpoint

/-!
# Contexts of attack surfaces

`_surface_context_parts` and `expanded_surface_contexts` show the sources and the AST facts around
a surface in parts within a byte budget.  What no part can show is listed as unavailable in every
part.

The redaction of a payload, the prepared file and what `ast.parse` finds in it are parameters.  A
size is that of the UTF-8 encoding.
-/

namespace Sastsimi.Surfaces

open Sastsimi.Lib Sastsimi.Contracts Sastsimi.Runtime

/-! ## Surfaces and prepared files -/

/-- `AttackSurface`: the members that a context shows. -/
structure AttackSurface where
  surfaceId : String
  type : String
  path : String
  symbol : String
  line : Int
  linkedCandidateIds : List String
  evidenceRefs : List StoredDataRef
  detector : String
  flowIdentity : Option String
  coverageStatus : String
  deriving DecidableEq

/-- `SurfaceIndex`: the members that a context shows. -/
structure SurfaceIndex where
  scopeFingerprint : String
  staticBundleHash : String
  astManifestHash : String
  workspaceId : String
  commitId : String
  candidateInventoryHash : String
  surfaces : List AttackSurface

/-- A fact that `_read_file` accepts: an object with a line and a name. -/
structure AstFact where
  fields : List (String × Json)
  line : Nat
  name : String
  hasLine : fields.lookup "line" = some (.int line)
  hasName : fields.lookup "name" = some (.str name)
  positive : 1 ≤ line

/-- `PreparedFileContext`. -/
structure PreparedFileContext where
  path : String
  sourceSha256 : Option String
  sourceLines : List String
  sourceUnavailableReason : Option String
  astFileRef : Option StoredDataRef
  astFacts : List AstFact
  astUnavailableReason : Option String
  redactionCategories : List String

/-- Why there are no contexts. -/
inductive ContextError where
  | valueError (message : String)
  | canonical (error : CanonicalError)
  | overflow (surfaceId : String)
  deriving DecidableEq

/-- `redact_projected_json`, which raises `ValueError`, and the limits of `json.loads`. -/
structure Redactor where
  redact : List Char → Except String (List Char)
  limits : Grammar.Limits

/-! ## The payload -/

/-- A line of the source, by its number. -/
structure SourceLine where
  line : Nat
  text : String
  deriving DecidableEq

/-- What no part can show. -/
structure Unavailable where
  line : Nat
  reason : String
  deriving DecidableEq

def SourceLine.toJson (item : SourceLine) : Json :=
  .obj [("line", .int item.line), ("text", .str item.text)]

def Unavailable.toJson (item : Unavailable) : Json :=
  .obj [("line", .int item.line), ("reason", .str item.reason)]

/-- `model_dump(mode="json")`. -/
def encodedRef (ref : StoredDataRef) : Json :=
  .obj [("stored_data_id", .str ref.storedDataId), ("data_kind", .str ref.dataKind),
    ("content_hash", .str ref.contentHash), ("workspace_id", .str ref.workspaceId),
    ("commit_id", .str ref.commitId), ("record_id", (ref.recordId.map Json.str).getD .null)]

def optional (text : Option String) : Json := (text.map Json.str).getD .null

def optionalCount (count : Option Int) : Json := (count.map Json.int).getD .null

/-- The source lines and the facts that one part shows. -/
structure Shown where
  sources : List SourceLine
  facts : List AstFact

/-- The source lines and the facts that no part can show. -/
structure Missing where
  sources : List Unavailable
  facts : List Unavailable

/-- The keyword arguments of `_surface_payload`. -/
structure Counts where
  sourceWindowCount : Nat
  astNearbyCount : Nat
  partIndex : Nat
  partCount : Nat

/-- `source_reason`. -/
def sourceReason (surface : AttackSurface) (prepared : PreparedFileContext) (missing : Missing) :
    Option String :=
  match prepared.sourceUnavailableReason with
  | some reason => some reason
  | none =>
      if surface.line < 1 ∨ (prepared.sourceLines.length : Int) < surface.line then
        some "SURFACE_LOCATION_BEYOND_SOURCE"
      else if missing.sources ≠ [] then some "SOURCE_LINE_TOO_LARGE"
      else none

/-- `source_status`. -/
def sourceStatus (reason : Option String) (missing : Missing) : String :=
  if reason ≠ none ∧ reason ≠ some "SOURCE_LINE_TOO_LARGE" then "UNAVAILABLE"
  else if missing.sources ≠ [] then "PARTIAL"
  else "AVAILABLE"

/-- The payload that is redacted. -/
def payloadDocument (index : SurfaceIndex) (surface : AttackSurface)
    (prepared : PreparedFileContext) (shown : Shown) (missing : Missing) (counts : Counts) : Json :=
  let totalSource : Option Int :=
    if prepared.sourceUnavailableReason = none then some prepared.sourceLines.length else none
  let totalAst : Option Int :=
    if prepared.astUnavailableReason = none then some prepared.astFacts.length else none
  let reason := sourceReason surface prepared missing
  .obj [
    ("kind", .str "simple_surface_context_v1"),
    ("scope_fingerprint", .str index.scopeFingerprint),
    ("static_bundle_hash", .str index.staticBundleHash),
    ("ast_manifest_hash", .str index.astManifestHash),
    ("candidate_inventory_hash", .str index.candidateInventoryHash),
    ("workspace_id", .str index.workspaceId),
    ("commit_id", .str index.commitId),
    ("surface_id", .str surface.surfaceId),
    ("surface_type", .str surface.type),
    ("path", .str surface.path),
    ("symbol", .str surface.symbol),
    ("line", .int surface.line),
    ("detector", .str surface.detector),
    ("flow_identity", optional surface.flowIdentity),
    ("linked_candidate_count", .int surface.linkedCandidateIds.length),
    ("static_evidence_ref_hashes",
      .arr (((surface.evidenceRefs.map (·.contentHash)).dedup.insertionSort
        fun left right => left ≤ right).map Json.str)),
    ("static_evidence_refs",
      .arr ((surface.evidenceRefs.insertionSort
        fun left right => left.contentHash ≤ right.contentHash).map encodedRef)),
    ("source_sha256", optional prepared.sourceSha256),
    ("source_status", .str (sourceStatus reason missing)),
    ("source_unavailable_reason", optional reason),
    ("source_line_count", optionalCount totalSource),
    ("source_window_line_count", .int counts.sourceWindowCount),
    ("source_lines", .arr (shown.sources.map SourceLine.toJson)),
    ("omitted_source_line_count",
      optionalCount (totalSource.map fun total => total - shown.sources.length)),
    ("unavailable_source_lines", .arr (missing.sources.map Unavailable.toJson)),
    ("ast_file_ref", (prepared.astFileRef.map encodedRef).getD .null),
    ("ast_unavailable_reason", optional prepared.astUnavailableReason),
    ("ast_total_count", optionalCount totalAst),
    ("ast_nearby_count", .int counts.astNearbyCount),
    ("ast_facts", .arr (shown.facts.map fun fact => .obj fact.fields)),
    ("omitted_ast_fact_count",
      optionalCount (totalAst.map fun total => total - shown.facts.length)),
    ("unavailable_ast_facts", .arr (missing.facts.map Unavailable.toJson)),
    ("redaction_categories", .arr (prepared.redactionCategories.map Json.str)),
    ("part_index", .int counts.partIndex),
    ("part_count", .int counts.partCount)]

/-- `canonical_bytes`, without set-list policy. -/
def encoded (value : Json) : Except ContextError (List Char) :=
  (canonicalBytes (fun _ => none) value).mapError ContextError.canonical

/-- The redacted payload as `json.loads` reads it. -/
def Redactor.loads (redactor : Redactor) (bytes : List Char) : Except ContextError Json := do
  let data ← (redactor.redact bytes).mapError ContextError.valueError
  required (Grammar.decode redactor.limits data) (.valueError "JSONDecodeError")

/-- `_surface_payload`. -/
def surfacePayload (redactor : Redactor) (index : SurfaceIndex) (surface : AttackSurface)
    (prepared : PreparedFileContext) (shown : Shown) (missing : Missing) (counts : Counts) :
    Except ContextError Json := do
  let bytes ← encoded (payloadDocument index surface prepared shown missing counts)
  let safe ← redactor.loads bytes
  raiseIf (safe.isObj = false) (.valueError "SURFACE_CONTEXT_REDACTION_FAILED")
  pure safe

/-- `len(canonical_bytes(payload)) > budget_bytes`. -/
def exceeds (budget : Nat) (payload : Except ContextError Json) : Except ContextError Bool := do
  let payload ← payload
  let bytes ← encoded payload
  pure (decide (budget < (String.ofList bytes).utf8ByteSize))

/-! ## The first look -/

def nearbyLineRadius : Int := 5
def maxNearbyAstFacts : Nat := 32

/-- `abs(int(fact["line"]) - line)`. -/
def AstFact.distance (line : Int) (fact : AstFact) : Nat := ((fact.line : Int) - line).natAbs

/-- `_nearby_ast_facts`. -/
def nearbyAstFacts (prepared : PreparedFileContext) (line : Int) : List AstFact :=
  let near := prepared.astFacts.filter fun fact => decide ((fact.distance line : Int) ≤ nearbyLineRadius)
  let near :=
    if near.isEmpty then
      (prepared.astFacts.argmin fun fact => toLex (fact.distance line, fact.line)).toList
    else near
  let selected := (near.insertionSort fun left right =>
    toLex (left.distance line, toLex (left.line, left.name)) ≤
      toLex (right.distance line, toLex (right.line, right.name))).take maxNearbyAstFacts
  selected.insertionSort fun left right =>
    toLex (left.line, left.name) ≤ toLex (right.line, right.name)

/-- The source lines around a surface. -/
def windowLines (surface : AttackSurface) (prepared : PreparedFileContext) : List SourceLine :=
  if prepared.sourceUnavailableReason ≠ none then []
  else
    let first := max 1 (surface.line - nearbyLineRadius)
    let last := min (prepared.sourceLines.length : Int) (surface.line + nearbyLineRadius)
    (prepared.sourceLines.zipIdx 1).filterMap fun (text, number) =>
      if first ≤ (number : Int) ∧ (number : Int) ≤ last then some ⟨number, text⟩ else none

/-- The items that still may be shown, and what cannot be. -/
structure Screening where
  sources : List SourceLine
  facts : List AstFact
  missing : Missing

def Screening.count (screening : Screening) : Nat :=
  screening.sources.length + screening.facts.length

/-- A source line becomes unavailable. -/
def Missing.addSource (missing : Missing) (item : SourceLine) : Missing :=
  { missing with sources := missing.sources ++ [⟨item.line, "SOURCE_LINE_TOO_LARGE"⟩] }

/-- A fact becomes unavailable. -/
def Missing.addFact (reason : String) (missing : Missing) (item : AstFact) : Missing :=
  { missing with facts := missing.facts ++ [⟨item.line, reason⟩] }

/-- The payload of items beside what is unavailable, with the largest indices. -/
abbrev Render : Type := Shown → Missing → Except ContextError Json

section Screening

variable (render : Render) (budget : Nat)

/-- A source line exceeds the budget alone. -/
def sourceTooLarge (missing : Missing) (item : SourceLine) : Except ContextError Bool :=
  exceeds budget (render ⟨[item], []⟩ missing)

/-- A fact exceeds the budget alone. -/
def factTooLarge (missing : Missing) (item : AstFact) : Except ContextError Bool :=
  exceeds budget (render ⟨[], [item]⟩ missing)

/-- One round over the items. -/
def screen (screening : Screening) : Except ContextError Screening := do
  let sources ← screening.sources.foldlM
    (Sieve.sift (sourceTooLarge render budget) Missing.addSource) ⟨[], screening.missing⟩
  let facts ← screening.facts.foldlM
    (Sieve.sift (factTooLarge render budget) (Missing.addFact "AST_FACT_TOO_LARGE"))
    ⟨[], sources.left⟩
  pure ⟨sources.kept, facts.kept, facts.left⟩

/-- `while True`: rounds until one keeps every item. -/
def settle (screening : Screening) : Except ContextError Screening := do
  let next ← screen render budget screening
  if next.count < screening.count then settle next else pure next
termination_by screening.count

/-- A source line or a fact, as the packing takes them. -/
inductive Item where
  | source (line : SourceLine)
  | fact (fact : AstFact)

def Shown.add (shown : Shown) : Item → Shown
  | .source line => { shown with sources := shown.sources ++ [line] }
  | .fact fact => { shown with facts := shown.facts ++ [fact] }

def Shown.isEmpty (shown : Shown) : Bool := shown.sources.isEmpty && shown.facts.isEmpty

/-- Pack one item. -/
def packItem (missing : Missing) (packing : Packing Shown) (item : Item) :
    Except ContextError (Packing Shown) :=
  packing.put (fun shown => exceeds budget (render shown missing)) (packing.current.add item)
    (Shown.add ⟨[], []⟩ item)

/-- The chunks of the settled items. -/
def packItems (settled : Screening) : Except ContextError (List Shown) := do
  let items := settled.sources.map Item.source ++ settled.facts.map Item.fact
  let packing ← items.foldlM (packItem render budget settled.missing) ⟨[], ⟨[], []⟩⟩
  if !packing.current.isEmpty || packing.chunks.isEmpty then pure packing.all
  else pure packing.chunks

end Screening

/-- The chunks of a context, what they leave out, and the counts that every part shows. -/
structure Layout where
  chunks : List Shown
  missing : Missing
  sourceCount : Nat
  astCount : Nat

section Parts

variable (redactor : Redactor) (index : SurfaceIndex) (surface : AttackSurface)
variable (prepared : PreparedFileContext) (budget : Nat)

/-- `item_count_upper`. -/
def itemCountUpper (sourceCount astCount : Nat) : Nat := max 1 (sourceCount + astCount + 1)

/-- `payload`. -/
def windowPayload : Render := fun shown missing =>
  let sourceCount := (windowLines surface prepared).length
  let astCount := (nearbyAstFacts prepared surface.line).length
  surfacePayload redactor index surface prepared shown missing
    ⟨sourceCount, astCount, itemCountUpper sourceCount astCount, itemCountUpper sourceCount astCount⟩

/-- The chunks of `_surface_context_parts`. -/
def surfaceContextLayout : Except ContextError Layout := do
  let render := windowPayload redactor index surface prepared
  let sources := windowLines surface prepared
  let facts := nearbyAstFacts prepared surface.line
  let settled ← settle render budget ⟨sources, facts, ⟨[], []⟩⟩
  let large ← exceeds budget (render ⟨[], []⟩ settled.missing)
  raiseIf (large = true) (.overflow surface.surfaceId)
  let chunks ← packItems render budget settled
  pure ⟨chunks, settled.missing, sources.length, facts.length⟩

/-- The payload of one chunk of a layout. -/
def renderPart (layout : Layout) (chunk : Shown) (partIndex : Nat) : Except ContextError Json :=
  surfacePayload redactor index surface prepared chunk layout.missing
    ⟨layout.sourceCount, layout.astCount, partIndex, layout.chunks.length⟩

/-- The payloads of all chunks of a layout. -/
def renderParts (layout : Layout) : Except ContextError (List Json) :=
  layout.chunks.zipIdx.mapM fun entry =>
    renderPart redactor index surface prepared layout entry.1 entry.2

/-- `_surface_context_parts`. -/
def surfaceContextParts : Except ContextError (List Json) := do
  let layout ← surfaceContextLayout redactor index surface prepared budget
  renderParts redactor index surface prepared layout

end Parts

end Sastsimi.Surfaces
