import Sastsimi.Lib.Grouping
import Sastsimi.Surfaces.Parts

/-!
# The parts of a second look

`expanded_surface_contexts` shows the enclosing definition of a surface, or its whole file.  The
anchor line of the surface is in every part, a fact is shown beside its source line, and a line
whose facts do not fit into one part is shown again in the next.

What `ast.parse` finds and the hash are parameters; a stored artifact is named by the hash of its
bytes.
-/

namespace Sastsimi.Surfaces

open Sastsimi.Lib Sastsimi.Contracts Sastsimi.Runtime

/-! ## The selected lines -/

/-- A function or a class of the source, with the names that its body calls. -/
structure Definition where
  name : String
  lineno : Nat
  endLineno : Nat
  calls : List String
  positive : 1 ≤ lineno

/-- `range(node.lineno, node.end_lineno + 1)`. -/
def Definition.lines (node : Definition) : List Nat :=
  List.range' node.lineno (node.endLineno + 1 - node.lineno)

/-- The definitions that `ast.parse` and `ast.walk` find, in this order. -/
abbrev Parser : Type := List String → Option (List Definition)

/-- `_expanded_source_lines`. -/
def expandedSourceLines (parse : Parser) (prepared : PreparedFileContext)
    (surface : AttackSurface) : List Nat × String :=
  let allLines := List.range' 1 prepared.sourceLines.length
  if prepared.sourceLines = [] then ([], "SOURCE_UNAVAILABLE")
  else
    match parse prepared.sourceLines with
    | none => (allLines, "FULL_FILE_FALLBACK")
    | some definitions =>
        let enclosing := definitions.zipIdx.filter fun node =>
          decide ((node.1.lineno : Int) ≤ surface.line ∧ surface.line ≤ node.1.endLineno)
        match enclosing.argmin fun node =>
            toLex (node.1.endLineno - node.1.lineno, OrderDual.toDual node.1.lineno) with
        | none => (allLines, "FULL_FILE")
        | some scope =>
            let called := definitions.zipIdx.filter fun node =>
              decide (node.1.name ∈ scope.1.calls ∧ node.2 ≠ scope.2)
            let chosen := scope.1.lines ++ called.flatMap (fun node => node.1.lines) ++
              [surface.line.toNat]
            (chosen.dedup.insertionSort fun left right => left ≤ right, "ENCLOSING_DEFINITION")

/-- `{"line": line, "text": prepared.source_lines[line - 1]}`, where the file has the line. -/
def PreparedFileContext.sourceLine (prepared : PreparedFileContext) : Nat → Option SourceLine
  | 0 => none
  | before + 1 => (prepared.sourceLines[before]?).map (SourceLine.mk (before + 1))

section Look

variable (redactor : Redactor) (parse : Parser) (index : SurfaceIndex) (surface : AttackSurface)
variable (prepared : PreparedFileContext) (budget : Nat)

/-- `full_probe`. -/
def fullProbe : Except ContextError Json := do
  let lines := List.range' 1 prepared.sourceLines.length
  let payload ← surfacePayload redactor index surface prepared
    ⟨lines.filterMap prepared.sourceLine, prepared.astFacts⟩ ⟨[], []⟩
    ⟨lines.length, prepared.astFacts.length, 0, 1⟩
  pure ((payload.set "kind" (.str "simple_surface_context_v2")).set "selection_scope"
    (.str "FULL_FILE"))

/-- The selected lines: the whole file when it fits with room to spare. -/
def selectLines : Except ContextError (List Nat × String) := do
  let selection := expandedSourceLines parse prepared surface
  if prepared.sourceUnavailableReason = none then
    let large ← exceeds (budget - min 2048 (budget / 8))
      (fullProbe redactor index surface prepared)
    if large then pure selection
    else pure (List.range' 1 prepared.sourceLines.length, "FULL_FILE")
  else pure selection

/-- What a second look selects. -/
structure Selection where
  lines : List Nat
  scope : String

/-- `anchor`, before it is measured. -/
def anchorLine (selection : Selection) : List SourceLine :=
  (selection.lines.filter fun (line : Nat) => decide ((line : Int) = surface.line)).filterMap
    prepared.sourceLine

/-- `source_items`. -/
def otherLines (selection : Selection) : List SourceLine :=
  (selection.lines.filter fun (line : Nat) => decide ((line : Int) ≠ surface.line)).filterMap
    prepared.sourceLine

/-- `ast_items`. -/
def selectedFacts (selection : Selection) : List AstFact :=
  prepared.astFacts.filter fun fact => decide (fact.line ∈ selection.lines)

/-- `upper`. -/
def upperCount (selection : Selection) : Nat :=
  max 1 ((otherLines surface prepared selection).length +
    (selectedFacts prepared selection).length + 1)

/-- `payload`. -/
def expandedPayload (selection : Selection) (partIndex partCount : Nat) : Render :=
  fun shown missing => do
    let payload ← surfacePayload redactor index surface prepared shown missing
      ⟨selection.lines.length, (selectedFacts prepared selection).length, partIndex, partCount⟩
    pure ((((payload.set "kind" (.str "simple_surface_context_v2")).set "selection_scope"
      (.str selection.scope)).set "selected_source_line_count" (.int selection.lines.length)).set
      "unavailable_implementation"
      (if surface.symbol.toList.tails.any (fun rest => "().".toList.isPrefixOf rest) then
        .str "CALL_RESULT_IMPLEMENTATION_NOT_IN_SAME_FILE" else .null))

end Look

/-! ## Packing -/

section Anchored

variable (render : Render) (budget : Nat) (anchor : List SourceLine)

/-- A source line exceeds the budget beside the anchor. -/
def besideAnchorTooLarge (missing : Missing) (item : SourceLine) : Except ContextError Bool :=
  exceeds budget (render ⟨anchor ++ [item], []⟩ missing)

/-- The line is that of the anchor. -/
def isAnchor (line : SourceLine) : Bool := decide (line.line ∈ anchor.map SourceLine.line)

/-- The anchor, and the line unless it is the anchor. -/
def anchored (line : SourceLine) : List SourceLine :=
  if isAnchor anchor line then anchor else anchor ++ [line]

/-- The source line of a fact is not shown, or the fact exceeds the budget beside it. -/
def besideLineTooLarge (lines : List SourceLine) (missing : Missing) (item : AstFact) :
    Except ContextError Bool :=
  match lines.find? fun line => decide (line.line = item.line) with
  | none => .ok true
  | some line => exceeds budget (render ⟨anchored anchor line, [item]⟩ missing)

/-- A fact becomes unavailable: without its source line, or too large beside it. -/
def Missing.addBeside (lines : List SourceLine) (missing : Missing) (item : AstFact) : Missing :=
  missing.addFact
    (if item.line ∈ lines.map SourceLine.line then "AST_FACT_TOO_LARGE"
      else "SOURCE_LINE_TOO_LARGE") item

/-- Put a fact beside its source line. -/
def packFact (missing : Missing) (line : SourceLine) (packing : Packing Shown) (fact : AstFact) :
    Except ContextError (Packing Shown) :=
  packing.put (fun shown => exceeds budget (render shown missing))
    ⟨packing.current.sources, packing.current.facts ++ [fact]⟩ ⟨anchored anchor line, [fact]⟩

/-- Put a source line, unless it is the anchor. -/
def placeLine (missing : Missing) (packing : Packing Shown) (line : SourceLine) :
    Except ContextError (Packing Shown) :=
  if isAnchor anchor line then .ok packing
  else
    packing.put (fun shown => exceeds budget (render shown missing))
      ⟨packing.current.sources ++ [line], packing.current.facts⟩ ⟨anchor ++ [line], []⟩

/-- Put a source line, and then its facts. -/
def packLine (missing : Missing) (facts : List AstFact) (packing : Packing Shown)
    (line : SourceLine) : Except ContextError (Packing Shown) := do
  let packing ← placeLine render budget anchor missing packing line
  (ofKey AstFact.line line.line facts).foldlM (packFact render budget anchor missing line)
    packing

end Anchored

/-- The chunks of a second look, and what they are made of. -/
structure ExpandedLayout where
  anchor : List SourceLine
  lines : List SourceLine
  facts : List AstFact
  missing : Missing
  chunks : List Shown

section Contexts

variable (redactor : Redactor) (index : SurfaceIndex) (surface : AttackSurface)
variable (prepared : PreparedFileContext) (budget : Nat)

/-- `if anchor and len(canonical_bytes(payload(anchor, []))) > budget_bytes`. -/
def anchorTooLarge (render : Render) (anchor : List SourceLine) : Except ContextError Bool :=
  if anchor = [] then .ok false else exceeds budget (render ⟨anchor, []⟩ ⟨[], []⟩)

/-- The chunks of `expanded_surface_contexts`. -/
def expandedLayout (selection : Selection) : Except ContextError ExpandedLayout := do
  let upper := upperCount surface prepared selection
  let render := expandedPayload redactor index surface prepared selection upper upper
  let wanted := anchorLine surface prepared selection
  let anchorLarge ← anchorTooLarge budget render wanted
  let anchor := if anchorLarge then [] else wanted
  let start : Missing := ⟨if anchorLarge then wanted.map SourceLine.unavailable else [], []⟩
  let usable ← (otherLines surface prepared selection).foldlM
    (Sieve.sift (besideAnchorTooLarge render budget anchor) Missing.addSource) ⟨[], start⟩
  let lines := anchor ++ usable.kept
  let facts ← (selectedFacts prepared selection).foldlM
    (Sieve.sift (besideLineTooLarge render budget anchor lines) (Missing.addBeside lines))
    ⟨[], usable.left⟩
  let large ← exceeds budget (render ⟨anchor, []⟩ facts.left)
  raiseIf (large = true) (.overflow surface.surfaceId)
  let packing ← lines.foldlM (packLine render budget anchor facts.left facts.kept)
    ⟨[], ⟨anchor, []⟩⟩
  pure ⟨anchor, usable.kept, facts.kept, facts.left, packing.all⟩

/-- `SurfaceContext`, without the reference that the hash determines. -/
structure SurfaceContext where
  surfaceId : String
  contextId : String
  contextHash : String
  partIndex : Nat
  partCount : Nat
  promptBytes : Nat
  sourceSha256 : Option String
  sourceUnavailableReason : Option Json
  astUnavailableReason : Option String
  omittedSourceLineCount : Option Json
  omittedAstFactCount : Option Json

/-- The object that `context_id` is the hash of. -/
def contextIdentity (kind : String) (partIndex : Nat) (contextHash : String) : Json :=
  .obj [("kind", .str kind), ("scope_fingerprint", .str index.scopeFingerprint),
    ("surface_id", .str surface.surfaceId), ("part_index", .int partIndex),
    ("context_hash", .str contextHash)]

variable (sha256 : List Char → String)

/-- Store one part, unless it exceeds the budget. -/
def storePart (selection : Selection) (layout : ExpandedLayout) (chunk : Shown) (partIndex : Nat) :
    Except ContextError SurfaceContext := do
  let record ← expandedPayload redactor index surface prepared selection partIndex
    layout.chunks.length chunk layout.missing
  let bytes ← encoded record
  raiseIf (budget < (String.ofList bytes).utf8ByteSize) (.overflow surface.surfaceId)
  let contextHash := sha256 bytes
  let identity ← encoded
    (contextIdentity index surface "simple_surface_context_id_v2" partIndex contextHash)
  pure {
    surfaceId := surface.surfaceId
    contextId := sha256 identity
    contextHash
    partIndex
    partCount := layout.chunks.length
    promptBytes := (String.ofList bytes).utf8ByteSize
    sourceSha256 := prepared.sourceSha256
    sourceUnavailableReason := record.get? "source_unavailable_reason"
    astUnavailableReason := prepared.astUnavailableReason
    omittedSourceLineCount := record.get? "omitted_source_line_count"
    omittedAstFactCount := record.get? "omitted_ast_fact_count" }

/-- Store every part. -/
def storeParts (selection : Selection) (layout : ExpandedLayout) :
    Except ContextError (List SurfaceContext) :=
  layout.chunks.zipIdx.mapM fun entry =>
    storePart redactor index surface prepared budget sha256 selection layout entry.1 entry.2

variable (parse : Parser) (workspaceId : String) (expectedSource : Option String)

/-- `expanded_surface_contexts`, of a prepared file whose manifest entry expects a source. -/
def expandedSurfaceContexts : Except ContextError (List SurfaceContext) := do
  raiseIf (budget < 512 ∨ 64 * 1024 < budget) (.valueError "SURFACE_CONTEXT_BUDGET_INVALID")
  raiseIf (surface ∉ index.surfaces ∨ workspaceId ≠ index.workspaceId)
    (.valueError "SURFACE_CONTEXT_SCOPE_MISMATCH")
  raiseIf (expectedSource ≠ none ∧ prepared.sourceSha256 ≠ expectedSource)
    (.valueError "SURFACE_CONTEXT_SOURCE_CHANGED")
  let (lines, scope) ← selectLines redactor parse index surface prepared budget
  let layout ← expandedLayout redactor index surface prepared budget ⟨lines, scope⟩
  storeParts redactor index surface prepared budget sha256 ⟨lines, scope⟩ layout

end Contexts

end Sastsimi.Surfaces
