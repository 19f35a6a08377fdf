import Sastsimi.Lib.JsonEncoding
import Sastsimi.Lib.Raising

/-!
# Normalized candidates

A raw result row of a static engine becomes candidates: its location is read, its flow trace and
its kind, and with the exact identity the complete normalized match is hashed into the evidence
key.  Library calls of the language (URL parsing, integer parsing, the text of a value) are
parameters, and so is the resolution of absolute paths in a workspace.
-/

namespace Sastsimi.Candidates

open Sastsimi.Lib

/-! ## Library functions -/

/-- A URL taken apart. -/
structure Uri where
  scheme : String
  netloc : String
  path : String
  query : String
  fragment : String

/-- The library functions that the normalization calls. -/
structure Library where
  /-- The text of a value that is no string. -/
  str : Json → String
  int : String → Option Int
  strip : String → String
  isSpace : Char → Bool
  isZero : String → Bool
  urlsplit : String → Except String Uri
  unquote : String → Option String

variable (lib : Library)

/-- Whether a value counts as true. -/
def Library.truthy : Json → Bool
  | .null => false
  | .bool value => value
  | .int value => value != 0
  | .float text => !lib.isZero text
  | .str value => value != ""
  | .arr items => !items.isEmpty
  | .obj fields => !fields.isEmpty

/-- `str(value or "")` -/
def Library.textOf : Option Json → String
  | some (.str value) => value
  | some value => if lib.truthy value then lib.str value else ""
  | none => ""

/-- The entries of a dictionary, and none of any other value. -/
def mapping : Option Json → List (String × Json)
  | some (.obj fields) => fields
  | _ => []

/-- The value under a key of a dictionary. -/
def field (value : Option Json) (key : String) : Option Json := (mapping value).lookup key

/-! ## Paths and lines -/

/-- The workspace in which absolute paths are resolved. -/
abbrev Workspace := Option (String → Except String String)

def pathUnsafe : String := "CANDIDATE_PATH_UNSAFE"

def locationInvalid : String := "CANDIDATE_LOCATION_INVALID"

/-- `PurePosixPath(raw).as_posix()` of a relative path, with the empty text for no component. -/
def posixPath (raw : List Char) : String :=
  let parts := (raw.splitOn '/').filter fun part => part ≠ [] ∧ part ≠ ['.']
  String.ofList (['/'].intercalate parts)

/-- The path of a text, relative to the workspace. -/
def readPath (workspace : Workspace) (text : String) : Except String String :=
  let raw := text.toList.map fun character => if character == '\\' then '/' else character
  if raw.head? = some '/' then
    match workspace with
    | none => .error pathUnsafe
    | some resolve => resolve (String.ofList raw)
  else if ':' ∈ raw ∨ ['.', '.'] ∈ raw.splitOn '/' then .error pathUnsafe
  else .ok (posixPath raw)

/-- A line or column number; nothing is zero. -/
def Library.readLine : Option Json → Except String Nat
  | none => .ok 0
  | some .null => .ok 0
  | some (.int value) => if value < 0 then .error locationInvalid else .ok value.toNat
  | some (.str text) =>
      match lib.int text with
      | some value => if value < 0 then .error locationInvalid else .ok value.toNat
      | none => .error locationInvalid
  | some _ => .error locationInvalid

/-- `value or default`, read as a line. -/
def Library.readLineOr (value : Option Json) (default : Nat) : Except String Nat :=
  match value with
  | some value => if lib.truthy value then lib.readLine (some value) else .ok default
  | none => .ok default

/-- The value unless it is missing. -/
def present : Option Json → Option Json
  | some .null => none
  | value => value

/-! ## Locations -/

/-- The location of a result. -/
structure Span where
  path : String
  line : Nat
  endLine : Nat
  startColumn : Nat
  endColumn : Nat
  deriving DecidableEq

/-- The path of a SARIF artifact location. -/
def Library.readUri (workspace : Workspace) (raw : String) : Except String String := do
  let uri ← lib.urlsplit raw
  raiseIf ((uri.scheme ≠ "" ∧ uri.scheme ≠ "file") ∨ (uri.netloc ≠ "" ∧ uri.netloc ≠ "localhost"))
    pathUnsafe
  raiseIf (uri.query ≠ "" ∨ uri.fragment ≠ "") pathUnsafe
  match lib.unquote uri.path with
  | none => .error pathUnsafe
  | some decoded =>
      let drive := uri.scheme = "file" ∧ decoded.toList.head? = some '/' ∧
        decoded.toList[2]? = some ':'
      readPath workspace (if drive then String.ofList decoded.toList.tail else decoded)

/-- The location of a SARIF location object. -/
def Library.readSpan (workspace : Workspace) (location : Json) : Except String Span := do
  let physical := field (some location) "physicalLocation"
  let region := field physical "region"
  let start ← lib.readLine (field region "startLine")
  let startColumn ← lib.readLine (field region "startColumn")
  let endColumn ← match present (field region "endColumn") with
    | some value => lib.readLine (some value)
    | none => pure startColumn
  let path ← lib.readUri workspace (lib.textOf (field (field physical "artifactLocation") "uri"))
  let endLine ← lib.readLineOr (field region "endLine") start
  pure ⟨path, start, endLine, startColumn, endColumn⟩

/-- The location of a SARIF result: that of its first location. -/
def Library.sarifLocation (workspace : Workspace) (row : List (String × Json)) :
    Except String Span :=
  match row.lookup "locations" with
  | some (.arr (first :: _)) => lib.readSpan workspace first
  | _ => .ok ⟨"", 0, 0, 0, 0⟩

/-- `col`, or `column` when it is missing. -/
def columnOf (value : Option Json) : Option Json :=
  (present (field value "col")).or (present (field value "column"))

/-- The location of a result of another engine. -/
def Library.rowLocation (workspace : Workspace) (row : List (String × Json)) :
    Except String Span := do
  let path ← readPath workspace (lib.textOf (row.lookup "path"))
  let start := row.lookup "start"
  let final := row.lookup "end"
  let line ← lib.readLine (field start "line")
  let endLine ← lib.readLineOr (field final "line") line
  let startColumn ← lib.readLine (columnOf start)
  let endColumn ← match columnOf final with
    | some value => lib.readLine (some value)
    | none => pure startColumn
  pure ⟨path, line, endLine, startColumn, endColumn⟩

/-! ## Flow traces -/

def codeql : String := "codeql"

/-- The trace of a result, in the format of its engine. -/
def flowTrace (engine : String) (row : List (String × Json)) : Option Json :=
  if engine = codeql then
    match row.lookup "codeFlows" with
    | some (.arr (flow :: flows)) => some (.obj [("codeFlows", .arr (flow :: flows))])
    | _ => none
  else
    match field (row.lookup "extra") "dataflow_trace" with
    | some (.obj fields) => some (.obj fields)
    | _ => none

/-- The rows of a SARIF result, one for every thread flow. -/
def codeqlFlowRows (row : List (String × Json)) : List (List (String × Json)) :=
  let threadsOf (flow : Json) : List Json :=
    match field (some flow) "threadFlows" with
    | some (.arr threads) => threads
    | _ => []
  let variantsOf (flow : Json) : List (List (String × Json)) :=
    if 1 < (threadsOf flow).length then
      (threadsOf flow).map fun thread =>
        assign "codeFlows"
          (.arr [.obj (assign "threadFlows" (.arr [thread]) (mapping (some flow)))]) row
    else [assign "codeFlows" (.arr [flow]) row]
  match row.lookup "codeFlows" with
  | some (.arr [flow]) => if (threadsOf flow).length ≤ 1 then [row] else variantsOf flow
  | some (.arr (flow :: flows)) => (flow :: flows).flatMap variantsOf
  | _ => [row]

/-- The rows that are normalized for a raw row. -/
def flowRows (engine : String) (row : List (String × Json)) : List (List (String × Json)) :=
  if engine = codeql then codeqlFlowRows row else [row]

inductive CandidateKind where
  | entryPoint | flow | hint
  deriving DecidableEq

def CandidateKind.text : CandidateKind → String
  | .entryPoint => "ENTRY_POINT"
  | .flow => "FLOW"
  | .hint => "HINT"

/-- A thread flow with at least two locations. -/
def isThread (thread : Json) : Bool :=
  match field (some thread) "locations" with
  | some (.arr locations) => decide (2 ≤ locations.length)
  | _ => false

/-- Whether a trace leads from a source to a sink. -/
def isFlow (engine : String) (trace : Json) : Bool :=
  if engine = codeql then
    match field (some trace) "codeFlows" with
    | some (.arr flows) => flows.any fun flow =>
        match field (some flow) "threadFlows" with
        | some (.arr threads) => threads.any isThread
        | _ => false
    | _ => false
  else
    (present (field (some trace) "taint_source")).isSome &&
      (present (field (some trace) "taint_sink")).isSome &&
      (field (some trace) "intermediate_vars").isSome

def kindOf (engine : String) (row : List (String × Json)) (trace : Option Json) : CandidateKind :=
  if trace.any (isFlow engine) then .flow
  else
    match field (field (row.lookup "extra") "metadata") "candidate_kind" with
    | some (.str "ENTRY_POINT") => .entryPoint
    | _ => .hint

/-! ## Complete traces -/

/-- The location of a SARIF location with explicit columns. -/
def Library.explicitSpan (workspace : Workspace) (location : Json) : Option Span :=
  let region := field (field (some location) "physicalLocation") "region"
  if (field region "startColumn").isNone ∨ (field region "endColumn").isNone then none
  else
    match lib.readSpan workspace location with
    | .error _ => none
    | .ok span =>
        if span.path = "" ∨ span.line = 0 ∨ span.endLine < span.line ∨ span.startColumn = 0 ∨
            span.endColumn = 0 ∨ (span.endLine = span.line ∧ span.endColumn < span.startColumn) then
          none
        else some span

/-- The spans of the steps of a thread flow; nothing when a step has none. -/
def Library.threadSpans (workspace : Workspace) (steps : List Json) : Option (List Span) :=
  steps.mapM fun step =>
    match field (some step) "location" with
    | some (.obj fields) => lib.explicitSpan workspace (.obj fields)
    | _ => none

/-- A SARIF trace with a single thread flow that ends at the location of its result. -/
def Library.completeCodeFlow (workspace : Workspace) (trace : Json) (row : List (String × Json))
    (sinkPath : String) (sinkLine : Nat) : Bool :=
  match row.lookup "locations" with
  | some (.arr (location :: _)) =>
      match lib.explicitSpan workspace (.obj (mapping (some location))) with
      | none => false
      | some primary =>
          decide (primary.path = sinkPath ∧ primary.line = sinkLine) &&
            match field (some trace) "codeFlows" with
            | some (.arr [flow]) =>
                match field (some flow) "threadFlows" with
                | some (.arr [thread]) =>
                    match field (some thread) "locations" with
                    | some (.arr steps) =>
                        decide (2 ≤ steps.length) &&
                          match lib.threadSpans workspace steps with
                          | some spans => decide (spans.getLast? = some primary)
                          | none => false
                    | _ => false
                | _ => false
            | _ => false
  | _ => false

/-- The path and line of a step of a dataflow trace. -/
def Library.located (workspace : Workspace) (step : Option Json) : Option (String × Nat) :=
  match field step "path" with
  | some (.str raw) =>
      if raw = "" then none
      else
        match readPath workspace raw, lib.readLine (field step "line") with
        | .ok path, .ok line => if path ≠ "" ∧ 0 < line then some (path, line) else none
        | _, _ => none
  | _ => none

/-- A text that is not blank. -/
def Library.named (value : Option Json) : Bool :=
  match value with
  | some (.str text) => lib.strip text != ""
  | _ => false

def Library.hasColumn (step : Option Json) : Bool :=
  match lib.readLine (field step "column") with
  | .ok column => decide (0 < column)
  | .error _ => false

def Library.identifiedSource (workspace : Workspace) (step : Option Json) : Bool :=
  (lib.located workspace step).isSome && lib.hasColumn step && lib.named (field step "source_key")

def Library.identifiedSink (workspace : Workspace) (step : Option Json) : Bool :=
  (lib.located workspace step).isSome && lib.hasColumn step &&
    (lib.named (field step "sink_argument") ||
      match field step "sink_argument" with
      | some (.int value) => decide (0 ≤ value)
      | _ => false)

def Library.identifiedIntermediate (workspace : Workspace) (step : Json) : Bool :=
  (lib.located workspace (some step)).isSome && lib.hasColumn (some step) &&
    lib.named (field (some step) "node_id")

/-- The sink stands exactly at the location of the result. -/
def Library.sinkSpanMatchesPrimary (row : List (String × Json)) (sink : Option Json)
    (sinkLine : Nat) : Bool :=
  let columns : Except String (Nat × Nat × Nat × Nat × Nat) := do
    let primaryStart ← lib.readLine (columnOf (row.lookup "start"))
    let primaryEnd ← lib.readLine (columnOf (row.lookup "end"))
    let primaryEndLine ← lib.readLine (field (row.lookup "end") "line")
    let traceStart ← lib.readLine (field sink "column")
    let traceEnd ← lib.readLine (field sink "end_column")
    pure (primaryStart, primaryEnd, primaryEndLine, traceStart, traceEnd)
  match columns with
  | .error _ => false
  | .ok (primaryStart, primaryEnd, primaryEndLine, traceStart, traceEnd) =>
      decide (0 < primaryStart ∧ primaryStart ≤ primaryEnd ∧ primaryEndLine = sinkLine ∧
        traceStart = primaryStart ∧ traceEnd = primaryEnd)

/-- A dataflow trace whose steps are identified and that ends at the location of its result. -/
def Library.completeDataflow (workspace : Workspace) (trace : Json) (row : List (String × Json))
    (sinkPath : String) (sinkLine : Nat) : Bool :=
  let sink := field (some trace) "taint_sink"
  lib.identifiedSource workspace (field (some trace) "taint_source") &&
    (match field (some trace) "intermediate_vars" with
      | some (.arr steps) => steps.all (lib.identifiedIntermediate workspace)
      | _ => false) &&
    lib.identifiedSink workspace sink && lib.sinkSpanMatchesPrimary row sink sinkLine &&
    decide (lib.located workspace sink = some (sinkPath, sinkLine))

/-- An identified path from a source to the sink of the result. -/
def Library.completeFlowTrace (workspace : Workspace) (engine : String) (trace : Option Json)
    (row : List (String × Json)) (sinkPath : String) (sinkLine : Nat) : Bool :=
  match trace with
  | none => false
  | some trace =>
      sinkPath != "" && decide (0 < sinkLine) &&
        if engine = codeql then lib.completeCodeFlow workspace trace row sinkPath sinkLine
        else lib.completeDataflow workspace trace row sinkPath sinkLine

/-! ## The class of a match -/

/-- The text behind the zeros and the digits of a class number; a description may follow a
colon. -/
def Library.cweSuffix (text : List Char) : Bool :=
  match text.dropWhile lib.isSpace with
  | [] => text.isEmpty
  | ':' :: rest => !(rest.dropWhile lib.isSpace).contains '\n'
  | _ => false

/-- A weakness class as the scanners write it. -/
def Library.cweText (raw : String) : Option String :=
  match (lib.strip raw).toList with
  | first :: second :: third :: rest =>
      if [first, second, third].map Char.toLower = ['c', 'w', 'e'] then
        let digits := (match rest with
          | '-' :: digits => digits
          | '_' :: digits => digits
          | digits => digits).dropWhile (· == '0')
        let number := digits.takeWhile Char.isDigit
        if number ≠ [] ∧ lib.cweSuffix (digits.dropWhile Char.isDigit) then
          some ("CWE-" ++ String.ofList number)
        else none
      else none
  | _ => none

def Library.normalizedCwe : Json → Option String
  | .arr [.str text] => lib.cweText text
  | .str text => lib.cweText text
  | _ => none

/-- The single weakness class that a row names. -/
def Library.cweOf (row : List (String × Json)) : Option String :=
  let sources := [field (row.lookup "extra") "metadata", row.lookup "properties"]
  let named := sources.filterMap fun source => field source "cwe"
  match named.mapM lib.normalizedCwe with
  | some (first :: rest) => if rest.all (· == first) then some first else none
  | _ => none

/-! ## The normalized match -/

/-- The fields of a row that only identify the scan. -/
def bookkeeping : List String :=
  ["check_id", "ruleId", "ruleIndex", "engine", "fingerprint", "fingerprints",
    "partialFingerprints", "guid", "correlationGuid", "result_index"]

/-- The first location of a SARIF result with its normalized position. -/
def normalizedLocation (span : Span) (location : Json) : Json :=
  let physical := mapping (field (some location) "physicalLocation")
  let artifact := assign "uri" (.str span.path) (mapping (physical.lookup "artifactLocation"))
  let region := assign "endColumn" (.int span.endColumn) <|
    assign "startColumn" (.int span.startColumn) <| assign "endLine" (.int span.endLine) <|
      assign "startLine" (.int span.line) (mapping (physical.lookup "region"))
  .obj (assign "physicalLocation"
    (.obj (assign "region" (.obj region) (assign "artifactLocation" (.obj artifact) physical)))
    (mapping (some location)))

/-- A position of a result with its normalized line and column. -/
def normalizedPosition (line column : Nat) (position : Option Json) : Json :=
  .obj (assign "column" (.int column) (assign "line" (.int line)
    ((mapping position).filter fun entry => entry.1 ∉ ["line", "col", "column"])))

/-- The fields of a row with the normalized location. -/
def placed (engine : String) (span : Span) (row : List (String × Json)) : List (String × Json) :=
  let kept := row.filter fun entry => entry.1 ∉ bookkeeping
  if engine = codeql then
    match kept.lookup "locations" with
    | some (.arr (first :: rest)) =>
        assign "locations" (.arr (normalizedLocation span first :: rest)) kept
    | _ => kept
  else
    assign "end" (normalizedPosition span.endLine span.endColumn (row.lookup "end")) <|
      assign "start" (normalizedPosition span.line span.startColumn (row.lookup "start")) <|
        assign "path" (.str span.path) kept

/-- The metadata of a row without the kind, and with the normalized class. -/
def normalizedMetadata (cwe : Option String) (metadata : List (String × Json)) :
    List (String × Json) :=
  let kept := metadata.filter fun entry => entry.1 ≠ "candidate_kind"
  match cwe with
  | some cwe => if (kept.lookup "cwe").isSome then assign "cwe" (.str cwe) kept else kept
  | none => kept

def normalizedExtra (cwe : Option String) (extra : List (String × Json)) : List (String × Json) :=
  let kept := extra.filter fun entry => entry.1 ≠ "engine_kind"
  match kept.lookup "metadata" with
  | some (.obj metadata) =>
      if normalizedMetadata cwe metadata = [] then kept.filter fun entry => entry.1 ≠ "metadata"
      else assign "metadata" (.obj (normalizedMetadata cwe metadata)) kept
  | _ => kept

/-- The extra fields of a match, normalized. -/
def withExtra (cwe : Option String) (fields : List (String × Json)) : List (String × Json) :=
  match fields.lookup "extra" with
  | some (.obj extra) => assign "extra" (.obj (normalizedExtra cwe extra)) fields
  | _ => fields

/-- The class among the properties of a match, normalized. -/
def withProperties (cwe : Option String) (fields : List (String × Json)) : List (String × Json) :=
  match cwe, fields.lookup "properties" with
  | some cwe, some (.obj properties) =>
      if (properties.lookup "cwe").isSome then
        assign "properties" (.obj (assign "cwe" (.str cwe) properties)) fields
      else fields
  | _, _ => fields

/-- The complete normalized match of a row. -/
def normalizedMatch (engine : String) (span : Span) (cwe : Option String)
    (row : List (String × Json)) : Json :=
  .obj (withProperties cwe (withExtra cwe (placed engine span row)))

end Sastsimi.Candidates
