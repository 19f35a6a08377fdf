import Sastsimi.Candidates.Normalize

/-!
# Candidate pages

The rows of one artifact are normalized page by page into candidates with exact identities, and
a page is merged into the candidates that are already stored.
-/

namespace Sastsimi.Candidates

open Sastsimi.Lib

/-- The hash of the content of an artifact: 64 hexadecimal digits. -/
structure ContentHash where
  text : String
  size : text.length = 64
  digits : text.toList.all (fun digit => digit.isDigit || "abcdef".toList.contains digit) = true
  deriving DecidableEq

/-- What the rows of one page have in common. -/
structure Page where
  commitId : String
  scopeFingerprint : String
  engine : String
  artifactHash : ContentHash
  workspace : Workspace

/-- A place where a candidate was found. -/
structure Origin where
  engine : String
  ruleId : String
  artifactHash : ContentHash
  resultIndex : Nat
  deriving DecidableEq

structure Candidate where
  candidateId : String
  kind : CandidateKind
  path : String
  line : Nat
  endLine : Nat
  startColumn : Nat
  endColumn : Nat
  origins : List Origin
  flowIdentity : Option String
  evidenceKey : String
  summary : String
  evidenceExcerpt : String
  flowTrace : Option Json

/-! ## One row -/

/-- What the normalization reads from a row. -/
structure Reading where
  span : Span
  kind : CandidateKind
  trace : Option Json
  /-- The trace is an identified path from a source to the sink. -/
  complete : Bool
  cwe : Option String
  ruleId : String
  content : Json
  summary : String
  excerpt : String

variable (lib : Library) (sha256 : List Char → String)

/-- The message and the excerpt of a row. -/
def Library.readTexts (engine : String) (row : List (String × Json)) : String × String :=
  if engine = codeql then
    let message := lib.textOf (field (row.lookup "message") "text")
    (message, message)
  else
    let summary := lib.textOf (field (row.lookup "extra") "message")
    let excerpt := field (row.lookup "extra") "lines"
    (summary, if excerpt.any lib.truthy then lib.textOf excerpt else summary)

/-- Read a row; a trace counts as complete only for a flow. -/
def Library.readRow (page : Page) (row : List (String × Json)) : Except String Reading := do
  let span ← if page.engine = codeql then lib.sarifLocation page.workspace row
    else lib.rowLocation page.workspace row
  let trace := flowTrace page.engine row
  let kind := kindOf page.engine row trace
  let cwe := lib.cweOf row
  let texts := lib.readTexts page.engine row
  pure {
    span := span
    kind := kind
    trace := trace
    complete := kind == .flow &&
      lib.completeFlowTrace page.workspace page.engine trace row span.path span.line
    cwe := cwe
    ruleId := lib.textOf (row.lookup (if page.engine = codeql then "ruleId" else "check_id"))
    content := normalizedMatch page.engine span cwe row
    summary := texts.1
    excerpt := texts.2 }

/-! ## Identities -/

/-- The hash of the canonical text of a value. -/
def hashed (value : Json) : Except String String :=
  match value.canonical with
  | some text => .ok (sha256 text)
  | none => .error "numbers must be integers"

/-- The class that keeps a match apart from every other row. -/
def originClass (page : Page) (index : Nat) : String :=
  "origin:" ++ page.engine ++ ":" ++ page.artifactHash.text ++ ":" ++ index.repr

/-- The class within which equal matches are one candidate. -/
def classKey (page : Page) (index : Nat) (reading : Reading) : String :=
  if reading.kind ≠ .flow ∨ reading.complete = false then originClass page index
  else
    match reading.cwe with
    | some cwe => "cwe:" ++ cwe
    | none =>
        if reading.ruleId ≠ "" then "rule:" ++ page.engine ++ ":" ++ reading.ruleId
        else originClass page index

/-- What the evidence key hashes. -/
def evidence (page : Page) (index : Nat) (reading : Reading) : Json :=
  .obj [("kind", .str reading.kind.text), ("class", .str (classKey page index reading)),
    ("match", reading.content)]

/-- The evidence key of a match: the hash of the complete normalized match. -/
def exactEvidenceKey (page : Page) (index : Nat) (reading : Reading) : Except String String :=
  (hashed sha256 (evidence page index reading)).map ("exact-v2:" ++ ·)

/-- What the candidate id hashes. -/
def stable (page : Page) (reading : Reading) (evidenceKey : String) : Json :=
  let fields : List (String × Json) := [("scope_fingerprint", .str page.scopeFingerprint),
    ("commit_id", .str page.commitId), ("kind", .str reading.kind.text),
    ("path", .str reading.span.path), ("line", .int reading.span.line),
    ("end_line", .int reading.span.endLine), ("evidence_key", .str evidenceKey)]
  let columns : List (String × Json) := [("start_column", .int reading.span.startColumn),
    ("end_column", .int reading.span.endColumn)]
  if reading.span.startColumn ≠ 0 ∨ reading.span.endColumn ≠ 0 then .obj (fields ++ columns)
  else .obj fields

/-- The hash of a trace. -/
def traceHash : Option Json → Except String (Option String)
  | none => .ok none
  | some trace => (hashed sha256 trace).map some

/-- The candidate of a row that was read. -/
def candidateOf (page : Page) (index : Nat) (reading : Reading) : Except String Candidate := do
  let trace ← traceHash sha256 reading.trace
  let evidenceKey ← exactEvidenceKey sha256 page index reading
  let candidateId ← hashed sha256 (stable page reading evidenceKey)
  pure {
    candidateId := candidateId
    kind := reading.kind
    path := reading.span.path
    line := reading.span.line
    endLine := reading.span.endLine
    startColumn := reading.span.startColumn
    endColumn := reading.span.endColumn
    origins := [⟨page.engine, reading.ruleId, page.artifactHash, index⟩]
    flowIdentity := if reading.kind = .flow then trace else none
    evidenceKey := evidenceKey
    summary := reading.summary
    evidenceExcerpt := reading.excerpt
    flowTrace := reading.trace }

/-- The candidates of a raw row: one for every flow row, without repeated ids. -/
def normalizeRow (page : Page) (index : Nat) (row : List (String × Json)) :
    Except String (List Candidate) := do
  let found ← (flowRows page.engine row).mapM fun variant => do
    candidateOf sha256 page index (← lib.readRow page variant)
  pure (found.foldl (fun kept candidate =>
    if candidate.candidateId ∈ kept.map Candidate.candidateId then kept
    else kept ++ [candidate]) [])

/-- Normalize a page of rows with the exact identity. -/
def normalizeCandidatePage (page : Page) (startOffset : Nat)
    (rows : List (List (String × Json))) : Except String (List Candidate) := do
  raiseIf (page.scopeFingerprint = "" ∨ page.engine = "") "CANDIDATE_SCOPE_INVALID"
  let candidates ← (rows.zipIdx startOffset).mapM fun (row, index) =>
    normalizeRow lib sha256 page index row
  pure candidates.flatten

/-! ## Stored candidates -/

/-- The candidates of one scope and the offsets up to which artifacts are stored. -/
structure CandidateStore where
  candidates : List Candidate
  cursors : List (ContentHash × Nat)

/-- The order of origins. -/
def Origin.key (origin : Origin) : String × String × String × Nat :=
  (origin.engine, origin.ruleId, origin.artifactHash.text, origin.resultIndex)

def Origin.before (left right : Origin) : Bool :=
  decide (left.engine < right.engine ∨ left.engine = right.engine ∧
    (left.ruleId < right.ruleId ∨ left.ruleId = right.ruleId ∧
      (left.artifactHash.text < right.artifactHash.text ∨
        left.artifactHash.text = right.artifactHash.text ∧ left.resultIndex ≤ right.resultIndex)))

/-- The origins of both candidates, each once and in order. -/
def mergeOrigins (previous added : List Origin) : List Origin :=
  (previous ++ added).eraseDups.insertionSort fun left right => left.before right

/-- Two candidates with one id agree. -/
def Candidate.agrees (previous candidate : Candidate) : Bool :=
  decide (previous.kind = candidate.kind ∧ previous.path = candidate.path ∧
    previous.line = candidate.line ∧ previous.endLine = candidate.endLine ∧
    previous.flowIdentity = candidate.flowIdentity ∧
    previous.evidenceKey = candidate.evidenceKey)

def idConflict : String := "CANDIDATE_ID_CONFLICT"

/-- Insert a candidate, or merge its origins into the stored one. -/
def upsertCandidate (stored : List Candidate) (candidate : Candidate) :
    Except String (List Candidate) :=
  match stored.find? (·.candidateId == candidate.candidateId) with
  | none => .ok (stored ++ [candidate])
  | some previous =>
      if previous.agrees candidate then
        .ok (stored.map fun row =>
          if row.candidateId = candidate.candidateId then
            { row with origins := mergeOrigins row.origins candidate.origins }
          else row)
      else .error idConflict

/-- Store a page of candidates and its cursor. -/
def upsertCandidatePage (store : CandidateStore) (artifactHash : ContentHash)
    (startOffset endOffset : Nat) (candidates : List Candidate) :
    Except String CandidateStore := do
  raiseIf (endOffset ≤ startOffset) "CANDIDATE_PAGE_INVALID"
  raiseIf (∃ candidate ∈ candidates, candidate.origins = [] ∨
    ∃ origin ∈ candidate.origins, origin.artifactHash ≠ artifactHash ∨
      origin.resultIndex < startOffset ∨ endOffset ≤ origin.resultIndex) "CANDIDATE_PAGE_INVALID"
  let current := ((store.cursors.find? (·.1 = artifactHash)).map Prod.snd).getD 0
  -- a page committed before an interruption is safe to replay
  if current = endOffset ∧ startOffset < current then pure store
  else do
    raiseIf (current ≠ startOffset) "CANDIDATE_CURSOR_CONFLICT"
    let stored ← candidates.foldlM upsertCandidate store.candidates
    pure ⟨stored, (artifactHash, endOffset) :: store.cursors.filter (·.1 ≠ artifactHash)⟩

/-! ## Ingestion -/

/-- The ingestion of one page of rows. -/
structure Ingestion where
  page : Page
  startOffset : Nat
  endOffset : Nat
  rows : List (List (String × Json))

/-- Normalize a page and store it; a failure changes nothing. -/
def Ingestion.perform (store : CandidateStore) (ingestion : Ingestion) :
    Except String CandidateStore := do
  let candidates ← normalizeCandidatePage lib sha256 ingestion.page ingestion.startOffset
    ingestion.rows
  upsertCandidatePage store ingestion.page.artifactHash ingestion.startOffset
    ingestion.endOffset candidates

end Sastsimi.Candidates
