import Sastsimi.Candidates.Page
import Sastsimi.Lib.JsonUnique

/-!
# Sound candidate identities

With an injective hash the id of a candidate determines what was hashed.  Two rows share an id
only when they are the same row, or complete flows with the same normalized match and the same
weakness class or the same rule of the same engine; what a merge compares is then equal, as long
as both rows are read in one trace format.
-/

namespace Sastsimi.Candidates

open Sastsimi.Lib

/-! ## Joined texts -/

section Joined

variable {first second : List Char}

/-- A part without colon in front of a colon is determined. -/
theorem split_first {front back : List Char} (noColon : ':' ∉ first) (other : ':' ∉ second)
    (same : first ++ ':' :: front = second ++ ':' :: back) : first = second ∧ front = back := by
  induction first generalizing second with
  | nil =>
      cases second with
      | nil => exact ⟨rfl, (List.cons.inj same).2⟩
      | cons character rest =>
          exact absurd ((List.cons.inj same).1 ▸ List.mem_cons_self) other
  | cons character rest ih =>
      cases second with
      | nil => exact absurd ((List.cons.inj same).1 ▸ List.mem_cons_self) noColon
      | cons next others =>
          have parts := List.cons.inj same
          have step := ih (fun member => noColon (List.mem_cons_of_mem _ member))
            (fun member => other (List.mem_cons_of_mem _ member)) parts.2
          exact ⟨by rw [parts.1, step.1], step.2⟩

/-- A part without colon behind a colon is determined. -/
theorem split_last {front back : List Char} (noColon : ':' ∉ front) (other : ':' ∉ back)
    (same : first ++ ':' :: front = second ++ ':' :: back) : first = second ∧ front = back := by
  have mirrored : front.reverse ++ ':' :: first.reverse = back.reverse ++ ':' :: second.reverse := by
    simpa using congrArg List.reverse same
  have parts := split_first (fun member => noColon (List.mem_reverse.1 member))
    (fun member => other (List.mem_reverse.1 member)) mirrored
  exact ⟨List.reverse_injective parts.2, List.reverse_injective parts.1⟩

end Joined

/-! ## Hashes -/

section Hashes

variable {sha256 : List Char → String} {value other : Json} {digest : String}

theorem canonical_congr (same : value.sorted = other.sorted) : value.canonical = other.canonical := by
  rw [Json.canonical, Json.canonical, same, ← Json.integral_sorted value, same,
    Json.integral_sorted]

theorem hashed_congr (same : value.sorted = other.sorted) :
    hashed sha256 value = hashed sha256 other := by
  rw [hashed, hashed, canonical_congr same]

/-- With an injective hash the hash of a value determines its canonical form. -/
theorem hashed_inj (injective : Function.Injective sha256)
    (first : hashed sha256 value = .ok digest) (second : hashed sha256 other = .ok digest) :
    value.sorted = other.sorted := by
  rw [hashed] at first second
  split at first
  · rename_i text canonical
    split at second
    · rename_i text' canonical'
      have same : text = text' := injective (Except.ok.inj (first.trans second.symm))
      exact Json.canonical_inj canonical (same ▸ canonical')
    · cases second
  · cases first

end Hashes

/-! ## The hashed values -/

section Hashed

variable {page second : Page} {reading other : Reading} {index position : Nat} {key : String}

theorem CandidateKind.text_inj {kind other : CandidateKind} (same : kind.text = other.text) :
    kind = other := by
  cases kind <;> cases other <;> first | rfl | exact absurd same (by decide)

theorem stable_fields (page : Page) (reading : Reading) (key : String) :
    (stable page reading key).get? "kind" = some (.str reading.kind.text) ∧
      (stable page reading key).get? "path" = some (.str reading.span.path) ∧
      (stable page reading key).get? "line" = some (.int reading.span.line) ∧
      (stable page reading key).get? "end_line" = some (.int reading.span.endLine) ∧
      (stable page reading key).get? "evidence_key" = some (.str key) := by
  rw [stable]
  split <;> exact ⟨rfl, rfl, rfl, rfl, rfl⟩

theorem int_inj {number value : Nat} (same : Option.map Json.sorted (some (.int number)) =
    Option.map Json.sorted (some (.int value))) : number = value :=
  Int.ofNat.inj (Json.int.inj (Option.some.inj same))

/-- The canonical form of what an id hashes determines what it is built from. -/
theorem stable_inj {otherKey : String}
    (same : (stable page reading key).sorted = (stable second other otherKey).sorted) :
    reading.kind = other.kind ∧ reading.span.path = other.span.path ∧
      reading.span.line = other.span.line ∧ reading.span.endLine = other.span.endLine ∧
      key = otherKey := by
  have fields := Json.field_of_sorted same
  obtain ⟨kind, path, line, endLine, evidence⟩ := stable_fields page reading key
  obtain ⟨kind', path', line', endLine', evidence'⟩ := stable_fields second other otherKey
  have sameKind := fields "kind"
  have samePath := fields "path"
  have sameLine := fields "line"
  have sameEnd := fields "end_line"
  have sameKey := fields "evidence_key"
  rw [kind, kind'] at sameKind
  rw [path, path'] at samePath
  rw [line, line'] at sameLine
  rw [endLine, endLine'] at sameEnd
  rw [evidence, evidence'] at sameKey
  exact ⟨CandidateKind.text_inj (Json.str_inj sameKind), Json.str_inj samePath, int_inj sameLine,
    int_inj sameEnd, Json.str_inj sameKey⟩

/-- The canonical form of the evidence determines the class and the match. -/
theorem evidence_inj
    (same : (evidence page index reading).sorted = (evidence second position other).sorted) :
    classKey page index reading = classKey second position other ∧
      reading.content.sorted = other.content.sorted := by
  have fields := Json.field_of_sorted same
  have sameClass : Option.map Json.sorted (some (.str (classKey page index reading))) =
      Option.map Json.sorted (some (.str (classKey second position other))) := fields "class"
  have sameMatch : Option.map Json.sorted (some reading.content) =
      Option.map Json.sorted (some other.content) := fields "match"
  exact ⟨Json.str_inj sameClass, Option.some.inj sameMatch⟩

end Hashed

/-! ## Classes -/

section Classes

variable {page second : Page} {reading other : Reading} {index position : Nat}

/-- The class of a reading: its own row, its weakness, or its rule. -/
inductive Classified (page : Page) (index : Nat) (reading : Reading) : Prop where
  | origin (same : classKey page index reading = originClass page index)
  | weakness (cwe : String) (isFlow : reading.kind = .flow) (complete : reading.complete = true)
      (named : reading.cwe = some cwe) (same : classKey page index reading = "cwe:" ++ cwe)
  | rule (isFlow : reading.kind = .flow) (complete : reading.complete = true)
      (same : classKey page index reading = "rule:" ++ page.engine ++ ":" ++ reading.ruleId)

theorem classified (page : Page) (index : Nat) (reading : Reading) :
    Classified page index reading := by
  by_cases apart : reading.kind ≠ .flow ∨ reading.complete = false
  · exact .origin (by rw [classKey, if_pos apart])
  · have isFlow : reading.kind = .flow := by
      by_contra other
      exact apart (.inl other)
    have complete : reading.complete = true := by
      by_contra other
      exact apart (.inr (by simpa using other))
    cases named : reading.cwe with
    | some cwe => exact .weakness cwe isFlow complete named (by rw [classKey, if_neg apart, named])
    | none =>
        by_cases ruled : reading.ruleId ≠ ""
        · exact .rule isFlow complete (by rw [classKey, if_neg apart, named]; exact if_pos ruled)
        · exact .origin (by rw [classKey, if_neg apart, named]; exact if_neg ruled)

theorem head_origin : (originClass page index).toList.head? = some 'o' := by
  simp [originClass]

theorem head_weakness (cwe : String) : ("cwe:" ++ cwe).toList.head? = some 'c' := by simp

theorem head_rule (engine rule : String) :
    ("rule:" ++ engine ++ ":" ++ rule).toList.head? = some 'r' := by simp

theorem ContentHash.noColon (hash : ContentHash) : ':' ∉ hash.text.toList := by
  intro member
  exact absurd (List.all_eq_true.1 hash.digits ':' member) (by decide)

theorem repr_noColon (number : Nat) : ':' ∉ number.repr.toList := by
  intro member
  exact absurd (List.all_eq_true.1 (repr_digits number) ':' member) (by decide)

theorem ContentHash.text_inj {hash other : ContentHash} (same : hash.text = other.text) :
    hash = other := by
  cases hash
  cases other
  cases same
  rfl

theorem colon_toList : ":".toList = [':'] := rfl

/-- The class of a single row names the row. -/
theorem originClass_inj (same : originClass page index = originClass second position) :
    page.engine = second.engine ∧ page.artifactHash = second.artifactHash ∧ index = position := by
  have texts := congrArg String.toList same
  simp only [originClass, String.toList_append, colon_toList, List.append_assoc,
    List.singleton_append] at texts
  have behind := List.append_cancel_left texts
  rw [← List.append_assoc, ← List.append_assoc] at behind
  have last := split_last (repr_noColon index) (repr_noColon position) behind
  have first := split_last page.artifactHash.noColon second.artifactHash.noColon last.1
  have number : some index = some position := by
    rw [← readDecimal_repr index, last.2, readDecimal_repr]
  exact ⟨String.toList_inj.1 first.1, ContentHash.text_inj (String.toList_inj.1 first.2),
    Option.some.inj number⟩

theorem rule_inj {engine otherEngine rule otherRule : String} (noColon : ':' ∉ engine.toList)
    (other : ':' ∉ otherEngine.toList)
    (same : "rule:" ++ engine ++ ":" ++ rule = "rule:" ++ otherEngine ++ ":" ++ otherRule) :
    engine = otherEngine ∧ rule = otherRule := by
  have texts := congrArg String.toList same
  simp only [String.toList_append, colon_toList, List.append_assoc, List.singleton_append] at texts
  have parts := split_first noColon other (List.append_cancel_left texts)
  exact ⟨String.toList_inj.1 parts.1, String.toList_inj.1 parts.2⟩

end Classes

/-! ## The trace of a match -/

section Traces

variable {engine : String} {span : Span} {cwe : Option String} {row fields : List (String × Json)}
  {key : String}

theorem lookup_filter (keep : String → Bool) (kept : keep key = true) :
    (fields.filter fun entry => keep entry.1).lookup key = fields.lookup key := by
  induction fields with
  | nil => rfl
  | cons entry rest ih =>
      rw [List.filter_cons]
      by_cases same : key = entry.1
      · rw [if_pos (same ▸ kept), List.lookup_cons, List.lookup_cons, same, beq_self_eq_true]
      · have differs : (key == entry.1) = false := by simpa using same
        split
        · rw [List.lookup_cons, List.lookup_cons, differs, ih]
        · rw [List.lookup_cons, differs, ih]

theorem lookup_withProperties (differs : key ≠ "properties") :
    (withProperties cwe fields).lookup key = fields.lookup key := by
  unfold withProperties
  split
  · split
    · exact lookup_assign_other differs
    · rfl
  · rfl

theorem lookup_withExtra (differs : key ≠ "extra") :
    (withExtra cwe fields).lookup key = fields.lookup key := by
  rw [withExtra]
  split
  · exact lookup_assign_other differs
  · rfl

theorem lookup_placed (kept : key ∉ bookkeeping)
    (other : key ∉ ["locations", "path", "start", "end"]) :
    (placed engine span row).lookup key = row.lookup key := by
  have filtered : (row.filter fun entry => decide (entry.1 ∉ bookkeeping)).lookup key =
      row.lookup key :=
    lookup_filter (fun name => decide (name ∉ bookkeeping)) (by simpa using kept)
  simp only [List.mem_cons, List.not_mem_nil, or_false, not_or] at other
  rw [placed]
  split
  · split
    · rw [lookup_assign_other other.1, filtered]
    · exact filtered
  · rw [lookup_assign_other other.2.2.2, lookup_assign_other other.2.2.1,
      lookup_assign_other other.2.1, filtered]

theorem lookup_normalizedExtra (kept : key ≠ "engine_kind") (other : key ≠ "metadata") :
    (normalizedExtra cwe fields).lookup key = fields.lookup key := by
  have filtered : (fields.filter fun entry => decide (entry.1 ≠ "engine_kind")).lookup key =
      fields.lookup key :=
    lookup_filter (fun name => decide (name ≠ "engine_kind")) (by simpa using kept)
  rw [normalizedExtra]
  split
  · split
    · rw [← filtered]
      exact lookup_filter (fun name => decide (name ≠ "metadata")) (by simpa using other)
    · rw [lookup_assign_other other, filtered]
  · exact filtered

/-- The match keeps the code flows of a row. -/
theorem match_codeFlows :
    (normalizedMatch engine span cwe row).get? "codeFlows" = row.lookup "codeFlows" := by
  rw [normalizedMatch, Json.get?, lookup_withProperties (by decide), lookup_withExtra (by decide),
    lookup_placed (by decide) (by decide)]

/-- The match keeps the dataflow trace of a row. -/
theorem match_dataflow :
    field ((normalizedMatch engine span cwe row).get? "extra") "dataflow_trace" =
      field (row.lookup "extra") "dataflow_trace" := by
  have place : (placed engine span row).lookup "extra" = row.lookup "extra" :=
    lookup_placed (by decide) (by decide)
  rw [normalizedMatch, Json.get?, lookup_withProperties (by decide), withExtra, place]
  split
  · rename_i extra found
    rw [lookup_assign_same, found]
    exact lookup_normalizedExtra (by decide) (by decide)
  · rw [place]

/-- Both engines write their traces in one format. -/
def SameFormat (first second : Page) : Prop :=
  first.engine = codeql ↔ second.engine = codeql

theorem sorted_field {value other : Option Json} (same : value.map Json.sorted =
    other.map Json.sorted) (key : String) :
    (field value key).map Json.sorted = (field other key).map Json.sorted := by
  have found (value : Option Json) : (field value key).map Json.sorted =
      (value.map Json.sorted).bind fun value => value.get? key := by
    cases value with
    | none => rfl
    | some value =>
        rw [Option.map_some, Option.bind_some, Json.get?_sorted]
        cases value <;> rfl
  rw [found, found, same]

/-- The trace of code flows. -/
def codeTrace : Option Json → Option Json
  | some (.arr (flow :: flows)) => some (.obj [("codeFlows", .arr (flow :: flows))])
  | _ => none

/-- The trace of a dataflow. -/
def dataTrace : Option Json → Option Json
  | some (.obj fields) => some (.obj fields)
  | _ => none

theorem flowTrace_eq : flowTrace engine row =
    if engine = codeql then codeTrace (row.lookup "codeFlows")
    else dataTrace (field (row.lookup "extra") "dataflow_trace") := by
  unfold flowTrace codeTrace dataTrace
  rfl

theorem sorted_codeTrace (value : Option Json) :
    (codeTrace value).map Json.sorted = codeTrace (value.map Json.sorted) := by
  cases value with
  | none => rfl
  | some value =>
      cases value with
      | arr items => cases items <;> rfl
      | _ => rfl

theorem sorted_dataTrace (value : Option Json) :
    (dataTrace value).map Json.sorted = dataTrace (value.map Json.sorted) := by
  cases value with
  | none => rfl
  | some value => cases value <;> rfl

/-- Equal matches have equal traces in each format. -/
theorem flowTrace_congr {other : String} {place : Span} {label : Option String}
    {different : List (String × Json)} (format : engine = codeql ↔ other = codeql)
    (same : (normalizedMatch engine span cwe row).sorted =
      (normalizedMatch other place label different).sorted) :
    (flowTrace engine row).map Json.sorted = (flowTrace other different).map Json.sorted := by
  rw [flowTrace_eq, flowTrace_eq]
  by_cases isCodeql : engine = codeql
  · have flows := Json.field_of_sorted same "codeFlows"
    rw [match_codeFlows, match_codeFlows] at flows
    rw [if_pos isCodeql, if_pos (format.1 isCodeql), sorted_codeTrace, sorted_codeTrace, flows]
  · have extra := sorted_field (Json.field_of_sorted same "extra") "dataflow_trace"
    rw [match_dataflow, match_dataflow] at extra
    rw [if_neg isCodeql, if_neg fun same => isCodeql (format.2 same), sorted_dataTrace,
      sorted_dataTrace, extra]

end Traces

/-! ## Candidates of rows -/

section Rows

variable {lib : Library} {sha256 : List Char → String} {page second : Page}
  {row different : List (String × Json)} {index position : Nat} {candidate found later : Candidate}

/-- A candidate of a raw row, with what was read from the flow row it stands for. -/
structure Yields (lib : Library) (sha256 : List Char → String) (page : Page) (index : Nat)
    (row : List (String × Json)) (candidate : Candidate) (reading : Reading) : Prop where
  variant : ∃ variant ∈ flowRows page.engine row, lib.readRow page variant = .ok reading
  built : candidateOf sha256 page index reading = .ok candidate

/-- Every candidate of a raw row stands for one of its flow rows. -/
theorem yields_of_mem {candidates : List Candidate}
    (normalized : normalizeRow lib sha256 page index row = .ok candidates)
    (member : candidate ∈ candidates) : ∃ reading, Yields lib sha256 page index row candidate reading := by
  obtain ⟨all, mapped, kept⟩ := except_bind_ok normalized
  have kept : all.foldl (fun kept candidate =>
      if candidate.candidateId ∈ kept.map Candidate.candidateId then kept
      else kept ++ [candidate]) [] = candidates := Except.ok.inj kept
  have fromAll (candidates kept : List Candidate) (inside : candidate ∈ candidates.foldl
      (fun kept candidate => if candidate.candidateId ∈ kept.map Candidate.candidateId then kept
        else kept ++ [candidate]) kept) : candidate ∈ kept ∨ candidate ∈ candidates := by
    induction candidates generalizing kept with
    | nil => exact .inl inside
    | cons first rest ih =>
        rw [List.foldl_cons] at inside
        rcases ih _ inside with inside | inside
        · split at inside
          · exact .inl inside
          · rcases List.mem_append.1 inside with inside | inside
            · exact .inl inside
            · exact .inr (List.mem_singleton.1 inside ▸ List.mem_cons_self)
        · exact .inr (List.mem_cons_of_mem _ inside)
  have inside : candidate ∈ all := by
    rcases fromAll all [] (kept ▸ member) with inside | inside
    · cases inside
    · exact inside
  obtain ⟨variant, isVariant, computed⟩ := (mem_mapM_ok mapped candidate).1 inside
  obtain ⟨reading, read, built⟩ := except_bind_ok computed
  exact ⟨reading, ⟨variant, isVariant, read⟩, built⟩

/-- What a reading keeps of its row. -/
theorem readRow_ok {reading : Reading} (read : lib.readRow page row = .ok reading) :
    reading.trace = flowTrace page.engine row ∧
      reading.content = normalizedMatch page.engine reading.span reading.cwe row := by
  rw [Library.readRow] at read
  split at read
  all_goals
    obtain ⟨span, -, built⟩ := except_bind_ok read
    obtain rfl := Except.ok.inj built
    exact ⟨rfl, rfl⟩

/-- What a candidate keeps of its reading. -/
theorem candidateOf_ok {reading : Reading}
    (built : candidateOf sha256 page index reading = .ok candidate) :
    ∃ trace evidenceKey, traceHash sha256 reading.trace = .ok trace ∧
      exactEvidenceKey sha256 page index reading = .ok evidenceKey ∧
      hashed sha256 (stable page reading evidenceKey) = .ok candidate.candidateId ∧
      candidate.kind = reading.kind ∧ candidate.path = reading.span.path ∧
      candidate.line = reading.span.line ∧ candidate.endLine = reading.span.endLine ∧
      candidate.evidenceKey = evidenceKey ∧
      candidate.flowIdentity = if reading.kind = .flow then trace else none := by
  obtain ⟨trace, traced, built⟩ := except_bind_ok built
  obtain ⟨evidenceKey, keyed, built⟩ := except_bind_ok built
  obtain ⟨candidateId, identified, built⟩ := except_bind_ok built
  obtain rfl := Except.ok.inj built
  exact ⟨trace, evidenceKey, traced, keyed, identified, rfl, rfl, rfl, rfl, rfl, rfl⟩

/-- Both rows are complete flows with one normalized match, of one weakness class or of one rule
of one engine. -/
structure SameFlow (first second : Page) (reading other : Reading) : Prop where
  flows : reading.kind = .flow ∧ other.kind = .flow
  complete : reading.complete = true ∧ other.complete = true
  content : reading.content.sorted = other.content.sorted
  trace : SameFormat first second → reading.trace.map Json.sorted = other.trace.map Json.sorted
  classes : (∃ cwe, reading.cwe = some cwe ∧ other.cwe = some cwe) ∨
    (first.engine = second.engine ∧ reading.ruleId = other.ruleId)

/-- The rows are one row: same engine, artifact and index. -/
structure SameRow (first second : Page) (index position : Nat) : Prop where
  engine : first.engine = second.engine
  artifact : first.artifactHash = second.artifactHash
  position : index = position

/-- What two candidates with one id share. -/
structure SameEvidence (first second : Page) (found later : Candidate) : Prop where
  kind : found.kind = later.kind
  path : found.path = later.path
  line : found.line = later.line
  endLine : found.endLine = later.endLine
  evidenceKey : found.evidenceKey = later.evidenceKey
  flowIdentity : SameFormat first second → found.flowIdentity = later.flowIdentity

theorem traceHash_congr {trace other : Option Json}
    (same : trace.map Json.sorted = other.map Json.sorted) :
    traceHash sha256 trace = traceHash sha256 other := by
  cases trace with
  | none =>
      cases other with
      | none => rfl
      | some other => cases same
  | some trace =>
      cases other with
      | none => cases same
      | some other => rw [traceHash, traceHash, hashed_congr (Option.some.inj same)]

/-- The evidence key determines the hashed evidence. -/
theorem exactEvidenceKey_inj (injective : Function.Injective sha256) {reading other : Reading}
    {key : String} (first : exactEvidenceKey sha256 page index reading = .ok key)
    (later : exactEvidenceKey sha256 second position other = .ok key) :
    (evidence page index reading).sorted = (evidence second position other).sorted := by
  obtain ⟨digest, hashes, rfl⟩ := except_map_ok first
  obtain ⟨digest', hashes', same⟩ := except_map_ok later
  have equal : digest = digest' := by
    have texts := congrArg String.toList same
    rw [String.toList_append, String.toList_append] at texts
    exact String.toList_inj.1 (List.append_cancel_left texts).symm
  exact hashed_inj injective hashes (equal ▸ hashes')

/-- What one id tells about two readings. -/
theorem sameEvidence (injective : Function.Injective sha256) {reading other : Reading}
    (first : Yields lib sha256 page index row found reading)
    (yields : Yields lib sha256 second position different later other)
    (same : found.candidateId = later.candidateId) :
    SameEvidence page second found later ∧
      classKey page index reading = classKey second position other ∧
      reading.content.sorted = other.content.sorted ∧
      (SameFormat page second → reading.trace.map Json.sorted = other.trace.map Json.sorted) := by
  obtain ⟨trace, key, traced, keyed, identified, kind, path, line, endLine, isKey, flow⟩ :=
    candidateOf_ok first.built
  obtain ⟨trace', key', traced', keyed', identified', kind', path', line', endLine', isKey', flow'⟩ :=
    candidateOf_ok yields.built
  rw [same] at identified
  obtain ⟨sameKind, samePath, sameLine, sameEnd, sameKey⟩ :=
    stable_inj (hashed_inj injective identified identified')
  obtain ⟨sameClass, sameContent⟩ :=
    evidence_inj (exactEvidenceKey_inj injective keyed (sameKey ▸ keyed'))
  obtain ⟨variant, -, read⟩ := first.variant
  obtain ⟨variant', -, read'⟩ := yields.variant
  have sameTrace (format : SameFormat page second) :
      reading.trace.map Json.sorted = other.trace.map Json.sorted := by
    rw [(readRow_ok read).1, (readRow_ok read').1]
    exact flowTrace_congr format ((readRow_ok read).2 ▸ (readRow_ok read').2 ▸ sameContent)
  refine ⟨⟨?_, ?_, ?_, ?_, ?_, ?_⟩, sameClass, sameContent, sameTrace⟩
  · rw [kind, kind', sameKind]
  · rw [path, path', samePath]
  · rw [line, line', sameLine]
  · rw [endLine, endLine', sameEnd]
  · rw [isKey, isKey', sameKey]
  · intro format
    rw [traceHash_congr (sameTrace format), traced'] at traced
    rw [flow, flow', sameKind, Except.ok.inj traced]

/-- One class is one row, one weakness or one rule. -/
theorem sameClass {reading other : Reading} (noColon : ':' ∉ page.engine.toList)
    (otherNoColon : ':' ∉ second.engine.toList)
    (same : classKey page index reading = classKey second position other)
    (content : reading.content.sorted = other.content.sorted)
    (trace : SameFormat page second → reading.trace.map Json.sorted = other.trace.map Json.sorted) :
    SameRow page second index position ∨ SameFlow page second reading other := by
  have heads {text value : String} {first later : Char} (isFirst : text.toList.head? = some first)
      (isLater : value.toList.head? = some later) (equal : text = value) : first = later := by
    rw [equal, isLater] at isFirst
    exact (Option.some.inj isFirst).symm
  cases classified page index reading with
  | origin own =>
      cases classified second position other with
      | origin other =>
          obtain ⟨engine, artifact, index⟩ := originClass_inj (own.symm.trans (same.trans other))
          exact .inl ⟨engine, artifact, index⟩
      | weakness cwe _ _ _ other =>
          exact absurd (heads head_origin (head_weakness cwe)
            (own.symm.trans (same.trans other))) (by decide)
      | rule _ _ other =>
          exact absurd (heads head_origin (head_rule _ _) (own.symm.trans (same.trans other)))
            (by decide)
  | weakness cwe isFlow complete named own =>
      cases classified second position other with
      | origin other =>
          exact absurd (heads (head_weakness cwe) head_origin
            (own.symm.trans (same.trans other))) (by decide)
      | weakness cwe' isFlow' complete' named' other =>
          have texts := congrArg String.toList (own.symm.trans (same.trans other))
          rw [String.toList_append, String.toList_append] at texts
          have equal := String.toList_inj.1 (List.append_cancel_left texts)
          exact .inr ⟨⟨isFlow, isFlow'⟩, ⟨complete, complete'⟩, content, trace,
            .inl ⟨cwe, named, equal ▸ named'⟩⟩
      | rule _ _ other =>
          exact absurd (heads (head_weakness cwe) (head_rule _ _)
            (own.symm.trans (same.trans other))) (by decide)
  | rule isFlow complete own =>
      cases classified second position other with
      | origin other =>
          exact absurd (heads (head_rule _ _) head_origin (own.symm.trans (same.trans other)))
            (by decide)
      | weakness cwe _ _ _ other =>
          exact absurd (heads (head_rule _ _) (head_weakness cwe)
            (own.symm.trans (same.trans other))) (by decide)
      | rule isFlow' complete' other =>
          have equal := rule_inj noColon otherNoColon (own.symm.trans (same.trans other))
          exact .inr ⟨⟨isFlow, isFlow'⟩, ⟨complete, complete'⟩, content, trace, .inr equal⟩

end Rows

/-! ## Merges -/

section Merges

variable {lib : Library} {sha256 : List Char → String} {pages : List Page}
  {stored after : List Candidate} {candidate : Candidate}

/-- Every stored candidate agrees with one that was normalized for a row of these pages. -/
def Known (lib : Library) (sha256 : List Char → String) (pages : List Page)
    (stored : List Candidate) : Prop :=
  ∀ candidate ∈ stored, ∃ page ∈ pages, ∃ index row reading found,
    Yields lib sha256 page index row found reading ∧
      candidate.candidateId = found.candidateId ∧ candidate.agrees found = true

theorem agrees_iff {other : Candidate} :
    candidate.agrees other = true ↔
      candidate.kind = other.kind ∧ candidate.path = other.path ∧ candidate.line = other.line ∧
        candidate.endLine = other.endLine ∧ candidate.flowIdentity = other.flowIdentity ∧
        candidate.evidenceKey = other.evidenceKey := by
  rw [Candidate.agrees, decide_eq_true_eq]

theorem Known.mono {more : List Page} (known : Known lib sha256 pages stored)
    (subset : pages ⊆ more) : Known lib sha256 more stored := by
  intro candidate member
  obtain ⟨page, isPage, rest⟩ := known candidate member
  exact ⟨page, subset isPage, rest⟩

/-- A merge of a normalized candidate stores candidates that are known. -/
theorem Known.upsert (known : Known lib sha256 pages stored) {page : Page} (isPage : page ∈ pages)
    {index : Nat} {row : List (String × Json)} {reading : Reading}
    (yields : Yields lib sha256 page index row candidate reading)
    (upserted : upsertCandidate stored candidate = .ok after) : Known lib sha256 pages after := by
  rw [upsertCandidate] at upserted
  split at upserted
  · obtain rfl := Except.ok.inj upserted
    intro other member
    rcases List.mem_append.1 member with old | new
    · exact known other old
    · rw [List.mem_singleton.1 new]
      exact ⟨page, isPage, index, row, reading, candidate, yields, rfl, agrees_iff.2 (by simp)⟩
  · split at upserted
    · obtain rfl := Except.ok.inj upserted
      intro other member
      obtain ⟨previous, isStored, rfl⟩ := List.mem_map.1 member
      obtain ⟨page, isPage, index, row, reading, found, yields, same, agrees⟩ :=
        known previous isStored
      refine ⟨page, isPage, index, row, reading, found, yields, ?_, ?_⟩
      · split <;> exact same
      · rw [agrees_iff] at agrees ⊢
        split <;> exact agrees
    · cases upserted

/-- A merge within one trace format succeeds. -/
theorem Known.accepts (injective : Function.Injective sha256)
    (known : Known lib sha256 pages stored) {page : Page}
    (format : ∀ other ∈ pages, SameFormat other page) {index : Nat} {row : List (String × Json)}
    {reading : Reading} (yields : Yields lib sha256 page index row candidate reading) :
    ∃ after, upsertCandidate stored candidate = .ok after := by
  rw [upsertCandidate]
  split
  · exact ⟨_, rfl⟩
  · rename_i previous found
    obtain ⟨other, isPage, position, different, read, earlier, before, same, agrees⟩ :=
      known previous (List.mem_of_find?_eq_some found)
    have sameId : earlier.candidateId = candidate.candidateId := by
      rw [← same]
      simpa using List.find?_some found
    have evidence := (sameEvidence injective before yields sameId).1
    have agreed : previous.agrees candidate = true := by
      rw [agrees_iff] at agrees ⊢
      obtain ⟨kind, path, line, endLine, flow, key⟩ := agrees
      exact ⟨kind.trans evidence.kind, path.trans evidence.path, line.trans evidence.line,
        endLine.trans evidence.endLine, flow.trans (evidence.flowIdentity (format other isPage)),
        key.trans evidence.evidenceKey⟩
    rw [if_pos agreed]
    exact ⟨_, rfl⟩

theorem Known.fold {page : Page} (isPage : page ∈ pages) {candidates : List Candidate}
    (all : ∀ candidate ∈ candidates, ∃ index row reading,
      Yields lib sha256 page index row candidate reading)
    (known : Known lib sha256 pages stored)
    (folded : candidates.foldlM upsertCandidate stored = .ok after) :
    Known lib sha256 pages after := by
  refine foldlM_keeps (fun member upserted known => ?_) folded known
  obtain ⟨index, row, reading, yields⟩ := all _ member
  exact known.upsert isPage yields upserted

/-- Every candidate of a page stands for a row of the page. -/
theorem yields_of_page {page : Page} {startOffset : Nat} {rows : List (List (String × Json))}
    {candidates : List Candidate}
    (normalized : normalizeCandidatePage lib sha256 page startOffset rows = .ok candidates)
    (member : candidate ∈ candidates) :
    ∃ index row reading, (row, index) ∈ rows.zipIdx startOffset ∧
      Yields lib sha256 page index row candidate reading := by
  obtain ⟨-, normalized⟩ := raiseIf_bind_ok.1 normalized
  obtain ⟨all, mapped, flattened⟩ := except_bind_ok normalized
  obtain rfl := Except.ok.inj flattened
  obtain ⟨ofRow, inside, member⟩ := List.mem_flatten.1 member
  obtain ⟨⟨row, index⟩, isRow, computed⟩ := (mem_mapM_ok mapped ofRow).1 inside
  obtain ⟨reading, yields⟩ := yields_of_mem computed member
  exact ⟨index, row, reading, isRow, yields⟩

theorem Ingestion.known {store : CandidateStore} {ingestion : Ingestion} {next : CandidateStore}
    (known : Known lib sha256 pages store.candidates) (isPage : ingestion.page ∈ pages)
    (performed : ingestion.perform lib sha256 store = .ok next) :
    Known lib sha256 pages next.candidates := by
  obtain ⟨candidates, normalized, stored⟩ := except_bind_ok performed
  obtain ⟨-, stored⟩ := raiseIf_bind_ok.1 stored
  obtain ⟨-, stored⟩ := raiseIf_bind_ok.1 stored
  dsimp only at stored
  split at stored
  · obtain rfl := Except.ok.inj stored
    exact known
  · obtain ⟨-, stored⟩ := raiseIf_bind_ok.1 stored
    obtain ⟨after, folded, built⟩ := except_bind_ok stored
    obtain rfl := Except.ok.inj built
    refine Known.fold isPage (fun candidate member => ?_) known folded
    obtain ⟨index, row, reading, -, yields⟩ := yields_of_page normalized member
    exact ⟨index, row, reading, yields⟩

end Merges

namespace Concrete

/-- Library functions that agree with the real ones on the rows below. -/
def python : Library where
  str _ := ""
  int _ := none
  strip text := text
  isSpace character := character == ' '
  isZero _ := false
  urlsplit raw := .ok ⟨"", "", raw, "", ""⟩
  unquote text := some text

def artifact : ContentHash := ⟨String.ofList (List.replicate 64 'a'), by decide, by decide⟩

/-- A row of a complete flow that names no weakness. -/
def ruled (rule : String) : List (String × Json) :=
  [("check_id", .str rule), ("path", .str "a.py"),
    ("start", .obj [("line", .int 3), ("column", .int 5)]),
    ("end", .obj [("line", .int 3), ("column", .int 9)]),
    ("extra", .obj [("dataflow_trace", .obj [
      ("taint_source", .obj [("path", .str "a.py"), ("line", .int 1), ("column", .int 1),
        ("source_key", .str "request")]),
      ("intermediate_vars", .arr []),
      ("taint_sink", .obj [("path", .str "a.py"), ("line", .int 3), ("column", .int 5),
        ("end_column", .int 9), ("sink_argument", .str "html")])])])]

end Concrete

end Sastsimi.Candidates
