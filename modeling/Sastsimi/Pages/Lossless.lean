import Mathlib.Data.List.Forall2
import Sastsimi.Pages.SourcePage

/-!
# Lossless source pages

Following the cursors over `build_source_page` shows every line of the redacted sources once, in
order and under its number.  The size that is kept while a page grows is that of its prompt, so
that the final size check never fires, and every cursor is accepted by the next call and lies
after the one before it.
-/

namespace Sastsimi.Pages

open Lib

variable {world : World} {manifest : Manifest} {budget : Int}

/-! ## Sizes -/

theorem encodeSegments_append {front : List Segment} (segment : Segment) (nonempty : front ≠ []) :
    encodeSegments (front ++ [segment]) =
      encodeSegments front ++ "," ++ encodeSegment segment := by
  induction front with
  | nil => exact absurd rfl nonempty
  | cons first rest ih =>
      cases rest with
      | nil => simp [encodeSegments]
      | cons second others =>
          have tail := ih (by simp)
          simp only [List.cons_append, encodeSegments] at tail ⊢
          rw [tail]
          simp only [String.append_assoc]

/-- The size of the encoding of segments, the last one apart. -/
theorem size_encodeSegments (front : List Segment) (segment : Segment) :
    (encodeSegments (front ++ [segment])).utf8ByteSize =
      (encodeSegments front).utf8ByteSize + (if front = [] then 0 else 1) +
        (encodeSegment segment).utf8ByteSize := by
  have comma : ",".utf8ByteSize = 1 := by decide
  by_cases nonempty : front = []
  · subst nonempty
    simp [encodeSegments]
  · rw [encodeSegments_append segment nonempty, if_neg nonempty]
    simp only [String.utf8ByteSize_append, comma]

/-- A prompt is the encoding of its segments between two texts that do not depend on them. -/
theorem prompt_frame (bundleHash manifestHash : String) : ∃ head tail, ∀ segments,
    prompt bundleHash manifestHash segments = head ++ encodeSegments segments ++ tail := by
  refine ⟨promptPrefix ++ payloadHead, payloadTail bundleHash manifestHash ++ promptSuffix, ?_⟩
  intro segments
  rw [prompt, encodePayload]
  simp only [String.append_assoc]

theorem size_prompt (bundleHash manifestHash : String) (segments : List Segment) :
    (prompt bundleHash manifestHash segments).utf8ByteSize =
      (prompt bundleHash manifestHash []).utf8ByteSize +
        (encodeSegments segments).utf8ByteSize := by
  obtain ⟨head, tail, shape⟩ := prompt_frame bundleHash manifestHash
  rw [shape, shape []]
  have empty : (encodeSegments []).utf8ByteSize = 0 := by decide
  simp only [String.utf8ByteSize_append, empty]
  omega

/-- A segment grows by the escaped line and the change of its last line number. -/
theorem size_extended (segment : Segment) (line : String) (endLine : Nat) :
    ((encodeSegment { segment with code := segment.code ++ line, endLine := endLine }).utf8ByteSize
        : Int) =
      (encodeSegment segment).utf8ByteSize + ((encodeText line).utf8ByteSize - 2 +
        endLine.repr.length - segment.endLine.repr.length) := by
  simp only [encodeSegment, String.utf8ByteSize_append, size_encodeText, escape_append, size_repr]
  omega

/-- The kept size is that of the prompt. -/
def PageState.Exact (manifest : Manifest) (state : PageState) : Prop :=
  state.promptSize =
    (prompt manifest.bundleHash manifest.manifestHash state.segments).utf8ByteSize

/-- The segment that a line begins. -/
def freshSegment (path : String) (lineIndex : Nat) (line : String) : Segment :=
  { path := path, startLine := lineIndex + 1, endLine := lineIndex + 1, code := line }

variable {path line : String} {lineIndex : Nat} {state : PageState} {segment : Segment}
  {front : List Segment}

theorem addLine_first (empty : state.segments = []) :
    addLine path lineIndex line state =
      { segments := [freshSegment path lineIndex line]
        promptSize := state.promptSize +
          (encodeSegment (freshSegment path lineIndex line)).utf8ByteSize } := by
  simp only [addLine, empty, List.getLast?_nil]
  rfl

theorem addLine_extend (whole : state.segments = front ++ [segment])
    (same : segment.path = path) :
    addLine path lineIndex line state =
      { segments := front ++
          [{ segment with code := segment.code ++ line, endLine := lineIndex + 1 }]
        promptSize := state.promptSize + ((encodeText line).utf8ByteSize - 2 +
          (lineIndex + 1).repr.length - segment.endLine.repr.length) } := by
  simp only [addLine, whole, List.getLast?_concat, List.dropLast_concat, if_pos same]

theorem addLine_fresh (whole : state.segments = front ++ [segment])
    (other : segment.path ≠ path) :
    addLine path lineIndex line state =
      { segments := state.segments ++ [freshSegment path lineIndex line]
        promptSize := state.promptSize +
          ((encodeSegment (freshSegment path lineIndex line)).utf8ByteSize + 1) } := by
  simp only [addLine, whole, List.getLast?_concat, if_neg other]
  rfl

/-- A page is empty or has a last segment. -/
theorem segments_cases (segments : List Segment) :
    segments = [] ∨ ∃ front segment, segments = front ++ [segment] := by
  rcases List.eq_nil_or_concat segments with empty | ⟨front, segment, whole⟩
  · exact .inl empty
  · exact .inr ⟨front, segment, by rw [whole, List.concat_eq_append]⟩

theorem addLine_exact (exact : state.Exact manifest) (path : String) (lineIndex : Nat)
    (line : String) : (addLine path lineIndex line state).Exact manifest := by
  unfold PageState.Exact at exact ⊢
  rw [size_prompt] at exact ⊢
  rcases segments_cases state.segments with empty | ⟨front, segment, whole⟩
  · rw [addLine_first empty, exact, empty]
    have nothing : (encodeSegments []).utf8ByteSize = 0 := by decide
    simp only [encodeSegments] at nothing ⊢
    omega
  · by_cases same : segment.path = path
    · have grown := size_extended segment line (lineIndex + 1)
      have before := size_encodeSegments front segment
      have after := size_encodeSegments front
        { segment with code := segment.code ++ line, endLine := lineIndex + 1 }
      rw [addLine_extend whole same, exact, whole]
      push_cast
      omega
    · have nonempty : state.segments ≠ [] := by simp [whole]
      have after := size_encodeSegments state.segments (freshSegment path lineIndex line)
      rw [if_neg nonempty] at after
      rw [addLine_fresh whole same, exact]
      push_cast
      omega

/-! ## Lines -/

/-- A line of a redacted source, under its number. -/
structure Line where
  path : String
  number : Nat
  text : String

/-- The lines of a file from a number on. -/
def numbered (path : String) : Nat → List String → List Line
  | _, [] => []
  | number, text :: rest => ⟨path, number, text⟩ :: numbered path (number + 1) rest

theorem numbered_append (path : String) (number : Nat) (front back : List String) :
    numbered path number (front ++ back) =
      numbered path number front ++ numbered path (number + front.length) back := by
  induction front generalizing number with
  | nil => rfl
  | cons text rest ih =>
      rw [List.cons_append, numbered, ih, List.length_cons, numbered, List.cons_append,
        Nat.add_assoc, Nat.add_comm 1]

@[simp] theorem length_numbered (path : String) (number : Nat) (texts : List String) :
    (numbered path number texts).length = texts.length := by
  induction texts generalizing number with
  | nil => rfl
  | cons text rest ih => rw [numbered, List.length_cons, ih, List.length_cons]

/-- A segment shows these consecutive lines of its file. -/
structure Segment.Shows (segment : Segment) (texts : List String) : Prop where
  nonempty : texts ≠ []
  numbers : segment.endLine + 1 = segment.startLine + texts.length
  code : segment.code = String.join texts

/-- Segments show lines: those of each segment, one after another. -/
def Shows (segments : List Segment) (lines : List Line) : Prop :=
  ∃ chunks : List (Segment × List String), segments = chunks.map Prod.fst ∧
    (∀ chunk ∈ chunks, chunk.1.Shows chunk.2) ∧
    lines = chunks.flatMap fun chunk => numbered chunk.1.path chunk.1.startLine chunk.2

theorem shows_nil : Shows [] [] := ⟨[], rfl, by simp, rfl⟩

/-- Segments that show something are there exactly when lines are. -/
theorem Shows.eq_nil_iff {segments : List Segment} {lines : List Line}
    (shows' : Shows segments lines) : segments = [] ↔ lines = [] := by
  obtain ⟨chunks, rfl, shown, rfl⟩ := shows'
  cases chunks with
  | nil => simp
  | cons chunk rest =>
      have nonempty := (shown chunk List.mem_cons_self).nonempty
      have some : numbered chunk.1.path chunk.1.startLine chunk.2 ≠ [] := by
        intro empty
        have length := length_numbered chunk.1.path chunk.1.startLine chunk.2
        rw [empty] at length
        exact nonempty (List.length_eq_zero_iff.1 length.symm)
      simp [some]

theorem shows_fresh (path : String) (lineIndex : Nat) (line : String) :
    (freshSegment path lineIndex line).Shows [line] where
  nonempty := by simp
  numbers := rfl
  code := by simp [freshSegment, String.join_cons, String.join_nil]

/-- The last segment, when it is of the given file, ends at a line. -/
def EndsAt (state : PageState) (path : String) (lineIndex : Nat) : Prop :=
  ∀ front segment, state.segments = front ++ [segment] → segment.path = path →
    segment.endLine = lineIndex

/-- A line that is added is shown after the others. -/
theorem addLine_shows {lines : List Line} (shown : Shows state.segments lines)
    (ends : EndsAt state path lineIndex) :
    Shows (addLine path lineIndex line state).segments
      (lines ++ [⟨path, lineIndex + 1, line⟩]) := by
  obtain ⟨chunks, whole, each, rfl⟩ := shown
  have fresh : Shows (state.segments ++ [freshSegment path lineIndex line])
      ((chunks.flatMap fun chunk => numbered chunk.1.path chunk.1.startLine chunk.2) ++
        [⟨path, lineIndex + 1, line⟩]) := by
    refine ⟨chunks ++ [(freshSegment path lineIndex line, [line])], ?_, ?_, ?_⟩
    · simp [whole]
    · intro chunk member
      rcases List.mem_append.1 member with old | new
      · exact each chunk old
      · rw [List.mem_singleton.1 new]
        exact shows_fresh path lineIndex line
    · simp [numbered, freshSegment]
  rcases segments_cases state.segments with empty | ⟨front, segment, split⟩
  · rw [empty, List.nil_append] at fresh
    rwa [addLine_first empty]
  by_cases same : segment.path = path
  · rw [addLine_extend split same]
    rcases List.eq_nil_or_concat chunks with none | ⟨before, last, parts⟩
    · rw [none, split] at whole
      simp at whole
    rw [List.concat_eq_append] at parts
    subst parts
    rw [split, List.map_append] at whole
    obtain ⟨frontWhole, lastWhole⟩ := List.append_inj' whole rfl
    have lastSegment : segment = last.1 := by simpa using lastWhole
    have shown := each last (by simp)
    rw [← lastSegment] at shown
    have next : segment.startLine + last.2.length = lineIndex + 1 := by
      rw [← shown.numbers, ends front segment split same]
    refine ⟨before ++ [({ segment with code := segment.code ++ line, endLine := lineIndex + 1 },
      last.2 ++ [line])], ?_, ?_, ?_⟩
    · simp [frontWhole]
    · intro chunk member
      rcases List.mem_append.1 member with old | new
      · exact each chunk (List.mem_append_left _ old)
      · rw [List.mem_singleton.1 new]
        constructor
        · simp
        · rw [List.length_append, ← Nat.add_assoc, next]
          rfl
        · rw [join_append, ← shown.code]
          simp [String.join_cons, String.join_nil]
    · simp [numbered_append, numbered, ← lastSegment, same, next]
  · rwa [addLine_fresh split same]

theorem addLine_ends : EndsAt (addLine path lineIndex line state) path (lineIndex + 1) := by
  intro front last split same
  rcases segments_cases state.segments with empty | ⟨before, segment, whole⟩
  · rw [addLine_first empty] at split
    have split : [] ++ [freshSegment path lineIndex line] = front ++ [last] := split
    have lastFresh := (List.append_inj' split rfl).2
    cases lastFresh
    rfl
  · by_cases extends' : segment.path = path
    · rw [addLine_extend whole extends'] at split
      have lastExtended := (List.append_inj' split rfl).2
      cases lastExtended
      rfl
    · rw [addLine_fresh whole extends'] at split
      have lastFresh := (List.append_inj' split rfl).2
      cases lastFresh
      rfl

theorem addLine_nonempty : (addLine path lineIndex line state).segments ≠ [] := by
  rcases segments_cases state.segments with empty | ⟨front, segment, whole⟩
  · rw [addLine_first empty]
    simp
  · by_cases same : segment.path = path
    · rw [addLine_extend whole same]
      simp
    · rw [addLine_fresh whole same]
      simp

/-- The paths of the segments, the file of the line apart, stay as they were. -/
theorem addLine_paths {other : String} (different : other ≠ path)
    (absent : ∀ segment ∈ state.segments, segment.path ≠ other) :
    ∀ segment ∈ (addLine path lineIndex line state).segments, segment.path ≠ other := by
  intro added member
  rcases segments_cases state.segments with empty | ⟨front, segment, whole⟩
  · rw [addLine_first empty, List.mem_singleton] at member
    rw [member]
    exact different.symm
  · by_cases same : segment.path = path
    · rw [addLine_extend whole same] at member
      rcases List.mem_append.1 member with old | new
      · exact absent added (by rw [whole]; exact List.mem_append_left _ old)
      · rw [List.mem_singleton.1 new]
        exact same ▸ different.symm
    · rw [addLine_fresh whole same] at member
      rcases List.mem_append.1 member with old | new
      · exact absent added old
      · rw [List.mem_singleton.1 new]
        exact different.symm

/-! ## What the sources say -/

/-- The text of a line of a redacted source in a page. -/
def sourceText (world : World) (raw : List UInt8) : Except PageError String := do
  boundedLine raw
  let decoded ← decodeLine raw
  modelLine world decoded

/-- The texts of lines of a redacted source. -/
def Texts (world : World) (raws : List (List UInt8)) (texts : List String) : Prop :=
  List.Forall₂ (fun raw text => sourceText world raw = .ok text) raws texts

/-- The lines of files from a line of the first one on. -/
inductive Remaining (world : World) : List String → Nat → List Line → Prop where
  | nil {startLine : Nat} : Remaining world [] startLine []
  | file {path : String} {rest : List String} {startLine : Nat} {raws : List (List UInt8)}
      {texts : List String} {later : List Line} (read : readSource world path = .ok raws)
      (within : startLine ≤ raws.length) (decoded : Texts world (raws.drop startLine) texts)
      (others : Remaining world rest 0 later) :
      Remaining world (path :: rest) startLine (numbered path (startLine + 1) texts ++ later)

/-- How many lines of the redacted sources are left. -/
def remainingCount (world : World) : List String → Nat → Nat
  | [], _ => 0
  | path :: rest, startLine =>
      (match readSource world path with
        | .ok raws => raws.length - startLine
        | .error _ => 0) + remainingCount world rest 0

/-! ## One file -/

/-- What the loop over the remaining lines of a file did: it showed a front part of them. -/
structure CutLines (world : World) (manifest : Manifest) (budget : Int) (path : String)
    (raws : List (List UInt8)) (lineIndex : Nat) (lines : List Line) (state after : PageState)
    (stop : Option Nat) (front back : List (List UInt8)) (texts : List String) : Prop where
  split : raws = front ++ back
  decoded : Texts world front texts
  shows' : Shows after.segments (lines ++ numbered path (lineIndex + 1) texts)
  ends : EndsAt after path (lineIndex + front.length)
  others : ∀ other, other ≠ path → (∀ segment ∈ state.segments, segment.path ≠ other) →
    ∀ segment ∈ after.segments, segment.path ≠ other
  exact : after.Exact manifest
  within : after.segments ≠ [] → after.promptSize ≤ budget
  finished : stop = none → back = []
  stopped : ∀ line, stop = some line →
    back ≠ [] ∧ line = lineIndex + front.length ∧ after.segments ≠ []

theorem cutLines_ok {raws : List (List UInt8)} {lines : List Line} {after : PageState}
    {stop : Option Nat} (shown : Shows state.segments lines) (ends : EndsAt state path lineIndex)
    (exact : state.Exact manifest) (within : state.segments ≠ [] → state.promptSize ≤ budget)
    (returned : cutLines world budget path raws lineIndex state = .ok (after, stop)) :
    ∃ front back texts, CutLines world manifest budget path raws lineIndex lines state after stop
      front back texts := by
  induction raws generalizing lineIndex state lines with
  | nil =>
      cases returned
      refine ⟨[], [], [], ?_⟩
      constructor
      · rfl
      · exact .nil
      · rwa [numbered, List.append_nil]
      · exact ends
      · exact fun _ _ absent => absent
      · exact exact
      · exact within
      · exact fun _ => rfl
      · intro line impossible
        cases impossible
  | cons raw rest ih =>
      obtain ⟨_, bounded, returned⟩ := except_bind_ok returned
      obtain ⟨decoded, decodes, returned⟩ := except_bind_ok returned
      obtain ⟨line, modelled, returned⟩ := except_bind_ok returned
      have text : sourceText world raw = .ok line := by
        rw [sourceText, bounded]
        show (decodeLine raw >>= modelLine world) = _
        rw [decodes]
        exact modelled
      dsimp only at returned
      split at returned
      · obtain ⟨nonempty, returned⟩ := raiseIf_bind_ok.1 returned
        cases returned
        refine ⟨[], raw :: rest, [], ?_⟩
        constructor
        · rfl
        · exact .nil
        · rwa [numbered, List.append_nil]
        · exact ends
        · exact fun _ _ absent => absent
        · exact exact
        · exact within
        · intro impossible
          cases impossible
        · intro line stops
          cases stops
          exact ⟨by simp, rfl, fun empty => nonempty (by rw [empty]; rfl)⟩
      · rename_i fits
        obtain ⟨front, back, texts, cut⟩ := ih (addLine_shows shown ends) addLine_ends
          (addLine_exact exact path lineIndex line) (fun _ => Int.not_lt.1 fits) returned
        have counted : lineIndex + (raw :: front).length = lineIndex + 1 + front.length := by
          rw [List.length_cons]
          omega
        refine ⟨raw :: front, back, line :: texts, ?_⟩
        constructor
        · rw [cut.split, List.cons_append]
        · exact .cons text cut.decoded
        · have shown := cut.shows'
          rwa [List.append_assoc] at shown
        · exact counted ▸ cut.ends
        · exact fun other different absent =>
            cut.others other different (addLine_paths different absent)
        · exact cut.exact
        · exact cut.within
        · exact cut.finished
        · exact counted ▸ cut.stopped

/-! ## All files -/

theorem skipLines_ok {startLine : Nat} {raws remaining : List (List UInt8)}
    (returned : skipLines startLine raws = .ok remaining) :
    startLine ≤ raws.length ∧ remaining = raws.drop startLine := by
  induction raws generalizing startLine with
  | nil =>
      cases startLine with
      | zero =>
          cases returned
          exact ⟨Nat.le_refl 0, rfl⟩
      | succ startLine => cases returned
  | cons raw rest ih =>
      cases startLine with
      | zero =>
          cases returned
          exact ⟨Nat.zero_le _, rfl⟩
      | succ startLine =>
          obtain ⟨_, -, returned⟩ := except_bind_ok returned
          obtain ⟨within, rfl⟩ := ih returned
          exact ⟨Nat.succ_le_succ within, rfl⟩

/-- A position is a file of a list, by its index, and a line of it that is there. -/
structure Position (world : World) (files : List (String × Nat)) (position : Nat × Nat)
    (path : String) (rest : List (String × Nat)) (raws : List (List UInt8)) : Prop where
  found : ∃ before, files = before ++ (path, position.1) :: rest
  read : readSource world path = .ok raws
  within : position.2 < raws.length

/-- What the loop over the files did: it showed lines up to the end, or up to a position. -/
structure CutFiles (world : World) (manifest : Manifest) (budget : Int)
    (files : List (String × Nat)) (startLine : Nat) (shown : List Line) (after : PageState)
    (stop : Option (Nat × Nat)) (lines : List Line) : Prop where
  shows' : Shows after.segments (shown ++ lines)
  exact : after.Exact manifest
  within : after.segments ≠ [] → after.promptSize ≤ budget
  finished : stop = none → Remaining world (files.map Prod.fst) startLine lines
  stopped : ∀ position, stop = some position → after.segments ≠ [] ∧
    ∃ path rest raws, Position world files position path rest raws ∧
      remainingCount world (files.map Prod.fst) startLine =
        lines.length + remainingCount world (path :: rest.map Prod.fst) position.2 ∧
      (∀ later, Remaining world (path :: rest.map Prod.fst) position.2 later →
        Remaining world (files.map Prod.fst) startLine (lines ++ later)) ∧
      ∃ first others, files = first :: others ∧
        ((position.1 = first.2 ∧ position.2 = startLine + lines.length) ∨
          ∃ file ∈ others, file.2 = position.1)

theorem cutFiles_ok {files : List (String × Nat)} {startLine : Nat} {shown : List Line}
    {after : PageState} {stop : Option (Nat × Nat)} (distinct : (files.map Prod.fst).Nodup)
    (shows' : Shows state.segments shown)
    (absent : ∀ file ∈ files, ∀ segment ∈ state.segments, segment.path ≠ file.1)
    (exact : state.Exact manifest) (within : state.segments ≠ [] → state.promptSize ≤ budget)
    (returned : cutFiles world budget files startLine state = .ok (after, stop)) :
    ∃ lines, CutFiles world manifest budget files startLine shown after stop lines := by
  induction files generalizing startLine state shown with
  | nil =>
      cases returned
      refine ⟨[], ?_⟩
      constructor
      · rwa [List.append_nil]
      · exact exact
      · exact within
      · exact fun _ => .nil
      · intro position impossible
        cases impossible
  | cons file rest ih =>
      obtain ⟨path, fileIndex⟩ := file
      obtain ⟨raws, read, returned⟩ := except_bind_ok returned
      obtain ⟨remaining, skipped, returned⟩ := except_bind_ok returned
      obtain ⟨⟨between, cutStop⟩, cutReturned, returned⟩ := except_bind_ok returned
      obtain ⟨startWithin, rfl⟩ := skipLines_ok skipped
      rw [List.map_cons, List.nodup_cons] at distinct
      have ends : EndsAt state path startLine := by
        intro front segment split same
        have member : segment ∈ state.segments := by simp [split]
        exact absurd same (absent _ List.mem_cons_self segment member)
      obtain ⟨front, back, texts, cut⟩ := cutLines_ok shows' ends exact within cutReturned
      have counted : texts.length = front.length := cut.decoded.length_eq.symm
      have total : front.length + back.length = raws.length - startLine := by
        rw [← List.length_append, ← cut.split, List.length_drop]
      cases cutStop with
      | none =>
          have complete := cut.finished rfl
          have restAbsent : ∀ other ∈ rest, ∀ segment ∈ between.segments,
              segment.path ≠ other.1 := by
            intro other member
            refine cut.others other.1 ?_ (absent other (List.mem_cons_of_mem _ member))
            intro same
            have listed : other.1 ∈ rest.map Prod.fst := List.mem_map_of_mem member
            exact distinct.1 (same ▸ listed)
          obtain ⟨lines, later⟩ := ih distinct.2 cut.shows' restAbsent cut.exact cut.within returned
          have decoded : Texts world (raws.drop startLine) texts := by
            rw [cut.split, complete, List.append_nil]
            exact cut.decoded
          refine ⟨numbered path (startLine + 1) texts ++ lines, ?_⟩
          constructor
          · rw [← List.append_assoc]
            exact later.shows'
          · exact later.exact
          · exact later.within
          · exact fun none => .file read startWithin decoded (later.finished none)
          · intro position stops
            obtain ⟨nonempty, laterPath, laterRest, laterRaws, there, count, join, first, others,
              split, place⟩ := later.stopped position stops
            obtain ⟨before, found⟩ := there.found
            refine ⟨nonempty, laterPath, laterRest, laterRaws, ⟨⟨(path, fileIndex) :: before, ?_⟩,
              there.read, there.within⟩, ?_, ?_, (path, fileIndex), rest, rfl, .inr ?_⟩
            · rw [found, List.cons_append]
            · rw [complete, List.length_nil, Nat.add_zero] at total
              rw [List.map_cons, remainingCount, read]
              simp only [count, List.length_append, length_numbered, counted]
              omega
            · intro lastLines remains
              rw [List.append_assoc]
              exact .file read startWithin decoded (join lastLines remains)
            · exact ⟨(laterPath, position.1), by simp [found], rfl⟩
      | some lineIndex =>
          cases returned
          obtain ⟨left, place, nonempty⟩ := cut.stopped lineIndex rfl
          have leftLength : 0 < back.length := List.length_pos_iff.2 left
          refine ⟨numbered path (startLine + 1) texts, ?_⟩
          constructor
          · exact cut.shows'
          · exact cut.exact
          · exact cut.within
          · intro impossible
            cases impossible
          · intro position stops
            cases stops
            refine ⟨nonempty, path, rest, raws, ⟨⟨[], rfl⟩, read, ?_⟩, ?_, ?_, (path, fileIndex),
              rest, rfl, .inl ⟨rfl, ?_⟩⟩
            · simp only [place]
              omega
            · simp only [List.map_cons, remainingCount, read, length_numbered, counted, place]
              have rest : raws.length - (startLine + front.length) = back.length := by omega
              rw [rest, ← total]
              omega
            · intro later remains
              cases remains with
              | @file _ _ _ raws' backTexts others read' within' decoded' later' =>
                  cases Except.ok.inj (read.symm.trans read')
                  have backWhole : raws.drop lineIndex = back := by
                    rw [place, ← List.drop_drop, cut.split, List.drop_left]
                  have decoded : Texts world (raws.drop startLine) (texts ++ backTexts) := by
                    rw [cut.split]
                    exact List.rel_append cut.decoded (backWhole ▸ decoded')
                  have whole := Remaining.file read startWithin decoded later'
                  rw [numbered_append, counted, List.append_assoc, Nat.add_right_comm,
                    ← place] at whole
                  exact whole
            · rw [length_numbered, counted, place]

/-! ## Cursors -/

theorem matchHash_ok {text hash rest : List Char} (matched : matchHash text = some (hash, rest)) :
    text = hash ++ ':' :: rest := by
  unfold matchHash at matched
  split at matched
  · rename_i others dropped
    split at matched
    · cases matched
      rw [← dropped, List.take_append_drop]
    · cases matched
  · cases matched

/-- A SHA-256 digest in hexadecimal. -/
def IsDigest (hash : String) : Prop :=
  hash.toList.length = 64 ∧ hash.toList.all isHexDigit = true

theorem matchHash_digest {hash : String} (digest : IsDigest hash) (rest : List Char) :
    matchHash (hash.toList ++ ':' :: rest) = some (hash.toList, rest) := by
  obtain ⟨length, hexadecimal⟩ := digest
  rw [matchHash, List.drop_left' length, List.take_left' length]
  exact if_pos hexadecimal

theorem cursor_toList (bundleHash manifestHash : String) (file line : Nat) :
    (cursor bundleHash manifestHash file line).toList =
      'p' :: '1' :: ':' :: (bundleHash.toList ++ ':' :: (manifestHash.toList ++
        ':' :: (file.repr.toList ++ ':' :: line.repr.toList))) := by
  simp [cursor, String.toList_append]

/-- A cursor is read back. -/
theorem matchCursor_cursor {bundleHash manifestHash : String} (bundle : IsDigest bundleHash)
    (manifest : IsDigest manifestHash) (file line : Nat) :
    matchCursor (cursor bundleHash manifestHash file line).toList =
      some (bundleHash.toList, manifestHash.toList, file, line) := by
  have separator : (':' : Char).isDigit = false := by decide
  rw [cursor_toList, matchCursor, matchHash_digest bundle]
  simp only [Option.bind_eq_bind, Option.bind_some]
  rw [matchHash_digest manifest]
  simp only [Option.bind_some, takeWhile_repr file separator, dropWhile_repr file separator,
    readDecimal_repr]

/-- The position that a matched cursor names is the one it was made from. -/
theorem matchCursor_inv {bundleHash manifestHash : String} {file line : Nat}
    {foundFile foundLine : Nat}
    (matched : matchCursor (cursor bundleHash manifestHash file line).toList =
      some (bundleHash.toList, manifestHash.toList, foundFile, foundLine)) :
    foundFile = file ∧ foundLine = line := by
  have separator : (':' : Char).isDigit = false := by decide
  rw [cursor_toList, matchCursor] at matched
  simp only [Option.bind_eq_bind, Option.bind_eq_some_iff] at matched
  obtain ⟨⟨bundle, afterBundle⟩, bundleMatched, ⟨manifest, afterManifest⟩, manifestMatched,
    foundFile', fileRead, matched⟩ := matched
  split at matched
  · rename_i digits dropped
    simp only [Option.bind_eq_some_iff, Option.some.injEq, Prod.mk.injEq] at matched
    obtain ⟨foundLine', lineRead, rfl, rfl, rfl, rfl⟩ := matched
    have bundleRest := List.append_cancel_left (matchHash_ok bundleMatched)
    cases bundleRest
    have manifestRest := List.append_cancel_left (matchHash_ok manifestMatched)
    cases manifestRest
    rw [takeWhile_repr file separator, readDecimal_repr] at fileRead
    rw [dropWhile_repr file separator] at dropped
    cases dropped
    rw [readDecimal_repr] at lineRead
    exact ⟨(Option.some.inj fileRead).symm, (Option.some.inj lineRead).symm⟩
  · cases matched

theorem startPosition_cursor {bundleHash manifestHash : String} (bundle : IsDigest bundleHash)
    (manifest : IsDigest manifestHash) {file line count : Nat} (within : file < count)
    (advanced : ¬ (file = 0 ∧ line = 0)) :
    startPosition (some (cursor bundleHash manifestHash file line)) bundleHash manifestHash count =
      .ok (file, line) := by
  have valid : ¬ (count ≤ file ∨ (file = 0 ∧ line = 0)) :=
    not_or.2 ⟨Nat.not_le.2 within, advanced⟩
  rw [startPosition, matchCursor_cursor bundle manifest]
  simp only [ne_eq, not_true_eq_false, or_self, if_false, if_neg valid]

theorem startPosition_inv {bundleHash manifestHash : String} {file line count : Nat}
    {position : Nat × Nat}
    (started : startPosition (some (cursor bundleHash manifestHash file line)) bundleHash
      manifestHash count = .ok position) : position = (file, line) := by
  unfold startPosition at started
  dsimp only at started
  split at started
  · cases started
  · rename_i bundle manifest foundFile foundLine matched
    split at started
    · cases started
    · rename_i same
      obtain ⟨rfl, rfl⟩ : bundle = bundleHash.toList ∧ manifest = manifestHash.toList := by
        simpa [not_or] using same
      obtain ⟨rfl, rfl⟩ := matchCursor_inv matched
      split at started
      · cases started
      · exact (Except.ok.inj started).symm

/-! ## One call -/

/-- A position is a line of a Python source that is there. -/
structure Manifest.HasLine (manifest : Manifest) (world : World) (position : Nat × Nat) :
    Prop where
  line : ∃ path raws, manifest.pythonPaths[position.1]? = some path ∧
    readSource world path = .ok raws ∧ position.2 < raws.length

/-- The lines from a position on. -/
def Manifest.LinesFrom (manifest : Manifest) (world : World) (position : Nat × Nat)
    (lines : List Line) : Prop :=
  Remaining world (manifest.pythonPaths.drop position.1) position.2 lines

/-- How many lines are left at a position. -/
def Manifest.countFrom (manifest : Manifest) (world : World) (position : Nat × Nat) : Nat :=
  remainingCount world (manifest.pythonPaths.drop position.1) position.2

/-- One position is before another: in an earlier file, or in the same file above it. -/
def Before (position next : Nat × Nat) : Prop :=
  position.1 < next.1 ∨ (position.1 = next.1 ∧ position.2 < next.2)

/-- What a call shows, from the position of its cursor on. -/
structure Cut (world : World) (manifest : Manifest) (start : Nat × Nat)
    (segments : List Segment) (stop : Option (Nat × Nat)) (lines : List Line) : Prop where
  shows' : Shows segments lines
  finished : stop = none → manifest.LinesFrom world start lines
  stopped : ∀ position, stop = some position → manifest.HasLine world position ∧
    Before start position ∧
    manifest.countFrom world start = lines.length + manifest.countFrom world position ∧
    ∀ later, manifest.LinesFrom world position later →
      manifest.LinesFrom world start (lines ++ later)

/-- An entry of a numbered list stands at its number. -/
theorem zipIdx_split {α : Type} {items : List α} {front back : List (α × Nat)} {item : α}
    {index : Nat} (split : items.zipIdx = front ++ (item, index) :: back) :
    front.length = index ∧ items[index]? = some item := by
  have entry : items.zipIdx[front.length]? = some (item, index) := by
    rw [split, List.getElem?_append_right (Nat.le_refl _), Nat.sub_self]
    rfl
  rw [List.getElem?_zipIdx, Option.map_eq_some_iff] at entry
  obtain ⟨found, present, same⟩ := entry
  simp only [Prod.mk.injEq, Nat.zero_add] at same
  obtain ⟨rfl, rfl⟩ := same
  exact ⟨rfl, present⟩

theorem map_fst_drop_zipIdx {α : Type} (items : List α) (start : Nat) :
    (items.zipIdx.drop start).map Prod.fst = items.drop start := by
  rw [List.map_drop, List.zipIdx_map_fst]

/-- The file of a position among the files from a start on. -/
theorem position_of_drop {files : List String} {start : Nat} {before rest : List (String × Nat)}
    {path : String} {index : Nat}
    (split : files.zipIdx.drop start = before ++ (path, index) :: rest) :
    start + before.length = index ∧ files[index]? = some path ∧
      files.drop index = path :: rest.map Prod.fst := by
  have within : start ≤ files.zipIdx.length := by
    by_contra beyond
    rw [List.drop_eq_nil_of_le (Nat.le_of_not_le beyond)] at split
    simp at split
  have whole : files.zipIdx = (files.zipIdx.take start ++ before) ++ (path, index) :: rest := by
    rw [List.append_assoc, ← split, List.take_append_drop]
  obtain ⟨place, present⟩ := zipIdx_split whole
  rw [List.length_append, List.length_take, Nat.min_eq_left within] at place
  refine ⟨place, present, ?_⟩
  rw [← map_fst_drop_zipIdx, ← place, ← List.drop_drop, split, List.drop_left]
  rfl

theorem cutPage_ok {afterCursor : Option String}
    {answer : Option (PageState × Option (Nat × Nat))}
    (returned : cutPage world manifest afterCursor budget = .ok answer) :
    ∃ start, startPosition afterCursor manifest.bundleHash manifest.manifestHash
        manifest.pythonPaths.length = .ok start ∧
      (answer = none → manifest.LinesFrom world start []) ∧
      ∀ cut, answer = some cut → cut.1.segments ≠ [] ∧ cut.1.Exact manifest ∧
        cut.1.promptSize ≤ budget ∧ ∃ lines, Cut world manifest start cut.1.segments cut.2 lines := by
  obtain ⟨-, returned⟩ := raiseIf_bind_ok.1 returned
  obtain ⟨distinct, returned⟩ := raiseIf_bind_ok.1 returned
  obtain ⟨start, started, returned⟩ := except_bind_ok returned
  obtain ⟨⟨after, stop⟩, cutReturned, returned⟩ := except_bind_ok returned
  cases returned
  have names := map_fst_drop_zipIdx manifest.pythonPaths start.1
  have unique : ((manifest.pythonPaths.zipIdx.drop start.1).map Prod.fst).Nodup := by
    rw [names]
    exact ((not_not.1 distinct).filter _).sublist (List.drop_sublist _ _)
  have emptyExact : PageState.Exact manifest
      ⟨[], (prompt manifest.bundleHash manifest.manifestHash []).utf8ByteSize⟩ := rfl
  obtain ⟨lines, cut⟩ := cutFiles_ok unique shows_nil (by simp) emptyExact
    (fun nonempty => absurd rfl nonempty) cutReturned
  have shown : Shows after.segments lines := cut.shows'
  refine ⟨start, started, ?_, ?_⟩
  · intro nothing
    have empty : after.segments = [] := by
      by_contra nonempty
      simp [nonempty] at nothing
    cases stop with
    | none =>
        have remains := cut.finished rfl
        rw [names, shown.eq_nil_iff.1 empty] at remains
        exact remains
    | some position => exact absurd empty (cut.stopped position rfl).1
  · intro found present
    have nonempty : after.segments ≠ [] := by
      intro empty
      simp [empty] at present
    have same : (after, stop) = found := by simpa [nonempty] using present
    cases same
    refine ⟨nonempty, cut.exact, cut.within nonempty, lines, shown, ?_, ?_⟩
    · intro finished
      have remains := cut.finished finished
      rwa [names] at remains
    · intro position stops
      obtain ⟨-, path, rest, raws, there, count, join, first, others, split, place⟩ :=
        cut.stopped position stops
      obtain ⟨before, found⟩ := there.found
      obtain ⟨index, present, fromHere⟩ := position_of_drop found
      rw [names] at count join
      rw [← fromHere] at count join
      refine ⟨⟨path, raws, present, there.read, there.within⟩, ?_, count, join⟩
      have split : manifest.pythonPaths.zipIdx.drop start.1 = [] ++ first :: others := split
      have firstIndex : start.1 + 0 = first.2 := (position_of_drop split).1
      rcases place with ⟨sameFile, line⟩ | ⟨file, member, sameFile⟩
      · have some : 0 < lines.length := by
          rw [List.length_pos_iff]
          exact fun none => nonempty (shown.eq_nil_iff.2 none)
        exact .inr ⟨by omega, by omega⟩
      · obtain ⟨front, back, parts⟩ := List.append_of_mem member
        rw [parts] at split
        have atFile : manifest.pythonPaths.zipIdx.drop start.1 =
            (first :: front) ++ (file.1, file.2) :: back := split
        have fileIndex := (position_of_drop atFile).1
        rw [List.length_cons] at fileIndex
        exact .inl (by omega)

/-! ## Following the cursors -/

/-- What one call returned: a page of lines from its start on, and where the next one starts. -/
structure PageCall (world : World) (manifest : Manifest) (budget : Int) (start : Nat × Nat)
    (page : SourcePage) (lines : List Line) : Prop where
  shows' : Shows page.segments lines
  within : page.prompt.utf8ByteSize ≤ budget
  last : page.nextCursor = none → manifest.LinesFrom world start lines
  next : ∀ text, page.nextCursor = some text → ∃ position,
    text = cursor manifest.bundleHash manifest.manifestHash position.1 position.2 ∧
      manifest.HasLine world position ∧ Before start position ∧
      manifest.countFrom world start = lines.length + manifest.countFrom world position ∧
      ∀ later, manifest.LinesFrom world position later →
        manifest.LinesFrom world start (lines ++ later)

theorem buildSourcePage_none {afterCursor : Option String}
    (returned : buildSourcePage world manifest afterCursor budget = .ok none) :
    ∃ start, startPosition afterCursor manifest.bundleHash manifest.manifestHash
        manifest.pythonPaths.length = .ok start ∧ manifest.LinesFrom world start [] := by
  obtain ⟨cut, cutReturned, returned⟩ := except_bind_ok returned
  obtain ⟨start, started, nothing, -⟩ := cutPage_ok cutReturned
  cases cut with
  | none => exact ⟨start, started, nothing rfl⟩
  | some cut =>
      obtain ⟨page, -, returned⟩ := except_bind_ok returned
      cases returned

theorem buildSourcePage_some {afterCursor : Option String} {page : SourcePage}
    (returned : buildSourcePage world manifest afterCursor budget = .ok (some page)) :
    ∃ start, startPosition afterCursor manifest.bundleHash manifest.manifestHash
        manifest.pythonPaths.length = .ok start ∧
      ∃ lines, lines ≠ [] ∧ PageCall world manifest budget start page lines := by
  obtain ⟨cut, cutReturned, returned⟩ := except_bind_ok returned
  obtain ⟨start, started, -, something⟩ := cutPage_ok cutReturned
  cases cut with
  | none => cases returned
  | some cut =>
      obtain ⟨nonempty, exact, within, lines, shown⟩ := something cut rfl
      obtain ⟨page', finished, returned⟩ := except_bind_ok returned
      cases returned
      obtain ⟨-, finished⟩ := raiseIf_bind_ok.1 finished
      obtain ⟨-, finished⟩ := raiseIf_bind_ok.1 finished
      cases finished
      refine ⟨start, started, lines, ?_, ?_⟩
      · exact fun empty => nonempty (shown.shows'.eq_nil_iff.2 empty)
      · constructor
        · exact shown.shows'
        · exact exact ▸ within
        · exact fun last => shown.finished (Option.map_eq_none_iff.1 last)
        · intro text next
          obtain ⟨position, stops, rfl⟩ := Option.map_eq_some_iff.1 next
          exact ⟨position, rfl, shown.stopped position stops⟩

/-- The calls made while the cursors are followed, with the cursor that each is given. -/
inductive Called (world : World) (manifest : Manifest) (budgets : Nat → Int) :
    Nat → Option String → Prop where
  | first : Called world manifest budgets 0 none
  | next {index : Nat} {afterCursor : Option String} {page : SourcePage} {text : String}
      (called : Called world manifest budgets index afterCursor)
      (returned : buildSourcePage world manifest afterCursor (budgets index) = .ok (some page))
      (continued : page.nextCursor = some text) :
      Called world manifest budgets (index + 1) (some text)

/-- No call raises. -/
def NoCallRaises (world : World) (manifest : Manifest) (budgets : Nat → Int) : Prop :=
  ∀ index afterCursor, Called world manifest budgets index afterCursor →
    ∃ answer, buildSourcePage world manifest afterCursor (budgets index) = .ok answer

/-- Following the cursors from a call on ends with these pages. -/
inductive Follows (world : World) (manifest : Manifest) (budgets : Nat → Int) :
    Nat → Option String → List SourcePage → Prop where
  | exhausted {index : Nat} {afterCursor : Option String}
      (returned : buildSourcePage world manifest afterCursor (budgets index) = .ok none) :
      Follows world manifest budgets index afterCursor []
  | last {index : Nat} {afterCursor : Option String} {page : SourcePage}
      (returned : buildSourcePage world manifest afterCursor (budgets index) = .ok (some page))
      (finished : page.nextCursor = none) :
      Follows world manifest budgets index afterCursor [page]
  | next {index : Nat} {afterCursor : Option String} {page : SourcePage} {text : String}
      {pages : List SourcePage}
      (returned : buildSourcePage world manifest afterCursor (budgets index) = .ok (some page))
      (continued : page.nextCursor = some text)
      (followed : Follows world manifest budgets (index + 1) (some text) pages) :
      Follows world manifest budgets index afterCursor (page :: pages)

/-- The pages show lines, one list for each page. -/
def PagesShow (pages : List SourcePage) (lines : List Line) : Prop :=
  ∃ parts, List.Forall₂ (fun page part => Shows page.segments part) pages parts ∧
    lines = parts.flatten

variable {budgets : Nat → Int}

theorem buildSourcePage_start {afterCursor : Option String} {answer : Option SourcePage}
    (returned : buildSourcePage world manifest afterCursor budget = .ok answer) :
    ∃ start, startPosition afterCursor manifest.bundleHash manifest.manifestHash
      manifest.pythonPaths.length = .ok start := by
  cases answer with
  | none =>
      obtain ⟨start, started, -⟩ := buildSourcePage_none returned
      exact ⟨start, started⟩
  | some page =>
      obtain ⟨start, started, -⟩ := buildSourcePage_some returned
      exact ⟨start, started⟩

/-- From a call on, following the cursors ends, and shows the lines from its position on. -/
theorem follows_exists (quiet : NoCallRaises world manifest budgets) (count : Nat) :
    ∀ {index : Nat} {afterCursor : Option String} {start : Nat × Nat},
      Called world manifest budgets index afterCursor →
      startPosition afterCursor manifest.bundleHash manifest.manifestHash
        manifest.pythonPaths.length = .ok start →
      manifest.countFrom world start = count →
      ∃ pages lines, Follows world manifest budgets index afterCursor pages ∧
        PagesShow pages lines ∧ manifest.LinesFrom world start lines := by
  induction count using Nat.strongRecOn with
  | ind count ih =>
      intro index afterCursor start called started counted
      obtain ⟨answer, returned⟩ := quiet index afterCursor called
      cases answer with
      | none =>
          obtain ⟨same, startedHere, remains⟩ := buildSourcePage_none returned
          cases Except.ok.inj (started.symm.trans startedHere)
          exact ⟨[], [], .exhausted returned, ⟨[], .nil, rfl⟩, remains⟩
      | some page =>
          obtain ⟨same, startedHere, lines, some, call⟩ := buildSourcePage_some returned
          cases Except.ok.inj (started.symm.trans startedHere)
          cases continued : page.nextCursor with
          | none =>
              exact ⟨[page], lines, .last returned continued,
                ⟨[lines], .cons call.shows' .nil, by simp⟩, call.last continued⟩
          | some text =>
              obtain ⟨position, rfl, -, -, left, join⟩ := call.next text continued
              have calledNext := called.next returned continued
              obtain ⟨answer, answered⟩ := quiet _ _ calledNext
              obtain ⟨next, startedNext⟩ := buildSourcePage_start answered
              cases startPosition_inv startedNext
              have fewer : manifest.countFrom world position < count := by
                have shownLines := List.length_pos_iff.2 some
                omega
              obtain ⟨pages, later, followed, ⟨parts, shown, whole⟩, remains⟩ :=
                ih _ fewer calledNext startedNext rfl
              refine ⟨page :: pages, lines ++ later, .next returned continued followed,
                ⟨lines :: parts, .cons call.shows' shown, ?_⟩, join later remains⟩
              rw [List.flatten_cons, whole]

/-- When no call raises, following the cursors from the start ends and shows every line of every
Python source once, in order and under its number; every cursor is accepted by the next call and
lies after the one before it; and in every call the kept size is that of the prompt. -/
theorem sourcePages_lossless (world : World) (manifest : Manifest) (budgets : Nat → Int)
    (quiet : NoCallRaises world manifest budgets) :
    (∃ pages lines, Follows world manifest budgets 0 none pages ∧ PagesShow pages lines ∧
      Remaining world manifest.pythonPaths 0 lines) ∧
    (∀ index afterCursor page text, Called world manifest budgets index afterCursor →
      buildSourcePage world manifest afterCursor (budgets index) = .ok (some page) →
      page.nextCursor = some text → ∃ start position,
        startPosition afterCursor manifest.bundleHash manifest.manifestHash
          manifest.pythonPaths.length = .ok start ∧
        startPosition (some text) manifest.bundleHash manifest.manifestHash
          manifest.pythonPaths.length = .ok position ∧
        manifest.HasLine world position ∧ Before start position) ∧
    (∀ afterCursor budget cut, cutPage world manifest afterCursor budget = .ok (some cut) →
      ((prompt manifest.bundleHash manifest.manifestHash cut.1.segments).utf8ByteSize : Int) =
        cut.1.promptSize ∧ cut.1.promptSize ≤ budget) := by
  refine ⟨?_, ?_, ?_⟩
  · obtain ⟨pages, lines, followed, shown, remains⟩ :=
      follows_exists quiet _ .first (rfl : startPosition none _ _ _ = .ok (0, 0)) rfl
    exact ⟨pages, lines, followed, shown, remains⟩
  · intro index afterCursor page text called returned continued
    obtain ⟨start, started, lines, -, call⟩ := buildSourcePage_some returned
    obtain ⟨position, rfl, there, before, -⟩ := call.next text continued
    obtain ⟨answer, answered⟩ := quiet _ _ (called.next returned continued)
    obtain ⟨next, startedNext⟩ := buildSourcePage_start answered
    cases startPosition_inv startedNext
    exact ⟨start, position, started, startedNext, there, before⟩
  · intro afterCursor budget cut returned
    obtain ⟨_, -, -, something⟩ := cutPage_ok returned
    obtain ⟨-, exact, within, -⟩ := something cut rfl
    exact ⟨exact.symm, within⟩

/-- With SHA-256 hashes, a returned cursor is accepted whether or not a later call raises. -/
theorem returnedCursor_accepted {afterCursor : Option String} {page : SourcePage} {text : String}
    (bundle : IsDigest manifest.bundleHash) (digest : IsDigest manifest.manifestHash)
    (returned : buildSourcePage world manifest afterCursor budget = .ok (some page))
    (continued : page.nextCursor = some text) : ∃ position,
      startPosition (some text) manifest.bundleHash manifest.manifestHash
        manifest.pythonPaths.length = .ok position ∧ manifest.HasLine world position := by
  obtain ⟨start, -, lines, -, call⟩ := buildSourcePage_some returned
  obtain ⟨position, rfl, there, before, -⟩ := call.next text continued
  obtain ⟨path, raws, present, -⟩ := there.line
  have within : position.1 < manifest.pythonPaths.length := (List.getElem?_eq_some_iff.1 present).1
  refine ⟨position, startPosition_cursor bundle digest within ?_, there⟩
  rintro ⟨firstFile, firstLine⟩
  rcases before with earlier | ⟨-, earlier⟩ <;> omega

namespace Concrete

/-- A file with two short lines, which no redaction changes. -/
def plainWorld : World where
  file path := if path = "a.py" then some [120, 10, 121] else none
  privateKeyHeader _ := false
  redactSource source := .ok source
  redactText text := some text
  redacted _ := true

def oneFile : Manifest where
  paths := ["a.py", "notes.txt"]
  bundleHash := "0000000000000000000000000000000000000000000000000000000000000000"
  manifestHash := "1111111111111111111111111111111111111111111111111111111111111111"

/-- The last page of a call. -/
def lastPage (answer : Except PageError (Option SourcePage)) : Option (List Segment) :=
  match answer with
  | .ok (some page) => if page.nextCursor = none then some page.segments else none
  | _ => none

theorem firstPage_last : lastPage (buildSourcePage plainWorld oneFile none 1024) =
    some [⟨"a.py", 1, 2, "x\ny"⟩] := by decide +kernel

theorem firstCall_only {index : Nat} {afterCursor : Option String}
    (called : Called plainWorld oneFile (fun _ => 1024) index afterCursor) : afterCursor = none := by
  induction called with
  | first => rfl
  | next _ returned continued ih =>
      have last := firstPage_last
      subst ih
      rw [returned, lastPage, continued] at last
      cases last

theorem oneFile_quiet : NoCallRaises plainWorld oneFile fun _ => 1024 := by
  intro index afterCursor called
  cases firstCall_only called
  have last := firstPage_last
  cases returned : buildSourcePage plainWorld oneFile none 1024 with
  | error reason =>
      rw [returned] at last
      cases last
  | ok answer => exact ⟨answer, rfl⟩

theorem oneFile_lossless : ∃ pages lines,
    Follows plainWorld oneFile (fun _ => 1024) 0 none pages ∧ PagesShow pages lines ∧
      Remaining plainWorld oneFile.pythonPaths 0 lines :=
  (sourcePages_lossless plainWorld oneFile (fun _ => 1024) oneFile_quiet).1

end Concrete

end Sastsimi.Pages
