import Mathlib.Data.List.Dedup
import Sastsimi.Surfaces.Expanded

/-!
# What a second look shows

Every selected line and every selected fact is shown or listed as unavailable: the anchor in every
part, a fact once and beside its source line.
-/

namespace Sastsimi.Surfaces

open Sastsimi.Lib Sastsimi.Contracts Sastsimi.Runtime

/-! ## The selected lines -/

section Lines

variable {redactor : Redactor} {parse : Parser} {index : SurfaceIndex} {surface : AttackSurface}
variable {prepared : PreparedFileContext} {budget : Nat} {selection : Selection}

theorem sourceLine_line {line : Nat} {item : SourceLine}
    (found : prepared.sourceLine line = some item) : item.line = line := by
  cases line with
  | zero => cases found
  | succ before =>
      obtain ⟨text, -, rfl⟩ := Option.map_eq_some_iff.1 found
      rfl

/-- The lines of the file that are selected. -/
def Selection.items (selection : Selection) (prepared : PreparedFileContext) : List SourceLine :=
  selection.lines.filterMap prepared.sourceLine

theorem lines_filterMap (lines : List Nat) :
    ((lines.filterMap prepared.sourceLine).map SourceLine.line).Sublist lines := by
  induction lines with
  | nil => simp
  | cons line rest ih =>
      cases found : prepared.sourceLine line with
      | none =>
          rw [List.filterMap_cons_none found]
          exact ih.cons line
      | some item =>
          rw [List.filterMap_cons_some found, List.map_cons, sourceLine_line found]
          exact ih.cons_cons line

/-- The anchor and the other lines are the selected lines. -/
theorem anchor_others :
    (anchorLine surface prepared selection ++ otherLines surface prepared selection).Perm
      (selection.items prepared) := by
  unfold anchorLine otherLines Selection.items
  rw [← List.filterMap_append]
  apply List.Perm.filterMap
  have split := List.filter_append_perm (fun (line : Nat) => decide ((line : Int) = surface.line))
    selection.lines
  simpa using split

theorem line_of_anchor {item : SourceLine} (member : item ∈ anchorLine surface prepared selection) :
    (item.line : Int) = surface.line := by
  obtain ⟨line, kept, found⟩ := List.mem_filterMap.1 member
  rw [sourceLine_line found]
  simpa using (List.mem_filter.1 kept).2

theorem line_of_other {item : SourceLine} (member : item ∈ otherLines surface prepared selection) :
    (item.line : Int) ≠ surface.line := by
  obtain ⟨line, kept, found⟩ := List.mem_filterMap.1 member
  rw [sourceLine_line found]
  simpa using (List.mem_filter.1 kept).2

theorem expandedSourceLines_nodup : (expandedSourceLines parse prepared surface).1.Nodup := by
  unfold expandedSourceLines
  simp only
  split
  · simp
  · split
    · exact List.nodup_range'
    · split
      · exact List.nodup_range'
      · exact (List.perm_insertionSort _ _).nodup_iff.2 (List.nodup_dedup _)

/-- No line is selected twice. -/
theorem selectLines_nodup {lines : List Nat} {scope : String}
    (selected : selectLines redactor parse index surface prepared budget = .ok (lines, scope)) :
    lines.Nodup := by
  unfold selectLines at selected
  simp only at selected
  split at selected
  · obtain ⟨large, -, selected⟩ := except_bind_ok selected
    split at selected
    · have same : _ = lines := congrArg Prod.fst (Except.ok.inj selected)
      exact same ▸ expandedSourceLines_nodup
    · have same : _ = lines := congrArg Prod.fst (Except.ok.inj selected)
      exact same ▸ List.nodup_range'
  · have same : _ = lines := congrArg Prod.fst (Except.ok.inj selected)
    exact same ▸ expandedSourceLines_nodup

end Lines

/-! ## The packing -/

/-- A chunk shows the anchor and then lines that were done, in order. -/
def BeginsWith (anchor done : List SourceLine) (chunk : Shown) : Prop :=
  ∃ rest, chunk.sources = anchor ++ rest ∧ rest.Sublist done ∧
    ∀ line ∈ rest, isAnchor anchor line = false

/-- A chunk shows the number of a line. -/
def ShowsLine (number : Nat) (chunk : Shown) : Prop := number ∈ chunk.sources.map SourceLine.line

/-- Every fact of a chunk stands beside its source line. -/
def Beside (chunk : Shown) : Prop := ∀ fact ∈ chunk.facts, ShowsLine fact.line chunk

/-- The chunks begin with the anchor, show every line that is done, and each fact beside its
line. -/
structure Laid (anchor done : List SourceLine) (packing : Packing Shown) : Prop where
  begins : ∀ chunk ∈ packing.all, BeginsWith anchor done chunk
  shown : ∀ line ∈ done, ∃ chunk ∈ packing.all, line ∈ chunk.sources
  beside : ∀ chunk ∈ packing.all, Beside chunk

/-- The current chunk shows the line whose facts come next. -/
structure LaidAt (anchor done : List SourceLine) (line : SourceLine) (packing : Packing Shown) :
    Prop extends Laid anchor done packing where
  current : ShowsLine line.line packing.current

section Packing

variable {render : Render} {budget : Nat} {anchor done : List SourceLine} {missing : Missing}
variable {line : SourceLine} {fact : AstFact} {facts : List AstFact} {packing next : Packing Shown}
variable {chunk : Shown} {number : Nat}

theorem BeginsWith.widen (begins : BeginsWith anchor done chunk) (more : List SourceLine) :
    BeginsWith anchor (done ++ more) chunk := by
  obtain ⟨rest, split, ordered, apart⟩ := begins
  exact ⟨rest, split, ordered.trans (List.sublist_append_left _ _), apart⟩

/-- One more line that is not the anchor. -/
theorem BeginsWith.add (begins : BeginsWith anchor done chunk)
    (apart : isAnchor anchor line = false) :
    BeginsWith anchor (done ++ [line]) ⟨chunk.sources ++ [line], chunk.facts⟩ := by
  obtain ⟨rest, split, ordered, others⟩ := begins
  refine ⟨rest ++ [line], by simp [split], ordered.append (List.Sublist.refl _), ?_⟩
  intro other member
  rcases List.mem_append.1 member with before | last
  · exact others other before
  · exact List.mem_singleton.1 last ▸ apart

theorem beginsWith_anchored (member : line ∈ done) :
    BeginsWith anchor done ⟨anchored anchor line, facts⟩ := by
  unfold anchored
  cases found : isAnchor anchor line with
  | true => exact ⟨[], by simp, List.nil_sublist _, by simp⟩
  | false => exact ⟨[line], by simp, List.singleton_sublist.2 member, by simp [found]⟩

theorem showsLine_anchored (line : SourceLine) (facts : List AstFact) :
    ShowsLine line.line ⟨anchored anchor line, facts⟩ := by
  unfold anchored ShowsLine
  cases found : isAnchor anchor line with
  | true => simpa [isAnchor] using found
  | false => simp

theorem Beside.add (beside : Beside chunk) (shown : ShowsLine fact.line chunk) :
    Beside ⟨chunk.sources, chunk.facts ++ [fact]⟩ := by
  intro other member
  rcases List.mem_append.1 member with before | last
  · exact beside other before
  · exact List.mem_singleton.1 last ▸ shown

/-- A fact goes beside its line, which the current chunk shows. -/
theorem LaidAt.addFact (laid : LaidAt anchor done line packing) (member : line ∈ done)
    (same : fact.line = line.line)
    (turned : packFact render budget anchor missing line packing fact = .ok next) :
    LaidAt anchor done line next where
  begins := Packing.put_keeps (BeginsWith anchor done) turned (fun _ kept => kept)
    (fun _ => beginsWith_anchored member) laid.begins
  shown := fun other shown =>
    Packing.put_exists (other ∈ Shown.sources ·) turned id (laid.shown other shown)
  beside := by
    apply Packing.put_keeps Beside turned
    · exact fun _ kept => kept.add (same ▸ laid.current)
    · intro _ other placed
      rw [List.mem_singleton.1 placed, same]
      exact showsLine_anchored line _
    · exact laid.beside
  current := Packing.put_current (ShowsLine line.line) turned laid.current
    (showsLine_anchored line _)

/-- A line that is not the anchor is shown. -/
theorem Laid.addLine (laid : Laid anchor done packing) (apart : isAnchor anchor line = false)
    (turned : packing.put (fun shown => exceeds budget (render shown missing))
      ⟨packing.current.sources ++ [line], packing.current.facts⟩ ⟨anchor ++ [line], []⟩ = .ok next) :
    LaidAt anchor (done ++ [line]) line next := by
  have here : line ∈ next.current.sources :=
    Packing.put_current (line ∈ Shown.sources ·) turned (by simp) (by simp)
  refine ⟨⟨?_, ?_, ?_⟩, List.mem_map_of_mem here⟩
  · apply Packing.put_keeps (BeginsWith anchor (done ++ [line])) turned
    · intro _ _
      exact (laid.begins _ (by simp [Packing.all])).add apart
    · intro _
      exact ⟨[line], rfl, List.sublist_append_right _ _, by simp [apart]⟩
    · exact fun chunk member => (laid.begins chunk member).widen [line]
  · intro other member
    rcases List.mem_append.1 member with before | now
    · apply Packing.put_exists (other ∈ Shown.sources ·) turned _ (laid.shown other before)
      exact fun shown => List.mem_append_left _ shown
    · rw [List.mem_singleton.1 now]
      exact ⟨next.current, by simp [Packing.all], here⟩
  · apply Packing.put_keeps Beside turned
    · intro _ kept fact placed
      exact (List.map_append ▸ List.mem_append_left _ (kept fact placed) :)
    · intro _ fact placed
      cases placed
    · exact laid.beside

/-- The line of the anchor is in every chunk already. -/
theorem Laid.addAnchor (laid : Laid anchor done packing) (member : line ∈ anchor) :
    LaidAt anchor (done ++ [line]) line packing := by
  have shows : ∀ chunk ∈ packing.all, line ∈ chunk.sources := by
    intro chunk shown
    obtain ⟨rest, split, -⟩ := laid.begins chunk shown
    rw [split]
    exact List.mem_append_left _ member
  have last : packing.current ∈ packing.all := by simp [Packing.all]
  refine ⟨⟨?_, ?_, laid.beside⟩, List.mem_map_of_mem (shows _ last)⟩
  · exact fun chunk shown => (laid.begins chunk shown).widen [line]
  · intro other shown
    rcases List.mem_append.1 shown with before | now
    · exact laid.shown other before
    · rw [List.mem_singleton.1 now]
      exact ⟨packing.current, last, shows _ last⟩

/-- A line and its facts. -/
theorem Laid.turn (laid : Laid anchor done packing)
    (own : isAnchor anchor line = true → line ∈ anchor)
    (turned : packLine render budget anchor missing facts packing line = .ok next) :
    Laid anchor (done ++ [line]) next := by
  obtain ⟨middle, placed, looped⟩ := except_bind_ok turned
  have start : LaidAt anchor (done ++ [line]) line middle := by
    unfold placeLine at placed
    split at placed
    · rename_i here
      exact Except.ok.inj placed ▸ laid.addAnchor (own here)
    · rename_i apart
      exact laid.addLine (by simpa using apart) placed
  have after : LaidAt anchor (done ++ [line]) line next :=
    foldlM_keeps (fun shown turned kept =>
      kept.addFact (by simp) (mem_ofKey.1 shown).2 turned) looped start
  exact after.toLaid

/-- All lines and their facts. -/
theorem Laid.run (laid : Laid anchor done packing) {lines : List SourceLine}
    (own : ∀ line ∈ lines, isAnchor anchor line = true → line ∈ anchor)
    (looped : lines.foldlM (packLine render budget anchor missing facts) packing = .ok next) :
    Laid anchor (done ++ lines) next := by
  induction lines generalizing done packing with
  | nil =>
      have unchanged : packing = next := by simpa [pure, Except.pure] using looped
      rw [List.append_nil, ← unchanged]
      exact laid
  | cons line rest ih =>
      obtain ⟨middle, turned, continued⟩ := foldlM_cons_ok looped
      have whole := ih (laid.turn (own line List.mem_cons_self) turned)
        (fun other member => own other (List.mem_cons_of_mem _ member)) continued
      rwa [List.append_assoc, List.singleton_append] at whole

theorem packFact_facts
    (turned : packFact render budget anchor missing line packing fact = .ok next) :
    next.all.flatMap Shown.facts = packing.all.flatMap Shown.facts ++ [fact] :=
  Packing.put_shows turned rfl rfl

/-- The chunks show the facts of each line once, line by line. -/
theorem packLine_facts
    (turned : packLine render budget anchor missing facts packing line = .ok next) :
    next.all.flatMap Shown.facts =
      packing.all.flatMap Shown.facts ++ ofKey AstFact.line line.line facts := by
  obtain ⟨middle, placed, looped⟩ := except_bind_ok turned
  have same : middle.all.flatMap Shown.facts = packing.all.flatMap Shown.facts := by
    unfold placeLine at placed
    split at placed
    · rw [Except.ok.inj placed]
    · rw [Packing.put_shows (placed : _ = Except.ok middle) (List.append_nil _).symm rfl,
        List.append_nil]
  have shown := Packing.run_shows (fun turned => packFact_facts turned) looped
  rw [shown, same]
  simp

end Packing

/-! ## The layout -/

/-- The entry that a dropped fact leaves beside the lines that are shown. -/
def AstFact.unavailableBeside (lines : List SourceLine) (item : AstFact) : Unavailable :=
  ⟨item.line, if item.line ∈ lines.map SourceLine.line then "AST_FACT_TOO_LARGE"
    else "SOURCE_LINE_TOO_LARGE"⟩

/-- What a layout shows of a selection, and what its lists name. -/
structure Covers (surface : AttackSurface) (prepared : PreparedFileContext) (selection : Selection)
    (layout : ExpandedLayout) (droppedLines : List SourceLine) (droppedFacts : List AstFact) :
    Prop where
  anchored : ∀ line ∈ layout.anchor, (line.line : Int) = surface.line
  ordered : layout.lines.Sublist (otherLines surface prepared selection)
  lines : (layout.anchor ++ layout.lines ++ droppedLines).Perm (selection.items prepared)
  missingLines : layout.missing.sources = droppedLines.map SourceLine.unavailable
  facts : (layout.facts ++ droppedFacts).Perm (selectedFacts prepared selection)
  missingFacts : layout.missing.facts =
    droppedFacts.map (AstFact.unavailableBeside (layout.anchor ++ layout.lines))
  begins : ∀ chunk ∈ layout.chunks, BeginsWith layout.anchor layout.lines chunk
  shown : ∀ line ∈ layout.anchor ++ layout.lines, ∃ chunk ∈ layout.chunks, line ∈ chunk.sources
  beside : ∀ chunk ∈ layout.chunks, Beside chunk
  once : (layout.chunks.flatMap Shown.facts).Perm layout.facts

section Layout

variable {redactor : Redactor} {index : SurfaceIndex} {surface : AttackSurface}
variable {prepared : PreparedFileContext} {budget : Nat} {selection : Selection}
variable {render : Render} {anchor lines : List SourceLine}

theorem foldl_addBeside (dropped : List AstFact) (missing : Missing) :
    dropped.foldl (Missing.addBeside lines) missing =
      { missing with facts := missing.facts ++
          dropped.map (AstFact.unavailableBeside lines) } := by
  induction dropped generalizing missing with
  | nil => simp
  | cons item rest ih =>
      rw [List.foldl_cons, ih]
      simp [Missing.addBeside, Missing.addFact, AstFact.unavailableBeside]

/-- A fact that is kept has its source line. -/
theorem line_of_kept {missing : Missing} {fact : AstFact}
    (small : besideLineTooLarge render budget anchor lines missing fact = .ok false) :
    fact.line ∈ lines.map SourceLine.line := by
  unfold besideLineTooLarge at small
  split at small
  · cases small
  · rename_i line found
    have same : line.line = fact.line := by simpa using List.find?_some found
    exact same ▸ List.mem_map_of_mem (List.mem_of_find?_eq_some found)

/-- The numbers of the shown lines are distinct. -/
theorem numbers_nodup {shown dropped : List SourceLine} (distinct : selection.lines.Nodup)
    (whole : (shown ++ dropped).Perm (selection.items prepared)) :
    (shown.map SourceLine.line).Nodup := by
  have all : ((shown ++ dropped).map SourceLine.line).Nodup :=
    (whole.map SourceLine.line).nodup_iff.2 (distinct.sublist (lines_filterMap _))
  rw [List.map_append] at all
  exact all.of_append_left

/-- The facts of distinct lines are all facts of these lines. -/
theorem facts_once {facts : List AstFact} (distinct : (lines.map SourceLine.line).Nodup)
    (placed : ∀ fact ∈ facts, fact.line ∈ lines.map SourceLine.line) :
    (lines.flatMap fun line => ofKey AstFact.line line.line facts).Perm facts := by
  have keyed := perm_flatMap_ofKey distinct placed
  rwa [List.flatMap_map] at keyed

/-- Only the anchor has its number. -/
theorem isAnchor_iff {kept : List SourceLine} (same : ∀ line ∈ anchor, (line.line : Int) = surface.line)
    (ordered : kept.Sublist (otherLines surface prepared selection)) :
    ∀ line ∈ kept, isAnchor anchor line = false := by
  intro line member
  have differs := line_of_other (ordered.subset member)
  simp only [isAnchor, decide_eq_false_iff_not, List.mem_map, not_exists, not_and]
  intro other shown number
  exact differs (number ▸ same other shown)

/-- Lines that are not the anchor are among the others. -/
theorem BeginsWith.others {kept : List SourceLine} {chunk : Shown}
    (begins : BeginsWith anchor (anchor ++ kept) chunk)
    (apart : ∀ line ∈ kept, isAnchor anchor line = false) : BeginsWith anchor kept chunk := by
  obtain ⟨rest, split, ordered, others⟩ := begins
  refine ⟨rest, split, ?_, others⟩
  have filtered := ordered.filter fun line => !isAnchor anchor line
  have own : anchor.filter (fun line => !isAnchor anchor line) = [] := by
    rw [List.filter_eq_nil_iff]
    intro line member
    simp only [isAnchor, Bool.not_eq_true', decide_eq_false_iff_not, not_not]
    exact List.mem_map_of_mem member
  have all : rest.filter (fun line => !isAnchor anchor line) = rest :=
    List.filter_eq_self.2 fun line member => by simp [others line member]
  have keptAll : kept.filter (fun line => !isAnchor anchor line) = kept :=
    List.filter_eq_self.2 fun line member => by simp [apart line member]
  rwa [List.filter_append, own, all, keptAll, List.nil_append] at filtered

/-- The anchor is kept, or is the first line that becomes unavailable. -/
theorem anchor_split (wanted : List SourceLine) (large : Bool) :
    ∃ dropped, (if large then [] else wanted) ++ dropped = wanted ∧
      (⟨if large then wanted.map SourceLine.unavailable else [], []⟩ : Missing) =
        ⟨dropped.map SourceLine.unavailable, []⟩ := by
  cases large with
  | true => exact ⟨wanted, by simp, by simp⟩
  | false => exact ⟨[], by simp, by simp⟩

theorem laid_start : Laid anchor [] ⟨[], ⟨anchor, []⟩⟩ where
  begins := by
    intro chunk member
    rw [List.mem_singleton.1 member]
    exact ⟨[], by simp, List.Sublist.refl _, by simp⟩
  shown := by simp
  beside := by
    intro chunk member
    rw [List.mem_singleton.1 member]
    exact fun fact placed => nomatch placed

/-- What the chunks of a second look show. -/
theorem expandedLayout_ok {layout : ExpandedLayout} (distinct : selection.lines.Nodup)
    (found : expandedLayout redactor index surface prepared budget selection = .ok layout) :
    ∃ droppedLines droppedFacts,
      Covers surface prepared selection layout droppedLines droppedFacts := by
  obtain ⟨anchorLarge, -, found⟩ := except_bind_ok found
  obtain ⟨usable, sieved, found⟩ := except_bind_ok found
  obtain ⟨facts, sievedFacts, found⟩ := except_bind_ok found
  obtain ⟨_, -, found⟩ := except_bind_ok found
  obtain ⟨_, -, found⟩ := except_bind_ok found
  obtain ⟨packing, packed, found⟩ := except_bind_ok found
  obtain ⟨droppedAnchor, split, start⟩ :=
    anchor_split (anchorLine surface prepared selection) anchorLarge
  rw [start] at sieved
  generalize (if anchorLarge = true then [] else anchorLine surface prepared selection) = anchor
    at *
  have same := Except.ok.inj found
  subst same
  obtain ⟨moreLines, lines⟩ := Sieve.sifted_pass sieved
  obtain ⟨droppedFacts, sifted⟩ := Sieve.sifted_pass sievedFacts
  have numbers : ∀ line ∈ anchor, (line.line : Int) = surface.line := by
    intro line member
    have wanted : line ∈ anchorLine surface prepared selection :=
      split ▸ List.mem_append_left _ member
    exact line_of_anchor wanted
  have apart := isAnchor_iff numbers lines.ordered
  have whole : (anchor ++ usable.kept ++ (droppedAnchor ++ moreLines)).Perm
      (selection.items prepared) := by
    have swapped := (List.perm_append_comm_assoc usable.kept droppedAnchor moreLines).append_left
      anchor
    rw [← List.append_assoc, ← List.append_assoc anchor, split] at swapped
    exact swapped.trans ((lines.exhausts.append_left _).trans anchor_others)
  have left : facts.left = ⟨(droppedAnchor ++ moreLines).map SourceLine.unavailable,
      droppedFacts.map (AstFact.unavailableBeside (anchor ++ usable.kept))⟩ := by
    rw [sifted.left, lines.left, foldl_addBeside, foldl_addSource]
    simp
  have own : ∀ line ∈ anchor ++ usable.kept, isAnchor anchor line = true → line ∈ anchor := by
    intro line member here
    rcases List.mem_append.1 member with anchored | other
    · exact anchored
    · rw [apart line other] at here
      cases here
  have laid := laid_start.run own packed
  have shown : packing.all.flatMap Shown.facts =
      (anchor ++ usable.kept).flatMap fun line => ofKey AstFact.line line.line facts.kept :=
    Packing.run_shows (fun turned => packLine_facts turned) packed
  refine ⟨droppedAnchor ++ moreLines, droppedFacts, numbers, lines.ordered, whole, ?_,
    sifted.exhausts, ?_, ?_, laid.shown, laid.beside, ?_⟩
  · exact congrArg Missing.sources left
  · exact congrArg Missing.facts left
  · exact fun chunk member => (laid.begins chunk member).others apart
  · have placed : ∀ fact ∈ facts.kept, fact.line ∈ (anchor ++ usable.kept).map SourceLine.line := by
      intro fact member
      obtain ⟨earlier, -, small⟩ := sifted.kept fact member
      exact line_of_kept small
    show (packing.all.flatMap Shown.facts).Perm facts.kept
    rw [shown]
    exact facts_once (numbers_nodup distinct whole) placed

end Layout

/-! ## The contexts -/

section Outcome

variable (redactor : Redactor) (index : SurfaceIndex) (surface : AttackSurface)
variable (prepared : PreparedFileContext) (budget : Nat) (sha256 : List Char → String)
variable (parse : Parser) (workspaceId : String) (expectedSource : Option String)

/-- Why a second look is refused, or a payload of it that cannot be rendered. -/
inductive LookFails : ContextError → Prop where
  | budget (outside : budget < 512 ∨ 64 * 1024 < budget) :
      LookFails (.valueError "SURFACE_CONTEXT_BUDGET_INVALID")
  | scope (other : surface ∉ index.surfaces ∨ workspaceId ≠ index.workspaceId) :
      LookFails (.valueError "SURFACE_CONTEXT_SCOPE_MISMATCH")
  | source (changed : expectedSource ≠ none ∧ prepared.sourceSha256 ≠ expectedSource) :
      LookFails (.valueError "SURFACE_CONTEXT_SOURCE_CHANGED")
  | probe {error : ContextError}
      (failed : (fullProbe redactor index surface prepared >>= encoded) = .error error) :
      LookFails error
  | payload {error : ContextError} {selection : Selection} {partIndex partCount : Nat}
      {shown : Shown} {missing : Missing}
      (failed : (expandedPayload redactor index surface prepared selection partIndex partCount shown
        missing >>= encoded) = .error error) : LookFails error

/-- The metadata and the anchor exceed the budget beside the lists, or a chunk does with its own
index. -/
inductive Exceeds (selection : Selection) : Prop where
  | metadata {anchor : List SourceLine} {missing : Missing}
      (part : anchor.Sublist (anchorLine surface prepared selection))
      (large : exceeds budget (expandedPayload redactor index surface prepared selection
        (upperCount surface prepared selection) (upperCount surface prepared selection)
        ⟨anchor, []⟩ missing) = .ok true) : Exceeds selection
  | chunk {layout : ExpandedLayout} {chunk : Shown} {partIndex : Nat}
      (laid : expandedLayout redactor index surface prepared budget selection = .ok layout)
      (member : (chunk, partIndex) ∈ layout.chunks.zipIdx)
      (large : exceeds budget (expandedPayload redactor index surface prepared selection partIndex
        layout.chunks.length chunk layout.missing) = .ok true) : Exceeds selection

/-- How `expanded_surface_contexts` ends. -/
inductive ExpandedOutcome : Except ContextError (List SurfaceContext) → Prop where
  | contexts (selection : Selection) {layout : ExpandedLayout} {droppedLines : List SourceLine}
      {droppedFacts : List AstFact} {contexts : List SurfaceContext}
      (selected : selectLines redactor parse index surface prepared budget =
        .ok (selection.lines, selection.scope))
      (covers : Covers surface prepared selection layout droppedLines droppedFacts)
      (stored : storeParts redactor index surface prepared budget sha256 selection layout =
        .ok contexts)
      (numbered : contexts.map SurfaceContext.partIndex = List.range layout.chunks.length)
      (within : ∀ context ∈ contexts, context.partCount = contexts.length ∧
        context.promptBytes ≤ budget) : ExpandedOutcome (.ok contexts)
  | overflow (selection : Selection)
      (selected : selectLines redactor parse index surface prepared budget =
        .ok (selection.lines, selection.scope))
      (large : Exceeds redactor index surface prepared budget selection) :
      ExpandedOutcome (.error (.overflow surface.surfaceId))
  | fails {error : ContextError} (other : ∀ surfaceId, error ≠ .overflow surfaceId)
      (failed : LookFails redactor index surface prepared budget workspaceId expectedSource error) :
      ExpandedOutcome (.error error)

end Outcome

section Contexts

variable {redactor : Redactor} {index : SurfaceIndex} {surface : AttackSurface}
variable {prepared : PreparedFileContext} {budget : Nat} {sha256 : List Char → String}
variable {parse : Parser} {workspaceId : String} {expectedSource : Option String}
variable {selection : Selection} {layout : ExpandedLayout} {error : ContextError}

/-- Rendering does not raise the overflow of a surface. -/
theorem LookFails.other
    (failed : LookFails redactor index surface prepared budget workspaceId expectedSource error)
    (surfaceId : String) : error ≠ .overflow surfaceId := by
  have bytes : ∀ value, RaisesWithin (· ≠ .overflow surfaceId) (encoded value) := fun value =>
    RaisesWithin.mapError fun reason => by simp
  have payload : ∀ shown missing counts, RaisesWithin (· ≠ .overflow surfaceId)
      (surfacePayload redactor index surface prepared shown missing counts) := by
    intro shown missing counts reason raised
    exact RenderFails.other (raisesWithin_surfacePayload shown missing counts reason raised)
      surfaceId
  have look : ∀ selection partIndex partCount shown missing,
      RaisesWithin (· ≠ .overflow surfaceId) (expandedPayload redactor index surface prepared
        selection partIndex partCount shown missing >>= encoded) :=
    fun selection partIndex partCount shown missing =>
      ((payload _ _ _).bind fun _ _ => .ok _).bind fun value _ => bytes value
  cases failed with
  | budget outside => simp
  | scope other => simp
  | source changed => simp
  | probe failed =>
      have whole : RaisesWithin (· ≠ .overflow surfaceId)
          (fullProbe redactor index surface prepared >>= encoded) :=
        ((payload _ _ _).bind fun _ _ => .ok _).bind fun value _ => bytes value
      exact whole error failed
  | payload failed => exact look _ _ _ _ _ error failed

/-- Measuring a program fails where rendering it does. -/
theorem exceeds_error {limit : Nat} {program : Except ContextError Json}
    (raised : exceeds limit program = .error error) : (program >>= encoded) = .error error := by
  rcases except_bind_error raised with early | ⟨value, rendered, raised⟩
  · rw [early]
    rfl
  · rcases except_bind_error raised with failed | ⟨_, _, raised⟩
    · rw [rendered]
      exact failed
    · cases raised

theorem raisesWithin_look (missing : Missing) (shown : Shown) (partIndex partCount : Nat) :
    RaisesWithin (LookFails redactor index surface prepared budget workspaceId expectedSource)
      (exceeds budget (expandedPayload redactor index surface prepared selection partIndex partCount
        shown missing)) := fun _ raised => .payload (exceeds_error raised)

/-- The identity of a context has canonical bytes. -/
theorem encoded_contextIdentity (index : SurfaceIndex) (surface : AttackSurface) (kind : String)
    (partIndex : Nat) (contextHash : String) :
    ∃ bytes, encoded (contextIdentity index surface kind partIndex contextHash) = .ok bytes := by
  refine ⟨encode (contextIdentity index surface kind partIndex contextHash), ?_⟩
  rfl

/-- The selection fails only where the probe cannot be rendered. -/
theorem selectLines_error
    (raised : selectLines redactor parse index surface prepared budget = .error error) :
    LookFails redactor index surface prepared budget workspaceId expectedSource error := by
  unfold selectLines at raised
  simp only at raised
  split at raised
  · rcases except_bind_error raised with early | ⟨large, _, raised⟩
    · exact .probe (exceeds_error early)
    · split at raised
      · cases raised
      · cases raised
  · cases raised

theorem storePart_ok {chunk : Shown} {partIndex : Nat} {context : SurfaceContext}
    (stored : storePart redactor index surface prepared budget sha256 selection layout chunk
      partIndex = .ok context) :
    context.partIndex = partIndex ∧ context.partCount = layout.chunks.length ∧
      context.promptBytes ≤ budget := by
  obtain ⟨record, -, stored⟩ := except_bind_ok stored
  obtain ⟨bytes, -, stored⟩ := except_bind_ok stored
  obtain ⟨_, checked, stored⟩ := except_bind_ok stored
  obtain ⟨identity, -, stored⟩ := except_bind_ok stored
  have small := raiseIf_ok.1 checked
  have same := Except.ok.inj stored
  subst same
  exact ⟨rfl, rfl, Nat.not_lt.1 small⟩

/-- A part that is not stored exceeds the budget or cannot be rendered. -/
theorem storePart_error {chunk : Shown} {partIndex : Nat}
    (raised : storePart redactor index surface prepared budget sha256 selection layout chunk
      partIndex = .error error) :
    LookFails redactor index surface prepared budget workspaceId expectedSource error ∨
      (error = .overflow surface.surfaceId ∧
        exceeds budget (expandedPayload redactor index surface prepared selection partIndex
          layout.chunks.length chunk layout.missing) = .ok true) := by
  rcases except_bind_error raised with early | ⟨record, rendered, raised⟩
  · have failed : (expandedPayload redactor index surface prepared selection partIndex
        layout.chunks.length chunk layout.missing >>= encoded) = .error error := by
      rw [early]
      rfl
    exact .inl (.payload failed)
  rcases except_bind_error raised with early | ⟨bytes, written, raised⟩
  · have failed : (expandedPayload redactor index surface prepared selection partIndex
        layout.chunks.length chunk layout.missing >>= encoded) = .error error := by
      rw [rendered]
      exact early
    exact .inl (.payload failed)
  rcases except_bind_error raised with early | ⟨_, _, raised⟩
  · right
    unfold raiseIf at early
    split at early
    · rename_i large
      cases early
      refine ⟨rfl, ?_⟩
      simp [exceeds, rendered, written, bind, Except.bind, pure, Except.pure, large]
    · cases early
  rcases except_bind_error raised with early | ⟨identity, _, raised⟩
  · obtain ⟨bytes, found⟩ := encoded_contextIdentity index surface "simple_surface_context_id_v2"
      partIndex (sha256 bytes)
    rw [found] at early
    cases early
  · cases raised

theorem raisesWithin_packLine {render : Render} {limit : Nat} {anchor : List SourceLine}
    {missing : Missing} {facts : List AstFact} {allowed : ContextError → Prop}
    (renders : ∀ shown missing, RaisesWithin allowed (exceeds limit (render shown missing)))
    (packing : Packing Shown) (line : SourceLine) :
    RaisesWithin allowed (packLine render limit anchor missing facts packing line) := by
  apply RaisesWithin.bind
  · unfold placeLine
    split
    · exact .ok packing
    · exact Packing.raisesWithin_put (renders _ _)
  · intro middle _
    exact RaisesWithin.foldlM fun packing fact _ => Packing.raisesWithin_put (renders _ _)

/-- Without a layout the metadata exceeds the budget or a payload cannot be rendered. -/
theorem expandedLayout_error
    (raised : expandedLayout redactor index surface prepared budget selection = .error error) :
    LookFails redactor index surface prepared budget workspaceId expectedSource error ∨
      (error = .overflow surface.surfaceId ∧
        Exceeds redactor index surface prepared budget selection) := by
  have measures : ∀ shown missing, RaisesWithin
      (LookFails redactor index surface prepared budget workspaceId expectedSource)
      (exceeds budget (expandedPayload redactor index surface prepared selection
        (upperCount surface prepared selection) (upperCount surface prepared selection) shown
        missing)) := fun shown missing => raisesWithin_look missing shown _ _
  rcases except_bind_error raised with early | ⟨anchorLarge, _, raised⟩
  · left
    unfold anchorTooLarge at early
    split at early
    · cases early
    · exact measures _ _ error early
  rcases except_bind_error raised with early | ⟨usable, _, raised⟩
  · exact .inl (RaisesWithin.foldlM (fun sieve item _ =>
      Sieve.raisesWithin_sift (measures _ _)) error early)
  rcases except_bind_error raised with early | ⟨facts, _, raised⟩
  · left
    apply RaisesWithin.foldlM _ error early
    intro sieve item _
    apply Sieve.raisesWithin_sift
    unfold besideLineTooLarge
    split
    · exact .ok true
    · exact measures _ _
  rcases except_bind_error raised with early | ⟨large, metadata, raised⟩
  · exact .inl (measures _ _ error early)
  rcases except_bind_error raised with early | ⟨_, _, raised⟩
  · right
    unfold raiseIf at early
    split at early
    · rename_i exceeded
      cases early
      refine ⟨rfl, .metadata ?_ (exceeded ▸ metadata)⟩
      split
      · exact List.nil_sublist _
      · exact List.Sublist.refl _
    · cases early
  rcases except_bind_error raised with early | ⟨packing, _, raised⟩
  · exact .inl (RaisesWithin.foldlM (fun packing line _ =>
      raisesWithin_packLine measures packing line) error early)
  · cases raised

/-- Every selected line and every selected fact is shown or listed as unavailable: the anchor in
every part, every other line in some part, a fact once and beside its line.  Every stored part is
within the budget, and the surface overflows only when the metadata with the anchor or one of the
chunks does. -/
theorem expandedSurfaceContexts_covers :
    ExpandedOutcome redactor index surface prepared budget sha256 parse workspaceId expectedSource
      (expandedSurfaceContexts redactor index surface prepared budget sha256 parse workspaceId
        expectedSource) := by
  cases found : expandedSurfaceContexts redactor index surface prepared budget sha256 parse
      workspaceId expectedSource with
  | ok contexts =>
      obtain ⟨_, -, found⟩ := except_bind_ok found
      obtain ⟨_, -, found⟩ := except_bind_ok found
      obtain ⟨_, -, found⟩ := except_bind_ok found
      obtain ⟨⟨lines, scope⟩, selected, found⟩ := except_bind_ok found
      obtain ⟨layout, laid, stored⟩ := except_bind_ok found
      obtain ⟨droppedLines, droppedFacts, covers⟩ :=
        expandedLayout_ok (selectLines_nodup selected) laid
      have paired : List.Forall₂ (fun (entry : Shown × Nat) context =>
          entry.2 = context.partIndex) layout.chunks.zipIdx contexts :=
        (forall₂_of_mapM stored).imp fun entry context part => (storePart_ok part).1.symm
      have count := paired.length_eq
      rw [List.length_zipIdx] at count
      have numbered : contexts.map SurfaceContext.partIndex = List.range layout.chunks.length := by
        have same : layout.chunks.zipIdx.map Prod.snd = contexts.map SurfaceContext.partIndex := by
          rw [← List.forall₂_eq_eq_eq, List.forall₂_map_left_iff, List.forall₂_map_right_iff]
          exact paired
        rw [← same, List.zipIdx_map_snd, List.range_eq_range']
      have within : ∀ context ∈ contexts,
          context.partCount = contexts.length ∧ context.promptBytes ≤ budget := by
        intro context member
        obtain ⟨entry, -, part⟩ := (mem_mapM_ok stored context).1 member
        exact ⟨(storePart_ok part).2.1.trans count, (storePart_ok part).2.2⟩
      exact .contexts ⟨lines, scope⟩ selected covers stored numbered within
  | error error =>
      rcases except_bind_error found with early | ⟨_, _, found⟩
      · obtain ⟨same, outside⟩ := raised_of_raiseIf early
        exact .fails (same ▸ by simp) (same ▸ .budget outside)
      rcases except_bind_error found with early | ⟨_, _, found⟩
      · obtain ⟨same, other⟩ := raised_of_raiseIf early
        exact .fails (same ▸ by simp) (same ▸ .scope other)
      rcases except_bind_error found with early | ⟨_, _, found⟩
      · obtain ⟨same, changed⟩ := raised_of_raiseIf early
        exact .fails (same ▸ by simp) (same ▸ .source changed)
      rcases except_bind_error found with early | ⟨⟨lines, scope⟩, selected, found⟩
      · have failed : LookFails redactor index surface prepared budget workspaceId expectedSource
            error := selectLines_error early
        exact .fails failed.other failed
      rcases except_bind_error found with early | ⟨layout, laid, found⟩
      · have ends : LookFails redactor index surface prepared budget workspaceId expectedSource
            error ∨ _ := expandedLayout_error early
        rcases ends with failed | ⟨rfl, large⟩
        · exact .fails failed.other failed
        · exact .overflow ⟨lines, scope⟩ selected large
      obtain ⟨entry, member, raised⟩ := mapM_error found
      have ends : LookFails redactor index surface prepared budget workspaceId expectedSource
          error ∨ _ := storePart_error raised
      rcases ends with failed | ⟨rfl, large⟩
      · exact .fails failed.other failed
      · exact .overflow ⟨lines, scope⟩ selected (.chunk laid member large)

end Contexts

end Sastsimi.Surfaces
