import Sastsimi.Surfaces.Contexts

/-!
# The parts of a first look

The rounds of `_surface_context_parts` end with items that each fit beside the final lists of
unavailable items, and the packing puts every one of them into one chunk.
-/

namespace Sastsimi.Surfaces

open Sastsimi.Lib Sastsimi.Contracts Sastsimi.Runtime

/-! ## Screening -/

/-- The entry that a dropped source line leaves. -/
def SourceLine.unavailable (item : SourceLine) : Unavailable := ⟨item.line, "SOURCE_LINE_TOO_LARGE"⟩

/-- The entry that a dropped fact leaves. -/
def AstFact.unavailable (item : AstFact) : Unavailable := ⟨item.line, "AST_FACT_TOO_LARGE"⟩

/-- The lists at an earlier moment. -/
structure Missing.Before (earlier missing : Missing) : Prop where
  sources : earlier.sources <+: missing.sources
  facts : earlier.facts <+: missing.facts

theorem Missing.Before.trans {first second third : Missing} (one : first.Before second)
    (two : second.Before third) : first.Before third :=
  ⟨one.sources.trans two.sources, one.facts.trans two.facts⟩

theorem Missing.Before.refl (missing : Missing) : missing.Before missing :=
  ⟨List.prefix_rfl, List.prefix_rfl⟩

theorem foldl_addSource (dropped : List SourceLine) (missing : Missing) :
    dropped.foldl Missing.addSource missing =
      { missing with sources := missing.sources ++ dropped.map SourceLine.unavailable } := by
  induction dropped generalizing missing with
  | nil => simp
  | cons item rest ih =>
      rw [List.foldl_cons, ih]
      simp [Missing.addSource, SourceLine.unavailable]

theorem foldl_addFact (dropped : List AstFact) (missing : Missing) :
    dropped.foldl (Missing.addFact "AST_FACT_TOO_LARGE") missing =
      { missing with facts := missing.facts ++ dropped.map AstFact.unavailable } := by
  induction dropped generalizing missing with
  | nil => simp
  | cons item rest ih =>
      rw [List.foldl_cons, ih]
      simp [Missing.addFact, AstFact.unavailable]

theorem before_foldl_addSource {earlier dropped : List SourceLine} (before : earlier <+: dropped)
    (missing : Missing) :
    (earlier.foldl Missing.addSource missing).Before (dropped.foldl Missing.addSource missing) := by
  rw [foldl_addSource, foldl_addSource]
  exact ⟨(List.prefix_append_right_inj _).2 (before.map _), List.prefix_rfl⟩

theorem before_foldl_addFact {earlier dropped : List AstFact} (before : earlier <+: dropped)
    (missing : Missing) :
    (earlier.foldl (Missing.addFact "AST_FACT_TOO_LARGE") missing).Before
      (dropped.foldl (Missing.addFact "AST_FACT_TOO_LARGE") missing) := by
  rw [foldl_addFact, foldl_addFact]
  exact ⟨List.prefix_rfl, (List.prefix_append_right_inj _).2 (before.map _)⟩

/-- What is left of selected items after some rounds: the items that are still shown, in order,
and those that were too large when their turn came. -/
structure Screened (render : Render) (budget : Nat) (sources : List SourceLine)
    (facts : List AstFact) (screening : Screening) (droppedSources : List SourceLine)
    (droppedFacts : List AstFact) : Prop where
  listed : screening.missing =
    ⟨droppedSources.map SourceLine.unavailable, droppedFacts.map AstFact.unavailable⟩
  sourcesOrdered : screening.sources.Sublist sources
  factsOrdered : screening.facts.Sublist facts
  sources : (screening.sources ++ droppedSources).Perm sources
  facts : (screening.facts ++ droppedFacts).Perm facts
  sourcesLarge : ∀ item ∈ droppedSources, ∃ earlier : Missing, earlier.Before screening.missing ∧
    sourceTooLarge render budget earlier item = .ok true
  factsLarge : ∀ item ∈ droppedFacts, ∃ earlier : Missing, earlier.Before screening.missing ∧
    factTooLarge render budget earlier item = .ok true

/-- Every item still fits alone beside the lists. -/
structure Settled (render : Render) (budget : Nat) (screening : Screening) : Prop where
  sources : ∀ item ∈ screening.sources,
    sourceTooLarge render budget screening.missing item = .ok false
  facts : ∀ item ∈ screening.facts, factTooLarge render budget screening.missing item = .ok false

section Rounds

variable {render : Render} {budget : Nat} {sources : List SourceLine} {facts : List AstFact}
variable {screening next settled : Screening}
variable {droppedSources : List SourceLine} {droppedFacts : List AstFact}

theorem screened_start : Screened render budget sources facts ⟨sources, facts, ⟨[], []⟩⟩ [] [] where
  listed := rfl
  sourcesOrdered := List.Sublist.refl _
  factsOrdered := List.Sublist.refl _
  sources := by simp
  facts := by simp
  sourcesLarge := by simp
  factsLarge := by simp

/-- The rest of a list is what a pass keeps and drops of it. -/
theorem perm_of_pass {α : Type} {kept dropped before earlier items : List α}
    (pass : (kept ++ dropped).Perm before) (whole : (before ++ earlier).Perm items) :
    (kept ++ (earlier ++ dropped)).Perm items := by
  have swapped : (kept ++ (earlier ++ dropped)).Perm (kept ++ (dropped ++ earlier)) :=
    List.perm_append_comm.append_left _
  apply swapped.trans
  rw [← List.append_assoc]
  exact (pass.append_right _).trans whole

/-- A round is two passes. -/
theorem screen_passes (screened : screen render budget screening = .ok next) :
    ∃ moreSources moreFacts,
      Sieve.Sifted (sourceTooLarge render budget) Missing.addSource screening.missing
        screening.sources
        ⟨next.sources, moreSources.foldl Missing.addSource screening.missing⟩ moreSources ∧
      Sieve.Sifted (factTooLarge render budget) (Missing.addFact "AST_FACT_TOO_LARGE")
        (moreSources.foldl Missing.addSource screening.missing) screening.facts
        ⟨next.facts, next.missing⟩ moreFacts := by
  obtain ⟨passed, first, screened⟩ := except_bind_ok screened
  obtain ⟨rest, second, screened⟩ := except_bind_ok screened
  obtain ⟨moreSources, sifted⟩ := Sieve.sifted_pass first
  obtain ⟨moreFacts, siftedFacts⟩ := Sieve.sifted_pass second
  have same : (⟨passed.kept, rest.kept, rest.left⟩ : Screening) = next := by
    simpa [pure, Except.pure] using screened
  subst same
  rw [sifted.left] at siftedFacts
  refine ⟨moreSources, moreFacts, ?_, siftedFacts⟩
  rw [← sifted.left]
  exact sifted

/-- A round drops some more items; when it drops none, the items are settled. -/
theorem Screened.round
    (before : Screened render budget sources facts screening droppedSources droppedFacts)
    (screened : screen render budget screening = .ok next) :
    (∃ droppedSources droppedFacts,
      Screened render budget sources facts next droppedSources droppedFacts) ∧
    (¬ next.count < screening.count → Settled render budget next) := by
  obtain ⟨moreSources, moreFacts, sifted, siftedFacts⟩ := screen_passes screened
  have start := before_foldl_addSource (List.nil_prefix (l := moreSources)) screening.missing
  have middle := before_foldl_addFact (List.nil_prefix (l := moreFacts))
    (moreSources.foldl Missing.addSource screening.missing)
  rw [List.foldl_nil] at start middle
  have last : next.missing = moreFacts.foldl (Missing.addFact "AST_FACT_TOO_LARGE")
    (moreSources.foldl Missing.addSource screening.missing) := siftedFacts.left
  rw [← last] at middle
  constructor
  · refine ⟨droppedSources ++ moreSources, droppedFacts ++ moreFacts, ?_, ?_, ?_, ?_, ?_, ?_, ?_⟩
    · simp [last, foldl_addFact, foldl_addSource, before.listed]
    · exact sifted.ordered.trans before.sourcesOrdered
    · exact siftedFacts.ordered.trans before.factsOrdered
    · exact perm_of_pass sifted.exhausts before.sources
    · exact perm_of_pass siftedFacts.exhausts before.facts
    · intro item member
      rcases List.mem_append.1 member with already | now
      · obtain ⟨earlier, early, large⟩ := before.sourcesLarge item already
        exact ⟨earlier, early.trans (start.trans middle), large⟩
      · obtain ⟨earlier, early, large⟩ := sifted.dropped item now
        exact ⟨_, (before_foldl_addSource early _).trans middle, large⟩
    · intro item member
      rcases List.mem_append.1 member with already | now
      · obtain ⟨earlier, early, large⟩ := before.factsLarge item already
        exact ⟨earlier, early.trans (start.trans middle), large⟩
      · obtain ⟨earlier, early, large⟩ := siftedFacts.dropped item now
        exact ⟨_, last ▸ before_foldl_addFact early _, large⟩
  · intro unchanged
    have sourceCount := sifted.exhausts.length_eq
    have factCount := siftedFacts.exhausts.length_eq
    simp only [List.length_append, Screening.count] at sourceCount factCount unchanged
    have noSource : moreSources = [] := List.length_eq_zero_iff.1 (by omega)
    have noFact : moreFacts = [] := List.length_eq_zero_iff.1 (by omega)
    subst noSource noFact
    obtain ⟨sameSources, sourcesFit⟩ := sifted.all_kept
    obtain ⟨sameFacts, factsFit⟩ := siftedFacts.all_kept
    have kept : next.sources = screening.sources := congrArg Sieve.kept sameSources
    have keptFacts : next.facts = screening.facts := congrArg Sieve.kept sameFacts
    have keptMissing : next.missing = screening.missing := congrArg Sieve.left sameFacts
    exact ⟨by rwa [kept, keptMissing], by rwa [keptFacts, keptMissing]⟩

/-- The rounds end, with settled items. -/
theorem Screened.settles
    (before : Screened render budget sources facts screening droppedSources droppedFacts)
    (found : settle render budget screening = .ok settled) :
    (∃ droppedSources droppedFacts,
      Screened render budget sources facts settled droppedSources droppedFacts) ∧
    Settled render budget settled := by
  induction screening using settle.induct generalizing droppedSources droppedFacts with
  | case1 screening ih =>
      rw [settle] at found
      obtain ⟨next, screened, found⟩ := except_bind_ok found
      obtain ⟨⟨moreSources, moreFacts, after⟩, ends⟩ := before.round screened
      split at found
      · rename_i fewer
        exact ih next fewer after found
      · rename_i unchanged
        have same : next = settled := by simpa [pure, Except.pure] using found
        subst same
        exact ⟨⟨moreSources, moreFacts, after⟩, ends unchanged⟩

end Rounds

/-! ## Packing -/

/-- A chunk fits beside the lists. -/
def Fits (render : Render) (budget : Nat) (missing : Missing) (chunk : Shown) : Prop :=
  exceeds budget (render chunk missing) = .ok false

def Item.sources : Item → List SourceLine
  | .source line => [line]
  | .fact _ => []

def Item.facts : Item → List AstFact
  | .source _ => []
  | .fact shown => [shown]

/-- Chunks that show every item once and fit. -/
structure Packs (render : Render) (budget : Nat) (screening : Screening) (chunks : List Shown) :
    Prop where
  sources : chunks.flatMap Shown.sources = screening.sources
  facts : chunks.flatMap Shown.facts = screening.facts
  fits : ∀ chunk ∈ chunks, Fits render budget screening.missing chunk
  filled : chunks = [⟨[], []⟩] ∨ (chunks ≠ [] ∧ ∀ chunk ∈ chunks, chunk.isEmpty = false)

section Packing

variable {render : Render} {budget : Nat} {missing : Missing} {packing next : Packing Shown}
variable {item : Item} {settled : Screening} {chunks : List Shown}

theorem add_sources (shown : Shown) (item : Item) :
    (shown.add item).sources = shown.sources ++ item.sources := by
  cases item <;> simp [Shown.add, Item.sources]

theorem add_facts (shown : Shown) (item : Item) :
    (shown.add item).facts = shown.facts ++ item.facts := by
  cases item <;> simp [Shown.add, Item.facts]

@[simp] theorem isEmpty_add (shown : Shown) (item : Item) : (shown.add item).isEmpty = false := by
  cases item <;> simp [Shown.add, Shown.isEmpty]

theorem eq_of_isEmpty {shown : Shown} (empty : shown.isEmpty = true) : shown = ⟨[], []⟩ := by
  obtain ⟨sources, facts⟩ := shown
  simpa [Shown.isEmpty] using empty

theorem packItem_sources (turned : packItem render budget missing packing item = .ok next) :
    next.all.flatMap Shown.sources = packing.all.flatMap Shown.sources ++ item.sources :=
  Packing.put_shows turned (add_sources _ _) (by rw [add_sources, List.nil_append])

theorem packItem_facts (turned : packItem render budget missing packing item = .ok next) :
    next.all.flatMap Shown.facts = packing.all.flatMap Shown.facts ++ item.facts :=
  Packing.put_shows turned (add_facts _ _) (by rw [add_facts, List.nil_append])

/-- The items that the packing takes. -/
def Screening.items (screening : Screening) : List Item :=
  screening.sources.map Item.source ++ screening.facts.map Item.fact

theorem items_sources (screening : Screening) :
    screening.items.flatMap Item.sources = screening.sources := by
  have none : screening.facts.flatMap (fun _ => ([] : List SourceLine)) = [] := by
    rw [List.flatMap_eq_nil_iff]
    exact fun _ _ => rfl
  simp [Screening.items, Item.sources, List.flatMap_map, none]

theorem items_facts (screening : Screening) :
    screening.items.flatMap Item.facts = screening.facts := by
  have none : screening.sources.flatMap (fun _ => ([] : List AstFact)) = [] := by
    rw [List.flatMap_eq_nil_iff]
    exact fun _ _ => rfl
  simp [Screening.items, Item.facts, List.flatMap_map, none]

/-- A settled item fits alone. -/
theorem Settled.fits (ends : Settled render budget settled)
    (member : item ∈ settled.items) :
    Fits render budget settled.missing (Shown.add ⟨[], []⟩ item) := by
  rcases List.mem_append.1 member with source | fact
  · obtain ⟨line, shown, rfl⟩ := List.mem_map.1 source
    exact ends.sources line shown
  · obtain ⟨found, shown, rfl⟩ := List.mem_map.1 fact
    exact ends.facts found shown

/-- The chunks fit, and only a packing of no item has an empty chunk. -/
structure Filling (render : Render) (budget : Nat) (missing : Missing) (packing : Packing Shown) :
    Prop where
  fits : ∀ chunk ∈ packing.all, Fits render budget missing chunk
  closed : ∀ chunk ∈ packing.chunks, chunk.isEmpty = false
  current : packing.current.isEmpty = true → packing.chunks = []

theorem Filling.turn (filling : Filling render budget missing packing)
    (alone : Fits render budget missing (Shown.add ⟨[], []⟩ item))
    (turned : packItem render budget missing packing item = .ok next) :
    Filling render budget missing next := by
  have fits := Packing.put_keeps (Fits render budget missing) turned (fun small _ => small)
    (fun _ => alone) filling.fits
  rcases Packing.put_cases turned with ⟨-, same⟩ | ⟨large, same⟩
  · subst same
    exact ⟨fits, filling.closed, by simp⟩
  · have busy : packing.current.isEmpty = false := by
      by_contra empty
      have nothing : packing.current = ⟨[], []⟩ := eq_of_isEmpty (by simpa using empty)
      rw [nothing] at large
      exact Bool.false_ne_true (Except.ok.inj (alone.symm.trans large))
    subst same
    refine ⟨fits, ?_, by simp⟩
    intro chunk member
    rcases List.mem_append.1 member with closed | last
    · exact filling.closed chunk closed
    · rw [List.mem_singleton.1 last]
      exact busy

/-- The packing of settled items beside metadata that fits. -/
theorem packItems_spec (ends : Settled render budget settled)
    (metadata : Fits render budget settled.missing ⟨[], []⟩)
    (packed : packItems render budget settled = .ok chunks) :
    Packs render budget settled chunks := by
  obtain ⟨packing, looped, packed⟩ := except_bind_ok packed
  have filling : Filling render budget settled.missing packing :=
    foldlM_keeps (fun member turned kept => kept.turn (ends.fits member) turned) looped
      ⟨by simpa [Packing.all] using metadata, by simp, by simp⟩
  have sources : packing.all.flatMap Shown.sources = settled.items.flatMap Item.sources :=
    Packing.run_shows (fun turned => packItem_sources turned) looped
  have facts : packing.all.flatMap Shown.facts = settled.items.flatMap Item.facts :=
    Packing.run_shows (fun turned => packItem_facts turned) looped
  rw [items_sources] at sources
  rw [items_facts] at facts
  have same : chunks = packing.all := by
    split at packed
    · simpa [pure, Except.pure, eq_comm] using packed
    · rename_i finished
      simp only [Bool.or_eq_true, Bool.not_eq_true', List.isEmpty_iff, not_or,
        Bool.not_eq_false] at finished
      exact absurd (filling.current finished.1) finished.2
  subst same
  refine ⟨sources, facts, filling.fits, ?_⟩
  cases empty : packing.current.isEmpty with
  | true =>
      left
      simp [Packing.all, filling.current empty, eq_of_isEmpty empty]
  | false =>
      right
      constructor
      · simp [Packing.all]
      · intro chunk member
        rcases List.mem_append.1 member with closed | last
        · exact filling.closed chunk closed
        · rw [List.mem_singleton.1 last]
          exact empty

end Packing

/-! ## The parts -/

section Failures

variable {render : Render} {budget : Nat} {allowed : ContextError → Prop}

theorem raisesWithin_settle
    (renders : ∀ shown missing, RaisesWithin allowed (exceeds budget (render shown missing)))
    (screening : Screening) : RaisesWithin allowed (settle render budget screening) := by
  have round : ∀ screening, RaisesWithin allowed (screen render budget screening) := by
    intro screening
    apply RaisesWithin.bind
    · exact RaisesWithin.foldlM fun sieve item _ => Sieve.raisesWithin_sift (renders _ _)
    · intro sources _
      apply RaisesWithin.bind
      · exact RaisesWithin.foldlM fun sieve item _ => Sieve.raisesWithin_sift (renders _ _)
      · exact fun facts _ => .ok _
  induction screening using settle.induct with
  | case1 screening ih =>
      rw [settle]
      apply (round screening).bind
      intro next _
      split
      · exact ih next ‹_›
      · exact .ok next

theorem raisesWithin_packItems
    (renders : ∀ shown missing, RaisesWithin allowed (exceeds budget (render shown missing)))
    (settled : Screening) : RaisesWithin allowed (packItems render budget settled) := by
  apply RaisesWithin.bind
  · exact RaisesWithin.foldlM fun packing item _ => Packing.raisesWithin_put (renders _ _)
  · intro packing _
    split
    · exact .ok _
    · exact .ok _

end Failures

section Outcome

variable (redactor : Redactor) (index : SurfaceIndex) (surface : AttackSurface)
variable (prepared : PreparedFileContext) (budget : Nat)

/-- A payload of the surface cannot be rendered. -/
def RenderFails (error : ContextError) : Prop :=
  ∃ shown missing counts,
    (surfacePayload redactor index surface prepared shown missing counts >>= encoded) = .error error

/-- The items of a look that are settled, and those that the lists name. -/
structure Leaves (settled : Screening) (droppedSources : List SourceLine)
    (droppedFacts : List AstFact) : Prop where
  screened : Screened (windowPayload redactor index surface prepared) budget
    (windowLines surface prepared) (nearbyAstFacts prepared surface.line) settled droppedSources
    droppedFacts
  settled : Settled (windowPayload redactor index surface prepared) budget settled

/-- How `_surface_context_parts` ends: with one part for each chunk of the items that settled, with
metadata that exceeds the budget beside the settled lists, or with a payload that cannot be
rendered. -/
inductive PartsOutcome : Except ContextError (List Json) → Prop where
  | parts {settled : Screening} {droppedSources : List SourceLine} {droppedFacts : List AstFact}
      {layout : Layout} {parts : List Json}
      (leaves : Leaves redactor index surface prepared budget settled droppedSources droppedFacts)
      (packs : Packs (windowPayload redactor index surface prepared) budget settled layout.chunks)
      (listed : layout.missing = settled.missing)
      (rendered : renderParts redactor index surface prepared layout = .ok parts) :
      PartsOutcome (.ok parts)
  | overflow {settled : Screening} {droppedSources : List SourceLine} {droppedFacts : List AstFact}
      (leaves : Leaves redactor index surface prepared budget settled droppedSources droppedFacts)
      (large : exceeds budget
        (windowPayload redactor index surface prepared ⟨[], []⟩ settled.missing) = .ok true) :
      PartsOutcome (.error (.overflow surface.surfaceId))
  | fails {error : ContextError} (failed : RenderFails redactor index surface prepared error)
      (other : ∀ surfaceId, error ≠ .overflow surfaceId) : PartsOutcome (.error error)

variable {redactor index surface prepared budget}

/-- Rendering does not raise the overflow of a surface. -/
theorem RenderFails.other {error : ContextError}
    (failed : RenderFails redactor index surface prepared error) (surfaceId : String) :
    error ≠ .overflow surfaceId := by
  obtain ⟨shown, missing, counts, raised⟩ := failed
  have bytes : ∀ value, RaisesWithin (· ≠ .overflow surfaceId) (encoded value) := fun value =>
    RaisesWithin.mapError fun reason => by simp
  have payload : RaisesWithin (· ≠ .overflow surfaceId)
      (surfacePayload redactor index surface prepared shown missing counts) := by
    apply (bytes _).bind
    intro text _
    have read : RaisesWithin (· ≠ .overflow surfaceId) (redactor.loads text) := by
      apply RaisesWithin.bind
      · exact RaisesWithin.mapError fun reason => by simp
      · exact fun data _ => RaisesWithin.required (by simp)
    apply read.bind
    intro safe _
    apply RaisesWithin.bind
    · exact RaisesWithin.raiseIf (by simp)
    · exact fun _ _ => .ok safe
  exact payload.bind (fun value _ => bytes value) error raised

theorem raisesWithin_surfacePayload (shown : Shown) (missing : Missing) (counts : Counts) :
    RaisesWithin (RenderFails redactor index surface prepared)
      (surfacePayload redactor index surface prepared shown missing counts) := by
  intro error raised
  refine ⟨shown, missing, counts, ?_⟩
  rw [raised]
  rfl

theorem raisesWithin_exceeds (shown : Shown) (missing : Missing) (counts : Counts) :
    RaisesWithin (RenderFails redactor index surface prepared)
      (exceeds budget (surfacePayload redactor index surface prepared shown missing counts)) := by
  apply (raisesWithin_surfacePayload shown missing counts).bind
  intro payload rendered
  apply RaisesWithin.bind
  · intro error raised
    refine ⟨shown, missing, counts, ?_⟩
    rw [rendered]
    exact raised
  · intro bytes _
    exact .ok _

theorem raisesWithin_windowPayload (shown : Shown) (missing : Missing) :
    RaisesWithin (RenderFails redactor index surface prepared)
      (exceeds budget (windowPayload redactor index surface prepared shown missing)) :=
  raisesWithin_exceeds shown missing _

/-- The layout packs the settled items. -/
theorem surfaceContextLayout_ok {layout : Layout}
    (found : surfaceContextLayout redactor index surface prepared budget = .ok layout) :
    ∃ settled droppedSources droppedFacts,
      Leaves redactor index surface prepared budget settled droppedSources droppedFacts ∧
      Packs (windowPayload redactor index surface prepared) budget settled layout.chunks ∧
      layout.missing = settled.missing := by
  obtain ⟨settled, rounds, found⟩ := except_bind_ok found
  obtain ⟨large, metadata, found⟩ := except_bind_ok found
  obtain ⟨_, checked, found⟩ := except_bind_ok found
  obtain ⟨chunks, packed, found⟩ := except_bind_ok found
  obtain ⟨⟨droppedSources, droppedFacts, screened⟩, ends⟩ := screened_start.settles rounds
  have small : large = false := by simpa using raiseIf_ok.1 checked
  rw [small] at metadata
  have same := Except.ok.inj found
  subst same
  exact ⟨settled, droppedSources, droppedFacts, ⟨screened, ends⟩,
    packItems_spec ends metadata packed, rfl⟩

/-- Without a layout the metadata exceeds the budget or a payload cannot be rendered. -/
theorem surfaceContextLayout_error {error : ContextError}
    (raised : surfaceContextLayout redactor index surface prepared budget = .error error) :
    RenderFails redactor index surface prepared error ∨
      (error = .overflow surface.surfaceId ∧ ∃ settled droppedSources droppedFacts,
        Leaves redactor index surface prepared budget settled droppedSources droppedFacts ∧
        exceeds budget (windowPayload redactor index surface prepared ⟨[], []⟩ settled.missing) =
          .ok true) := by
  have renders : ∀ shown missing, RaisesWithin (RenderFails redactor index surface prepared)
      (exceeds budget (windowPayload redactor index surface prepared shown missing)) :=
    raisesWithin_windowPayload
  rcases except_bind_error raised with early | ⟨settled, rounds, raised⟩
  · exact .inl (raisesWithin_settle renders _ error early)
  rcases except_bind_error raised with early | ⟨large, metadata, raised⟩
  · exact .inl (renders _ _ error early)
  rcases except_bind_error raised with early | ⟨_, _, raised⟩
  · right
    obtain ⟨⟨droppedSources, droppedFacts, screened⟩, ends⟩ := screened_start.settles rounds
    unfold raiseIf at early
    split at early
    · rename_i exceeded
      cases early
      exact ⟨rfl, settled, droppedSources, droppedFacts, ⟨screened, ends⟩, exceeded ▸ metadata⟩
    · cases early
  rcases except_bind_error raised with early | ⟨chunks, _, raised⟩
  · exact .inl (raisesWithin_packItems renders settled error early)
  · cases raised

/-- Every source line of the window and every nearby fact is in exactly one part, in order, or in
the lists that every part carries; every part fits with the largest indices; and the surface
overflows only when its metadata does. -/
theorem surfaceContextParts_accounted :
    PartsOutcome redactor index surface prepared budget
      (surfaceContextParts redactor index surface prepared budget) := by
  cases found : surfaceContextParts redactor index surface prepared budget with
  | ok parts =>
      obtain ⟨layout, laid, rendered⟩ := except_bind_ok found
      obtain ⟨settled, droppedSources, droppedFacts, leaves, packs, listed⟩ :=
        surfaceContextLayout_ok laid
      exact .parts leaves packs listed rendered
  | error error =>
      rcases except_bind_error found with early | ⟨layout, _, raised⟩
      · rcases surfaceContextLayout_error early with failed | ⟨rfl, settled, _, _, leaves, large⟩
        · exact .fails failed failed.other
        · exact .overflow leaves large
      · have failed : RenderFails redactor index surface prepared error :=
          RaisesWithin.mapM (fun entry _ => raisesWithin_surfacePayload entry.1 _ _) error raised
        exact .fails failed failed.other

end Outcome

end Sastsimi.Surfaces
