import Sastsimi.Static.CandidateMerge

/-!
# A fair preview of the merged candidates

A pass over the verified hits selects a hit unless it is full, and a hit that was left out stays
out for the rest of the pass; so the selected candidates have the engines of the full merge, and
the flag is set exactly when a distinct hit is missing.  The first pass gives every rule its share.
-/

namespace Sastsimi.Static

open Lib Json

/-! ## Statements -/

/-- The texts that the digests are of. -/
def evidences (slices : List ScanSlice) : Set (List Char) :=
  {text | ∃ found ∈ occurrences slices, evidenceText found.2 = text}

/-- The rules that the preview shows. -/
def CandidatePreview.shownRules (preview : CandidatePreview) : Finset String :=
  (preview.results.map (·.checkId)).toFinset

section Pass

variable {scope : PreviewScope} {cap : Option Nat} {all done : List (ScanSlice × Hit)}
  {state : PreviewState} {found : ScanSlice × Hit}

/-- A selection after some hits of a pass. -/
structure Collected (scope : PreviewScope) (cap : Option Nat) (all done : List (ScanSlice × Hit))
    (state : PreviewState) : Prop where
  keys : (state.selected.map Prod.fst).Nodup
  bound : state.selected.length ≤ scope.limit
  items : ∀ entry ∈ state.selected, entry.2.candidateDigest = entry.1 ∧
    ∃ found ∈ all, scope.digest found.2 = entry.1 ∧ found.2.ruleId = entry.2.checkId ∧
      found.2.ruleId ∈ scope.visible
  sound : ∀ entry ∈ state.selected, ∀ engine ∈ entry.2.engines,
    ∃ found ∈ all, found.1.engine = engine ∧ scope.digest found.2 = entry.1
  noted : ∀ entry ∈ state.selected, ∀ found ∈ done, scope.digest found.2 = entry.1 →
    found.1.engine ∈ entry.2.engines
  queued : ∀ ruleId, (state.buckets ruleId).Nodup ∧ ∀ digest, digest ∈ state.buckets ruleId ↔
    ∃ entry ∈ state.selected, entry.1 = digest ∧ entry.2.checkId = ruleId
  blocked : ∀ found ∈ done, scope.digest found.2 ∉ state.selected.map Prod.fst →
    found.2.ruleId ∉ scope.visible ∨ scope.limit ≤ state.selected.length ∨
      cap.any (· ≤ (state.buckets found.2.ruleId).length) = true
  omitted : state.omitted = true ↔
    ∃ found ∈ done, scope.digest found.2 ∉ state.selected.map Prod.fst
  capped : ∀ most ∈ cap, ∀ ruleId, (state.buckets ruleId).length ≤ most

/-- Hits with one digest are of one rule. -/
def SameRules (scope : PreviewScope) (all : List (ScanSlice × Hit)) : Prop :=
  ∀ left ∈ all, ∀ right ∈ all, scope.digest left.2 = scope.digest right.2 →
    left.2.ruleId = right.2.ruleId

/-- A hit that is left out. -/
theorem Collected.omit (collected : Collected scope cap all done state)
    (missing : scope.digest found.2 ∉ state.selected.map Prod.fst)
    (isBlocked : found.2.ruleId ∉ scope.visible ∨ scope.limit ≤ state.selected.length ∨
      cap.any (· ≤ (state.buckets found.2.ruleId).length) = true) :
    Collected scope cap all (done ++ [found]) { state with omitted := true } := by
  refine { collected with noted := ?_, blocked := ?_, omitted := ?_ }
  · intro entry member other inDone same
    rcases List.mem_append.1 inDone with earlier | last
    · exact collected.noted entry member other earlier same
    · rw [List.mem_singleton] at last
      subst last
      exact absurd (same ▸ List.mem_map_of_mem member) missing
  · intro other inDone absent
    rcases List.mem_append.1 inDone with earlier | last
    · exact collected.blocked other earlier absent
    · rw [List.mem_singleton] at last
      exact last ▸ isBlocked
  · exact ⟨fun _ => ⟨found, List.mem_append_right _ List.mem_cons_self, missing⟩, fun _ => rfl⟩

theorem note_spec (previous : PreviewCandidate) (slice : ScanSlice) (hit : Hit) :
    (previous.note slice hit).checkId = previous.checkId ∧
      (previous.note slice hit).candidateDigest = previous.candidateDigest ∧
      (previous.note slice hit).engines = noteEngine previous.engines slice.engine := by
  rw [PreviewCandidate.note]
  split <;> exact ⟨rfl, rfl, rfl⟩

/-- A hit whose evidence is selected. -/
theorem Collected.note (collected : Collected scope cap all done state) (inAll : found ∈ all)
    {previous : PreviewCandidate}
    (selected : (scope.digest found.2, previous) ∈ state.selected) :
    Collected scope cap all (done ++ [found])
      { state with
        selected := assign (scope.digest found.2) (previous.note found.1 found.2)
          state.selected } := by
  have isKey : scope.digest found.2 ∈ state.selected.map Prod.fst := List.mem_map_of_mem selected
  obtain ⟨sameRule, sameDigest, noted⟩ := note_spec previous found.1 found.2
  generalize previous.note found.1 found.2 = next at sameRule sameDigest noted ⊢
  have entries {entry : String × PreviewCandidate} :
      entry ∈ assign (scope.digest found.2) next state.selected ↔ entry = (scope.digest found.2, next) ∨
        (entry ∈ state.selected ∧ entry.1 ≠ scope.digest found.2) :=
    mem_assign_iff collected.keys isKey
  have sameKeys : (assign (scope.digest found.2) next state.selected).map Prod.fst =
      state.selected.map Prod.fst := keys_assign isKey
  have sameLength : (assign (scope.digest found.2) next state.selected).length =
      state.selected.length := by
    rw [← List.length_map Prod.fst, sameKeys, List.length_map]
  constructor
  · exact sameKeys ▸ collected.keys
  · exact sameLength ▸ collected.bound
  · intro entry member
    rcases entries.1 member with rfl | ⟨old, -⟩
    · obtain ⟨isDigest, witness⟩ := collected.items _ selected
      exact ⟨sameDigest.trans isDigest, by rw [sameRule]; exact witness⟩
    · exact collected.items entry old
  · intro entry member engine inside
    rcases entries.1 member with rfl | ⟨old, -⟩
    · rw [noted, mem_noteEngine] at inside
      rcases inside with earlier | rfl
      · exact collected.sound _ selected engine earlier
      · exact ⟨found, inAll, rfl, rfl⟩
    · exact collected.sound entry old engine inside
  · intro entry member other inDone same
    rcases entries.1 member with rfl | ⟨old, different⟩
    · rw [noted, mem_noteEngine]
      rcases List.mem_append.1 inDone with earlier | last
      · exact .inl (collected.noted _ selected other earlier same)
      · rw [List.mem_singleton] at last
        exact .inr (last ▸ rfl)
    · rcases List.mem_append.1 inDone with earlier | last
      · exact collected.noted entry old other earlier same
      · rw [List.mem_singleton] at last
        exact absurd (last ▸ same.symm) different
  · intro ruleId
    obtain ⟨distinct, members⟩ := collected.queued ruleId
    refine ⟨distinct, fun digest => (members digest).trans ?_⟩
    constructor
    · rintro ⟨entry, old, isDigest, rule⟩
      by_cases same : entry.1 = scope.digest found.2
      · have isPrevious := eq_of_key collected.keys old selected same
        subst isPrevious
        exact ⟨_, entries.2 (.inl rfl), isDigest, sameRule.trans rule⟩
      · exact ⟨entry, entries.2 (.inr ⟨old, same⟩), isDigest, rule⟩
    · rintro ⟨entry, member, isDigest, rule⟩
      rcases entries.1 member with rfl | ⟨old, -⟩
      · exact ⟨_, selected, isDigest, sameRule.symm.trans rule⟩
      · exact ⟨entry, old, isDigest, rule⟩
  · intro other inDone absent
    rw [sameKeys] at absent
    rw [sameLength]
    rcases List.mem_append.1 inDone with earlier | last
    · exact collected.blocked other earlier absent
    · rw [List.mem_singleton] at last
      exact absurd (last ▸ isKey) absent
  · rw [sameKeys, collected.omitted]
    simp only [List.mem_append, List.mem_singleton, or_and_right, exists_or, exists_eq_left]
    exact (or_iff_left fun absent => absent isKey).symm
  · exact collected.capped

end Pass

/-! ## Both passes -/

section Passes

variable {scope : PreviewScope} {cap : Option Nat} {all done : List (ScanSlice × Hit)}
  {state : PreviewState}

/-- The selection of one pass as the start of an uncapped one. -/
theorem Collected.again (collected : Collected scope cap all done state) :
    Collected scope none all [] { state with omitted := false } := by
  refine { collected with noted := ?_, blocked := ?_, omitted := ?_, capped := ?_ } <;> simp

/-- The buckets of the visible rules hold every selected candidate once. -/
theorem Collected.buckets (collected : Collected scope cap all done state)
    (distinct : scope.visible.Nodup) :
    (scope.visible.flatMap state.buckets).Perm (state.selected.map Prod.fst) := by
  have separate : (scope.visible.flatMap state.buckets).Nodup := by
    rw [List.nodup_flatMap]
    refine ⟨fun ruleId _ => (collected.queued ruleId).1, distinct.imp ?_⟩
    intro first second different digest inFirst inSecond
    obtain ⟨entry, member, isKey, rule⟩ := ((collected.queued first).2 digest).1 inFirst
    obtain ⟨entry', member', isKey', rule'⟩ := ((collected.queued second).2 digest).1 inSecond
    have same := eq_of_key collected.keys member member' (isKey.trans isKey'.symm)
    subst same
    exact different (rule.symm.trans rule')
  rw [List.perm_ext_iff_of_nodup separate collected.keys]
  intro digest
  rw [List.mem_flatMap, List.mem_map]
  constructor
  · rintro ⟨ruleId, -, member⟩
    obtain ⟨entry, inside, isKey, -⟩ := ((collected.queued ruleId).2 digest).1 member
    exact ⟨entry, inside, isKey⟩
  · rintro ⟨entry, member, rfl⟩
    obtain ⟨-, found, -, -, rule, visible⟩ := collected.items entry member
    exact ⟨entry.2.checkId, rule ▸ visible,
      ((collected.queued _).2 _).2 ⟨entry, member, rfl, rfl⟩⟩

/-- The digests of the hits of a rule. -/
def ruleDigests (scope : PreviewScope) (all : List (ScanSlice × Hit)) (ruleId : String) :
    Finset String :=
  ((all.filter fun found => decide (found.2.ruleId = ruleId)).map
    fun found => scope.digest found.2).toFinset

/-- Lists within a bound, one of them strictly, are shorter together. -/
theorem length_flatMap_lt (rules : List String) (buckets : String → List String) {most : Nat}
    (within : ∀ rule ∈ rules, (buckets rule).length ≤ most) :
    (rules.flatMap buckets).length ≤ rules.length * most ∧
      ∀ rule ∈ rules, (buckets rule).length < most →
        (rules.flatMap buckets).length < rules.length * most := by
  induction rules with
  | nil => simp
  | cons first rest ih =>
      obtain ⟨headWithin, within⟩ := List.forall_mem_cons.1 within
      obtain ⟨restWithin, restLess⟩ := ih within
      rw [List.flatMap_cons, List.length_append, List.length_cons, Nat.succ_mul]
      refine ⟨by omega, ?_⟩
      intro rule member less
      rcases List.mem_cons.1 member with rfl | later
      · omega
      · have := restLess rule later less
        omega

/-- The first pass gives every visible rule its share. -/
theorem Collected.share {most : Nat} (collected : Collected scope (some most) all all state)
    (distinct : scope.visible.Nodup) (sameRules : SameRules scope all)
    (within : scope.visible.length * most ≤ scope.limit) {ruleId : String}
    (visible : ruleId ∈ scope.visible) :
    min (ruleDigests scope all ruleId).card most ≤ (state.buckets ruleId).length := by
  by_contra short
  rw [Nat.not_le, Nat.lt_min] at short
  -- some hit of the rule is missing, although the bucket has room: the selection is full
  have missing : ∃ digest ∈ ruleDigests scope all ruleId, digest ∉ state.buckets ruleId := by
    by_contra complete
    push Not at complete
    have inside : ruleDigests scope all ruleId ⊆ (state.buckets ruleId).toFinset :=
      fun digest member => List.mem_toFinset.2 (complete digest member)
    have fewer := (Finset.card_le_card inside).trans (List.toFinset_card_le _)
    omega
  obtain ⟨digest, ofRule, notQueued⟩ := missing
  obtain ⟨found, listed, rfl⟩ := List.mem_map.1 (List.mem_toFinset.1 ofRule)
  obtain ⟨inAll, isRule⟩ := List.mem_filter.1 listed
  have isRule := of_decide_eq_true isRule
  have absent : scope.digest found.2 ∉ state.selected.map Prod.fst := by
    intro isKey
    obtain ⟨entry, member, same⟩ := List.mem_map.1 isKey
    obtain ⟨-, other, inAll', isDigest, rule, -⟩ := collected.items entry member
    apply notQueued
    refine ((collected.queued ruleId).2 _).2 ⟨entry, member, same, ?_⟩
    rw [← rule, sameRules other inAll' found inAll (isDigest.trans same), isRule]
  have full : scope.limit ≤ state.selected.length := by
    rcases collected.blocked found inAll absent with hidden | full | capped
    · exact absurd (isRule ▸ visible) hidden
    · exact full
    · simp only [Option.any_some, decide_eq_true_eq, isRule] at capped
      exact absurd capped (Nat.not_le.2 short.2)
  have total := (collected.buckets distinct).length_eq
  rw [List.length_map] at total
  have less := (length_flatMap_lt scope.visible state.buckets
    fun rule _ => collected.capped most rfl rule).2 ruleId visible short.2
  omega

end Passes

/-! ## The preview -/

section Preview

variable {plan : RuleBatchPlan} {slices : List ScanSlice} {slice : ScanSlice}

/-- The verified hits of the slices, as the preview reads them. -/
structure AreVerified (slices : List ScanSlice) (hits : List (ScanSlice × Hit)) : Prop where
  occur : hits.map (fun found => (found.1.engine, found.2.item)) = occurrences slices
  trees : ∀ found ∈ hits, IsTree found.2.item
  rules : ∀ found ∈ hits, ruleOf found.2.item = some found.2.ruleId

variable {sha256 : List Char → String} {scope : PreviewScope} {cap : Option Nat}
  {hits : List (ScanSlice × Hit)} {state : PreviewState} {preview : CandidatePreview}

theorem AreVerified.mem (verified : AreVerified slices hits) (engine : Engine) (item : Json) :
    (engine, item) ∈ occurrences slices ↔
      ∃ found ∈ hits, found.1.engine = engine ∧ found.2.item = item := by
  rw [← verified.occur, List.mem_map]
  simp only [Prod.mk.injEq]

theorem AreVerified.evidence (verified : AreVerified slices hits) {found : ScanSlice × Hit}
    (member : found ∈ hits) : evidenceText found.2.item ∈ evidences slices :=
  ⟨_, (verified.mem found.1.engine found.2.item).2 ⟨found, member, rfl, rfl⟩, rfl⟩

/-- Hits with one digest are of one rule when the hash tells the evidence apart. -/
theorem AreVerified.sameRules (verified : AreVerified slices hits)
    (injective : Set.InjOn scope.sha256 (evidences slices)) : SameRules scope hits := by
  intro left inLeft right inRight same
  have sameText := injective (verified.evidence inLeft) (verified.evidence inRight) same
  have sameRule := ruleOf_of_key (verified.trees left inLeft) (verified.trees right inRight)
    (congrArg String.ofList sameText)
  rw [verified.rules left inLeft, verified.rules right inRight] at sameRule
  exact Option.some.inj sameRule

/-- A preview lists what was selected. -/
structure Shows (state : PreviewState) (preview : CandidatePreview) : Prop where
  results : preview.results.Perm (state.selected.map Prod.snd)
  omitted : preview.candidateSnippetsTruncated = state.omitted

theorem Shows.entry (shows : Shows state preview) (collected : Collected scope cap hits hits state)
    {result : PreviewCandidate} (member : result ∈ preview.results) :
    (result.candidateDigest, result) ∈ state.selected := by
  obtain ⟨entry, inside, rfl⟩ := List.mem_map.1 (shows.results.subset member)
  rw [(collected.items entry inside).1]
  exact inside

theorem Shows.digests (shows : Shows state preview)
    (collected : Collected scope cap hits hits state) :
    (preview.results.map (·.candidateDigest)).Perm (state.selected.map Prod.fst) := by
  have same : (state.selected.map Prod.snd).map (·.candidateDigest) =
      state.selected.map Prod.fst := by
    rw [List.map_map]
    exact List.map_congr_left fun entry inside => (collected.items entry inside).1
  exact same ▸ shows.results.map _

/-- A result is a hit of the full merge with its engines. -/
theorem Shows.hit (shows : Shows state preview) (collected : Collected scope cap hits hits state)
    (verified : AreVerified slices hits) (injective : Set.InjOn scope.sha256 (evidences slices))
    {merged : MergedCandidates} (mergesAll : MergesAll slices merged) {result : PreviewCandidate}
    (member : result ∈ preview.results) :
    ∃ full ∈ merged.results, scope.sha256 (evidenceText full.item) = result.candidateDigest ∧
      ruleOf full.item = some result.checkId ∧
      ∀ engine, engine ∈ result.engines ↔ engine ∈ full.engines := by
  have entry := shows.entry collected member
  obtain ⟨-, hit, inHits, digestOfHit, ruleOfHit, -⟩ := collected.items _ entry
  have occurs := (verified.mem hit.1.engine hit.2.item).2 ⟨hit, inHits, rfl, rfl⟩
  obtain ⟨full, listed, sameKey⟩ := List.mem_map.1 ((mergesAll.complete _).2 ⟨_, occurs, rfl⟩)
  have sameText : evidenceText full.item = evidenceText hit.2.item :=
    String.ofList_injective sameKey
  have digestOfFull : scope.sha256 (evidenceText full.item) = result.candidateDigest :=
    (congrArg scope.sha256 sameText).trans digestOfHit
  refine ⟨full, listed, digestOfFull, ?_, fun engine => ?_⟩
  · rw [mergesAll.rules full listed _ occurs sameKey.symm, verified.rules hit inHits, ruleOfHit]
  · rw [(mergesAll.engines full listed).2 engine]
    constructor
    · intro noted
      obtain ⟨other, inHits', sameEngine, sameDigest⟩ := collected.sound _ entry engine noted
      refine ⟨_, (verified.mem engine other.2.item).2 ⟨other, inHits', sameEngine, rfl⟩, rfl, ?_⟩
      have sameEvidence := injective (verified.evidence inHits') (verified.evidence inHits)
        (sameDigest.trans digestOfHit.symm)
      exact congrArg String.ofList (sameEvidence.trans sameText.symm)
    · rintro ⟨⟨engine', item⟩, occurs', rfl, sameKey'⟩
      obtain ⟨other, inHits', rfl, rfl⟩ := (verified.mem _ _).1 occurs'
      refine collected.noted _ entry other inHits' ?_
      rw [← digestOfFull]
      exact congrArg scope.sha256 (String.ofList_injective sameKey')

/-- The bucket of a rule is no longer than its results. -/
theorem Shows.bucket_le (shows : Shows state preview)
    (collected : Collected scope cap hits hits state) (ruleId : String) :
    (state.buckets ruleId).length ≤ preview.results.countP (·.checkId = ruleId) := by
  rw [shows.results.countP_eq, List.countP_map, List.countP_eq_length_filter,
    ← List.length_map Prod.fst]
  refine (List.subperm_of_subset (collected.queued ruleId).1 fun digest member => ?_).length_le
  obtain ⟨entry, inside, rfl, rule⟩ := ((collected.queued ruleId).2 digest).1 member
  exact List.mem_map_of_mem (List.mem_filter.2 ⟨inside, decide_eq_true rule⟩)

/-- The rules of the results are the visible rules. -/
theorem Shows.rules (shows : Shows state preview) (collected : Collected scope cap hits hits state)
    (served : ∀ ruleId ∈ scope.visible, 0 < (state.buckets ruleId).length) :
    preview.shownRules = scope.visible.toFinset := by
  ext ruleId
  rw [CandidatePreview.shownRules, List.mem_toFinset, List.mem_toFinset]
  constructor
  · intro member
    obtain ⟨result, listed, rfl⟩ := List.mem_map.1 member
    obtain ⟨-, hit, -, -, rule, visible⟩ := collected.items _ (shows.entry collected listed)
    exact rule ▸ visible
  · intro visible
    have shown := (served ruleId visible).trans_le (shows.bucket_le collected ruleId)
    obtain ⟨result, listed, rule⟩ := List.countP_pos_iff.1 shown
    exact List.mem_map.2 ⟨result, listed, of_decide_eq_true rule⟩

end Preview

namespace Concrete

end Concrete

end Sastsimi.Static
