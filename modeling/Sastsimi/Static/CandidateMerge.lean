import Sastsimi.Static.Candidates

/-!
# Complete merged candidates

The evidence of a hit determines its rule.  The full merge lists every evidence of the verified
hits once, with the engines that verified it, and rules that have hits left take turns.
-/

namespace Sastsimi.Static

open Lib Json

/-! ## Statements -/

/-- The slice verified the file and rule that the hit names. -/
def ScanSlice.verified (slice : ScanSlice) (item : Json) : Bool :=
  match ruleOf item, (item.get? "path").bind str? with
  | some ruleId, some path => decide ((path, ruleId) ∈ slice.verifiedPairs)
  | _, _ => false

/-- The verified hits of the slices, each with the engine that verified it. -/
def occurrences (slices : List ScanSlice) : List (Engine × Json) :=
  slices.flatMap fun slice => (slice.normalizedResults.filter slice.verified).map (slice.engine, ·)

/-- The evidence of a hit, by which hits are distinct. -/
def evidenceKey (item : Json) : String := String.ofList (evidenceText item)

/-- Every hit of the slices passes the checks. -/
def Readable (plan : RuleBatchPlan) (slices : List ScanSlice) : Prop :=
  ∀ slice ∈ slices, ∀ item ∈ slice.normalizedResults, ∃ hit, readHit plan.ruleIds item = .ok hit

/-- Every distinct verified hit once, with the engines that verified it, and the rules in turns. -/
structure MergesAll (slices : List ScanSlice) (merged : MergedCandidates) : Prop where
  distinct : (merged.results.map fun result => evidenceKey result.item).Nodup
  complete : ∀ key, key ∈ merged.results.map (fun result => evidenceKey result.item) ↔
    ∃ found ∈ occurrences slices, evidenceKey found.2 = key
  engines : ∀ result ∈ merged.results, result.engines.Nodup ∧ ∀ engine,
    engine ∈ result.engines ↔
      ∃ found ∈ occurrences slices, found.1 = engine ∧ evidenceKey found.2 = evidenceKey result.item
  rules : ∀ result ∈ merged.results, ∀ found ∈ occurrences slices,
    evidenceKey found.2 = evidenceKey result.item → ruleOf result.item = ruleOf found.2
  fair : Fair (fun result => ruleOf result.item) merged.results

/-! ## Evidence -/

section Evidence

variable {item other : Json} {key name : String} {fields members : List (String × Json)}

/-- A hit as a decoder returns it. -/
structure IsTree (item : Json) : Prop where
  numbered : item.numbered = true
  unique : item.uniqueKeys = true

/-- The fields that count as evidence, in their sorted forms. -/
def evidenceFields (fields : List (String × Json)) : List (String × Json) :=
  (fields.filter fun field => field.1 != "scan_incomplete").map fun field => (field.1, field.2.sorted)

theorem lookup_filter (differs : name ≠ key) :
    (fields.filter fun field => field.1 != key).lookup name = fields.lookup name := by
  induction fields with
  | nil => rfl
  | cons field rest ih =>
      rw [List.filter_cons, List.lookup_cons]
      split
      · rw [List.lookup_cons, ih]
      · rename_i dropped
        have isKey : field.1 = key := by simpa using dropped
        have other : (name == field.1) = false := by simpa [isKey] using differs
        rw [ih, other]

theorem get?_without (differs : name ≠ key) : (without key item).get? name = item.get? name := by
  cases item with
  | obj fields => exact lookup_filter differs
  | _ => rfl

theorem numbered_without (numbered : item.numbered = true) :
    (without key item).numbered = true := by
  cases item with
  | obj fields =>
      rw [numbered_obj] at numbered
      exact numbered_obj.2 fun field member => numbered field (List.mem_of_mem_filter member)
  | _ => exact numbered

/-- The text of the evidence determines the evidence. -/
theorem evidence_of_key (tree : IsTree item) (tree' : IsTree other)
    (same : evidenceKey item = evidenceKey other) :
    (without "scan_incomplete" item).sorted = (without "scan_incomplete" other).sorted :=
  sorted_text_inj (numbered_without tree.numbered) (numbered_without tree'.numbered)
    (String.ofList_injective same)

theorem str?_sorted (value : Option Json) : (value.map sorted).bind str? = value.bind str? := by
  cases value with
  | none => rfl
  | some value =>
      cases value with
      | arr items => rw [Option.map_some, sorted_arr]; rfl
      | obj fields => rw [Option.map_some, sorted_obj]; rfl
      | _ => rfl

/-- Hits with the same evidence are of the same rule. -/
theorem ruleOf_of_key (tree : IsTree item) (tree' : IsTree other)
    (same : evidenceKey item = evidenceKey other) : ruleOf item = ruleOf other := by
  have rules := congrArg (Option.bind · str?)
    (field_of_sorted (evidence_of_key tree tree' same) "check_id")
  simp only [str?_sorted, get?_without (show "check_id" ≠ "scan_incomplete" by decide)] at rules
  exact rules

theorem sorted_without_obj :
    (without "scan_incomplete" (.obj fields)).sorted =
      .obj ((evidenceFields fields).insertionSort fun left right => left.1 ≤ right.1) := by
  rw [without, sorted_obj, evidenceFields]

/-- Assigning a field its value again keeps the evidence. -/
theorem evidenceFields_assign {value : Json} (old : Json) (distinct : (fields.map Prod.fst).Nodup)
    (known : key = "scan_incomplete" ∨ ((key, old) ∈ fields ∧ old.sorted = value.sorted)) :
    evidenceFields (assign key value fields) = evidenceFields fields := by
  rcases known with rfl | ⟨known, same⟩
  · clear distinct
    induction fields with
    | nil => rfl
    | cons field rest ih =>
        simp only [evidenceFields] at ih
        rw [assign]
        split
        · rename_i isKey
          simp [evidenceFields, isKey]
        · simp only [evidenceFields, List.filter_cons]
          split
          · rw [List.map_cons, List.map_cons, ih]
          · exact ih
  · induction fields with
    | nil => cases known
    | cons field rest ih =>
        rw [List.map_cons, List.nodup_cons] at distinct
        simp only [evidenceFields] at ih
        rw [assign]
        split
        · rename_i isKey
          rcases List.mem_cons.1 known with rfl | later
          · simp only [evidenceFields, List.filter_cons]
            split <;> simp [same]
          · exact absurd (isKey ▸ List.mem_map_of_mem (f := Prod.fst) later) distinct.1
        · rename_i isOther
          rcases List.mem_cons.1 known with rfl | later
          · exact absurd rfl isOther
          · simp only [evidenceFields, List.filter_cons]
            split
            · rw [List.map_cons, List.map_cons, ih distinct.2 later]
            · exact ih distinct.2 later

/-- Updating a hit with one of the same evidence keeps it a dictionary with that evidence. -/
theorem updated_fields (distinct : (fields.map Prod.fst).Nodup)
    (numbered : ∀ field ∈ fields, field.2.numbered = true)
    (unique : ∀ field ∈ fields, field.2.uniqueKeys = true)
    (known : ∀ member ∈ members, member.1 = "scan_incomplete" ∨
      (member.1, member.2.sorted) ∈ evidenceFields fields)
    (tree : ∀ member ∈ members, member.2.numbered = true ∧ member.2.uniqueKeys = true) :
    let result := members.foldl (fun fields field => assign field.1 field.2 fields) fields
    evidenceFields result = evidenceFields fields ∧ (result.map Prod.fst).Nodup ∧
      (∀ field ∈ result, field.2.numbered = true ∧ field.2.uniqueKeys = true) := by
  induction members generalizing fields with
  | nil => exact ⟨rfl, distinct, fun field member => ⟨numbered field member, unique field member⟩⟩
  | cons first rest ih =>
      obtain ⟨headKnown, known⟩ := List.forall_mem_cons.1 known
      obtain ⟨headTree, tree⟩ := List.forall_mem_cons.1 tree
      have kept : evidenceFields (assign first.1 first.2 fields) = evidenceFields fields := by
        rcases headKnown with isFlag | inside
        · exact evidenceFields_assign .null distinct (.inl isFlag)
        · obtain ⟨field, listed, same⟩ := List.mem_map.1 inside
          rw [Prod.mk.injEq] at same
          refine evidenceFields_assign field.2 distinct (.inr ⟨?_, same.2⟩)
          rw [← same.1]
          exact List.mem_of_mem_filter listed
      have treeAfter : ∀ field ∈ assign first.1 first.2 fields,
          field.2.numbered = true ∧ field.2.uniqueKeys = true := by
        intro field member
        rcases mem_assign member with rfl | old
        · exact headTree
        · exact ⟨numbered field old, unique field old⟩
      have rest := ih (keys_assign_nodup distinct) (fun field member => (treeAfter field member).1)
        (fun field member => (treeAfter field member).2) (kept.symm ▸ known) tree
      exact ⟨rest.1.trans kept, rest.2⟩

/-- Updating a hit with one of the same evidence keeps its evidence. -/
theorem updated_spec (tree : IsTree item) (tree' : IsTree other)
    (same : evidenceKey item = evidenceKey other) :
    IsTree (updated item other) ∧ evidenceKey (updated item other) = evidenceKey item := by
  have evidence := evidence_of_key tree tree' same
  cases item with
  | obj fields =>
      cases other with
      | obj members =>
          have inOrder (fields : List (String × Json)) :=
            List.perm_insertionSort (fun left right : String × Json => left.1 ≤ right.1) fields
          rw [sorted_without_obj, sorted_without_obj] at evidence
          have permuted : (evidenceFields members).Perm (evidenceFields fields) :=
            (inOrder _).symm.trans ((Json.obj.inj evidence) ▸ inOrder _)
          obtain ⟨distinct, unique⟩ := uniqueKeys_obj.1 tree.unique
          have known : ∀ member ∈ members, member.1 = "scan_incomplete" ∨
              (member.1, member.2.sorted) ∈ evidenceFields fields := by
            intro member inside
            by_cases isFlag : member.1 = "scan_incomplete"
            · exact .inl isFlag
            · refine .inr (permuted.subset (List.mem_map.2 ⟨member, ?_, rfl⟩))
              exact List.mem_filter.2 ⟨inside, by simpa using isFlag⟩
          obtain ⟨kept, distinctAfter, after⟩ := updated_fields distinct
            (numbered_obj.1 tree.numbered) unique known
            fun member inside => ⟨numbered_obj.1 tree'.numbered member inside,
              (uniqueKeys_obj.1 tree'.unique).2 member inside⟩
          refine ⟨⟨numbered_obj.2 fun field member => (after field member).1,
            uniqueKeys_obj.2 ⟨distinctAfter, fun field member => (after field member).2⟩⟩, ?_⟩
          rw [evidenceKey, evidenceKey, evidenceText, evidenceText, updated, sorted_without_obj,
            sorted_without_obj, kept]
      | _ => exact ⟨tree, rfl⟩
  | _ => exact ⟨tree, rfl⟩

end Evidence

/-! ## The loop -/

section Loop

variable {plan : RuleBatchPlan} {slice : ScanSlice} {item : Json} {hit : Hit} {key : String}
  {processed others : List (Engine × Json)} {state : MergeState} {engines : List Engine}
  {engine other : Engine}

theorem nodup_snoc {α : Type} {items : List α} {item : α} (distinct : items.Nodup)
    (fresh : item ∉ items) : (items ++ [item]).Nodup := by
  rw [List.nodup_append]
  refine ⟨distinct, by simp, ?_⟩
  intro left member right last same
  rw [List.mem_singleton] at last
  exact fresh ((same.trans last) ▸ member)

theorem mem_noteEngine : other ∈ noteEngine engines engine ↔ other ∈ engines ∨ other = engine := by
  unfold noteEngine
  split
  · rename_i known
    exact ⟨.inl, fun either => either.elim id fun same => same ▸ known⟩
  · rw [List.mem_append, List.mem_singleton]

theorem noteEngine_nodup (distinct : engines.Nodup) : (noteEngine engines engine).Nodup := by
  unfold noteEngine
  split
  · exact distinct
  · rename_i unknown
    exact nodup_snoc distinct unknown

/-- Entries of a dictionary under one key are one. -/
theorem eq_of_key {β : Type} {fields : List (String × β)} (distinct : (fields.map Prod.fst).Nodup)
    {left right : String × β} (member : left ∈ fields) (member' : right ∈ fields)
    (same : left.1 = right.1) : left = right :=
  List.inj_on_of_nodup_map distinct member member' same

/-- The merged candidates are those of the hits processed so far. -/
structure Merged (plan : RuleBatchPlan) (processed : List (Engine × Json)) (state : MergeState) :
    Prop where
  keys : (state.seen.map Prod.fst).Nodup
  covers : ∀ key, key ∈ state.seen.map Prod.fst ↔ ∃ found ∈ processed, evidenceKey found.2 = key
  items : ∀ entry ∈ state.seen, IsTree entry.2.item ∧ evidenceKey entry.2.item = entry.1
  engines : ∀ entry ∈ state.seen, entry.2.engines.Nodup ∧ ∀ engine, engine ∈ entry.2.engines ↔
    ∃ found ∈ processed, found.1 = engine ∧ evidenceKey found.2 = entry.1
  queued : ∀ ruleId, (state.buckets ruleId).Nodup ∧ ∀ key, key ∈ state.buckets ruleId ↔
    ∃ entry ∈ state.seen, entry.1 = key ∧ ruleOf entry.2.item = some ruleId
  known : ∀ entry ∈ state.seen, ∃ ruleId ∈ plan.ruleIds, ruleOf entry.2.item = some ruleId

theorem Merged.congr (merged : Merged plan processed state) (others : List (Engine × Json))
    (same : ∀ found, found ∈ processed ↔ found ∈ others) : Merged plan others state := by
  refine ⟨merged.keys, ?_, merged.items, ?_, merged.queued, merged.known⟩
  · simpa only [same] using merged.covers
  · simpa only [same] using merged.engines

/-- A hit with new evidence. -/
theorem Merged.insert (merged : Merged plan processed state) (tree : IsTree item) {ruleId : String}
    (isRule : ruleOf item = some ruleId) (listed : ruleId ∈ plan.ruleIds) (engine : Engine)
    (fresh : evidenceKey item ∉ state.seen.map Prod.fst) :
    Merged plan (processed ++ [(engine, item)])
      { seen := state.seen ++ [(evidenceKey item, ⟨item, engine, [engine]⟩)]
        buckets := Function.update state.buckets ruleId
          (state.buckets ruleId ++ [evidenceKey item]) } := by
  have unseen : ∀ found ∈ processed, evidenceKey found.2 ≠ evidenceKey item :=
    fun found member same => fresh ((merged.covers _).2 ⟨found, member, same⟩)
  have different : ∀ entry ∈ state.seen, entry.1 ≠ evidenceKey item :=
    fun entry member same => fresh (same ▸ List.mem_map_of_mem member)
  constructor
  · rw [List.map_append]
    exact nodup_snoc merged.keys fresh
  · intro key
    rw [List.map_append, List.mem_append, merged.covers]
    simp [or_and_right, exists_or, eq_comm]
  · intro entry member
    rcases List.mem_append.1 member with old | new
    · exact merged.items entry old
    · rw [List.mem_singleton] at new
      subst new
      exact ⟨tree, rfl⟩
  · intro entry member
    rcases List.mem_append.1 member with old | new
    · obtain ⟨distinct, marks⟩ := merged.engines entry old
      refine ⟨distinct, fun other => (marks other).trans ?_⟩
      simp only [List.mem_append, List.mem_singleton, or_and_right, exists_or, exists_eq_left]
      exact (or_iff_left fun both => different entry old both.2.symm).symm
    · rw [List.mem_singleton] at new
      subst new
      refine ⟨by simp, fun other => ?_⟩
      simp only [List.mem_append, List.mem_singleton, or_and_right, exists_or, exists_eq_left]
      constructor
      · exact fun same => .inr ⟨same.symm, trivial⟩
      · rintro (⟨found, member, -, same⟩ | ⟨same, -⟩)
        · exact absurd same (unseen found member)
        · exact same.symm
  · intro queue
    by_cases same : queue = ruleId
    · subst same
      obtain ⟨distinct, members⟩ := merged.queued queue
      have absent : evidenceKey item ∉ state.buckets queue := by
        intro member
        obtain ⟨entry, inside, isKey, -⟩ := (members _).1 member
        exact different entry inside isKey
      simp only [Function.update_self]
      constructor
      · exact nodup_snoc distinct absent
      · intro key
        rw [List.mem_append, members]
        simp [or_and_right, exists_or, isRule, eq_comm]
    · obtain ⟨distinct, members⟩ := merged.queued queue
      simp only [Function.update_of_ne same]
      refine ⟨distinct, fun key => (members key).trans ?_⟩
      simp [or_and_right, exists_or, isRule, Ne.symm same]
  · intro entry member
    rcases List.mem_append.1 member with old | new
    · exact merged.known entry old
    · rw [List.mem_singleton] at new
      subst new
      exact ⟨ruleId, listed, isRule⟩

/-- What a candidate keeps and gains of a hit with its evidence. -/
theorem absorb_spec {previous : MergedCandidate} (tree : IsTree previous.item)
    (tree' : IsTree item) (same : evidenceKey previous.item = evidenceKey item) (engine : Engine) :
    IsTree (previous.absorb ⟨item, engine, [engine]⟩).item ∧
      evidenceKey (previous.absorb ⟨item, engine, [engine]⟩).item = evidenceKey item ∧
      (previous.absorb ⟨item, engine, [engine]⟩).engines = noteEngine previous.engines engine := by
  rw [MergedCandidate.absorb]
  split
  · obtain ⟨treeAfter, kept⟩ := updated_spec tree tree' same
    exact ⟨treeAfter, kept.trans same, rfl⟩
  · exact ⟨tree, same, rfl⟩

/-- A hit with the evidence of a candidate. -/
theorem Merged.absorb (merged : Merged plan processed state) (tree : IsTree item) (engine : Engine)
    {previous : MergedCandidate} (found : (evidenceKey item, previous) ∈ state.seen) :
    Merged plan (processed ++ [(engine, item)])
      { state with
        seen := assign (evidenceKey item) (previous.absorb ⟨item, engine, [engine]⟩) state.seen } := by
  have isKey : evidenceKey item ∈ state.seen.map Prod.fst := List.mem_map_of_mem found
  obtain ⟨treeBefore, sameKey⟩ := merged.items _ found
  obtain ⟨treeAfter, keyAfter, enginesAfter⟩ := absorb_spec treeBefore tree sameKey engine
  have isRule := ruleOf_of_key treeAfter treeBefore (keyAfter.trans sameKey.symm)
  generalize previous.absorb ⟨item, engine, [engine]⟩ = next at treeAfter keyAfter enginesAfter isRule
  have entries {entry : String × MergedCandidate} :
      entry ∈ assign (evidenceKey item) next state.seen ↔
        entry = (evidenceKey item, next) ∨ (entry ∈ state.seen ∧ entry.1 ≠ evidenceKey item) :=
    mem_assign_iff merged.keys isKey
  constructor
  · rw [keys_assign isKey]
    exact merged.keys
  · intro key
    rw [keys_assign isKey, merged.covers]
    simp only [List.mem_append, List.mem_singleton, or_and_right, exists_or, exists_eq_left]
    refine (or_iff_left_of_imp ?_).symm
    rintro rfl
    exact (merged.covers _).1 isKey
  · intro entry member
    rcases entries.1 member with rfl | ⟨old, -⟩
    · exact ⟨treeAfter, keyAfter⟩
    · exact merged.items entry old
  · intro entry member
    simp only [List.mem_append, List.mem_singleton, or_and_right, exists_or, exists_eq_left]
    rcases entries.1 member with rfl | ⟨old, different⟩
    · obtain ⟨distinct, marks⟩ := merged.engines _ found
      rw [enginesAfter]
      refine ⟨noteEngine_nodup distinct, fun other => ?_⟩
      rw [mem_noteEngine, marks]
      simp [eq_comm]
    · obtain ⟨distinct, marks⟩ := merged.engines entry old
      refine ⟨distinct, fun other => (marks other).trans ?_⟩
      exact (or_iff_left fun both => different both.2.symm).symm
  · intro queue
    obtain ⟨distinct, members⟩ := merged.queued queue
    refine ⟨distinct, fun key => (members key).trans ?_⟩
    constructor
    · rintro ⟨entry, old, sameEntry, rule⟩
      by_cases same : entry.1 = evidenceKey item
      · have isPrevious := eq_of_key merged.keys old found same
        subst isPrevious
        exact ⟨_, entries.2 (.inl rfl), sameEntry, isRule.trans rule⟩
      · exact ⟨entry, entries.2 (.inr ⟨old, same⟩), sameEntry, rule⟩
    · rintro ⟨entry, member, sameEntry, rule⟩
      rcases entries.1 member with rfl | ⟨old, -⟩
      · exact ⟨_, found, sameEntry, isRule.symm.trans rule⟩
      · exact ⟨entry, old, sameEntry, rule⟩
  · intro entry member
    rcases entries.1 member with rfl | ⟨old, -⟩
    · obtain ⟨ruleId, listed, rule⟩ := merged.known _ found
      exact ⟨ruleId, listed, isRule.trans rule⟩
    · exact merged.known entry old

theorem ScanSlice.tree (slice : ScanSlice) :
    ∀ item ∈ slice.normalizedResults, IsTree item :=
  fun item member => ⟨slice.numbered item member, slice.unique item member⟩

end Loop

end Sastsimi.Static
