import Mathlib.Data.List.Nodup
import Mathlib.Data.List.Perm.Basic

/-!
# Grouping by a key

A dictionary of lists that is filled by `setdefault(key, []).extend(items)`.  When every list is
filed under the key of its items, the buckets are the classes of the items, whatever the order in
which the lists came.
-/

namespace Sastsimi.Lib

/-- A key and the items that are filed under it; there is at least one. -/
structure Bucket (κ α : Type) where
  key : κ
  items : List α
  filled : items ≠ []

namespace Bucket

variable {κ α β : Type} [DecidableEq κ]

/-- The item that was filed first. -/
def first (bucket : Bucket κ α) : α := bucket.items.head bucket.filled

/-- `buckets.setdefault(key, []).extend(items)`. -/
def extend (key : κ) (items : List α) (filled : items ≠ []) :
    List (Bucket κ α) → List (Bucket κ α)
  | [] => [⟨key, items, filled⟩]
  | bucket :: rest =>
      if bucket.key = key then ⟨key, bucket.items ++ items, by simp [filled]⟩ :: rest
      else bucket :: extend key items filled rest

variable {key : κ} {items more : List α} {filled : items ≠ []} {buckets : List (Bucket κ α)}

theorem keys_extend :
    (extend key items filled buckets).map Bucket.key =
      if key ∈ buckets.map Bucket.key then buckets.map Bucket.key
      else buckets.map Bucket.key ++ [key] := by
  induction buckets with
  | nil => simp [extend]
  | cons bucket rest ih =>
      rw [extend]
      by_cases here : bucket.key = key
      · simp [here]
      · rw [if_neg here, List.map_cons, ih, List.map_cons]
        by_cases later : key ∈ rest.map Bucket.key
        · simp [later]
        · simp [later, Ne.symm here]

/-- A bucket is an old one of another key, or holds the new items behind the old ones. -/
theorem mem_extend {bucket : Bucket κ α} (distinct : (buckets.map Bucket.key).Nodup)
    (member : bucket ∈ extend key items filled buckets) :
    (bucket.key ≠ key ∧ bucket ∈ buckets) ∨
      (bucket.key = key ∧ ∃ old ∈ buckets, old.key = key ∧ bucket.items = old.items ++ items) ∨
      (bucket.key = key ∧ key ∉ buckets.map Bucket.key ∧ bucket.items = items) := by
  induction buckets with
  | nil =>
      rw [extend, List.mem_singleton] at member
      subst member
      exact .inr (.inr ⟨rfl, List.not_mem_nil, rfl⟩)
  | cons first rest ih =>
      rw [List.map_cons, List.nodup_cons] at distinct
      rw [extend] at member
      split at member
      · rename_i here
        rcases List.mem_cons.1 member with rfl | later
        · exact .inr (.inl ⟨rfl, first, List.mem_cons_self, here, rfl⟩)
        · refine .inl ⟨?_, List.mem_cons_of_mem _ later⟩
          intro same
          exact distinct.1 (List.mem_map.2 ⟨bucket, later, same.trans here.symm⟩)
      · rename_i other
        rcases List.mem_cons.1 member with rfl | later
        · exact .inl ⟨other, List.mem_cons_self⟩
        · rcases ih distinct.2 later with old | extended | new
          · exact .inl ⟨old.1, List.mem_cons_of_mem _ old.2⟩
          · obtain ⟨same, old, stored, parts⟩ := extended
            exact .inr (.inl ⟨same, old, List.mem_cons_of_mem _ stored, parts⟩)
          · refine .inr (.inr ⟨new.1, ?_, new.2.2⟩)
            rw [List.map_cons, List.mem_cons, not_or]
            exact ⟨Ne.symm other, new.2.1⟩

end Bucket

/-! ## Classes -/

section Classes

variable {κ α β : Type} [DecidableEq κ] {key : α → κ} {items more : List α}
  {buckets : List (Bucket κ α)}

/-- The items of one key. -/
def ofKey (key : α → κ) (value : κ) (items : List α) : List α :=
  items.filter fun item => decide (key item = value)

@[simp] theorem mem_ofKey {value : κ} {item : α} :
    item ∈ ofKey key value items ↔ item ∈ items ∧ key item = value := by
  simp [ofKey]

theorem ofKey_append {value : κ} :
    ofKey key value (items ++ more) = ofKey key value items ++ ofKey key value more :=
  List.filter_append _ _

theorem ofKey_perm {value : κ} {others : List α} (same : items.Perm others) :
    (ofKey key value items).Perm (ofKey key value others) := same.filter _

/-- The buckets are the classes of the items. -/
structure Grouped (key : α → κ) (items : List α) (buckets : List (Bucket κ α)) : Prop where
  distinct : (buckets.map Bucket.key).Nodup
  entries : ∀ bucket ∈ buckets, bucket.items = ofKey key bucket.key items
  complete : ∀ item ∈ items, key item ∈ buckets.map Bucket.key

theorem Grouped.nil : Grouped key [] [] := ⟨.nil, by simp, by simp⟩

/-- The items of a bucket have its key. -/
theorem Grouped.key_of_mem (grouped : Grouped key items buckets) {bucket : Bucket κ α}
    (member : bucket ∈ buckets) {item : α} (filed : item ∈ bucket.items) :
    item ∈ items ∧ key item = bucket.key := by
  rw [grouped.entries bucket member] at filed
  exact mem_ofKey.1 filed

/-- Items of one key join their class. -/
theorem Grouped.extend {value : κ} (grouped : Grouped key items buckets) (more : List α)
    (filled : more ≠ [])
    (same : ∀ item ∈ more, key item = value) :
    Grouped key (items ++ more) (Bucket.extend value more filled buckets) := by
  have whole : ofKey key value more = more :=
    List.filter_eq_self.2 fun item member => decide_eq_true (same item member)
  have nothing : ∀ other, other ≠ value → ofKey key other more = [] := by
    intro other differs
    rw [ofKey, List.filter_eq_nil_iff]
    intro item member
    simpa using fun found => differs (found.symm.trans (same item member))
  constructor
  · rw [Bucket.keys_extend]
    split
    · exact grouped.distinct
    · rename_i new
      rw [List.nodup_append]
      refine ⟨grouped.distinct, List.nodup_singleton _, ?_⟩
      intro old member last isLast equal
      rw [List.mem_singleton] at isLast
      exact new (isLast ▸ equal ▸ member)
  · intro bucket member
    rw [ofKey_append]
    rcases Bucket.mem_extend grouped.distinct member with old | extended | new
    · rw [nothing _ old.1, List.append_nil]
      exact grouped.entries bucket old.2
    · obtain ⟨isValue, old, stored, oldValue, parts⟩ := extended
      rw [parts, isValue, whole, grouped.entries old stored, oldValue]
    · obtain ⟨isValue, missing, parts⟩ := new
      have unfiled : ofKey key value items = [] := by
        rw [ofKey, List.filter_eq_nil_iff]
        intro item stored
        have differs : key item ≠ value := by
          rintro rfl
          exact missing (grouped.complete item stored)
        simpa using differs
      rw [parts, isValue, whole, unfiled, List.nil_append]
  · intro item member
    rw [Bucket.keys_extend]
    rcases List.mem_append.1 member with old | new
    · have known := grouped.complete item old
      split
      · exact known
      · exact List.mem_append_left _ known
    · rw [same item new]
      split
      · assumption
      · exact List.mem_append_right _ (List.mem_singleton_self _)

/-- Items filed one by one, each under its own key. -/
theorem Grouped.append (grouped : Grouped key items buckets) :
    Grouped key (items ++ more) (more.foldl
      (fun buckets item => Bucket.extend (key item) [item] (by simp) buckets) buckets) := by
  induction more generalizing items buckets with
  | nil => rwa [List.append_nil]
  | cons item rest ih =>
      have turned := grouped.extend [item] (by simp)
        fun other isItem => by rw [List.mem_singleton.1 isItem]
      have filed := ih turned
      rwa [List.append_assoc, List.singleton_append] at filed

/-- Splitting off one class leaves the items of the other keys. -/
theorem perm_flatMap_ofKey {keys : List κ} (distinct : keys.Nodup)
    (covers : ∀ item ∈ items, key item ∈ keys) :
    (keys.flatMap fun value => ofKey key value items).Perm items := by
  induction keys generalizing items with
  | nil =>
      have nothing : items = [] :=
        List.eq_nil_iff_forall_not_mem.2 fun item member =>
          absurd (covers item member) List.not_mem_nil
      rw [nothing, List.flatMap_nil]
  | cons value rest ih =>
      rw [List.nodup_cons] at distinct
      let others := items.filter fun item => !decide (key item = value)
      have coversOthers : ∀ item ∈ others, key item ∈ rest := by
        intro item member
        obtain ⟨stored, differs⟩ := List.mem_filter.1 member
        have differs : key item ≠ value := by simpa using differs
        exact (List.mem_cons.1 (covers item stored)).resolve_left differs
      have classes : (rest.flatMap fun other => ofKey key other items) =
          rest.flatMap fun other => ofKey key other others := by
        apply List.flatMap_congr
        intro other member
        have differs : other ≠ value := by
          rintro rfl
          exact distinct.1 member
        rw [ofKey, ofKey, List.filter_filter]
        apply List.filter_congr
        intro item _
        by_cases here : key item = other
        · simp [here, differs]
        · simp [here]
      rw [List.flatMap_cons, classes]
      exact ((ih distinct.2 coversOthers).append_left _).trans (List.filter_append_perm _ _)

/-- The buckets hold every item once. -/
theorem Grouped.perm (grouped : Grouped key items buckets) :
    (buckets.flatMap Bucket.items).Perm items := by
  have classes : buckets.flatMap Bucket.items =
      (buckets.map Bucket.key).flatMap fun value => ofKey key value items := by
    rw [List.flatMap_map]
    exact List.flatMap_congr grouped.entries
  rw [classes]
  exact perm_flatMap_ofKey grouped.distinct grouped.complete

omit [DecidableEq κ] in
/-- Lists with the same keys have the same images when entries of one key do. -/
theorem map_eq_of_keys {γ : Type} {left right : List γ} {shown : γ → κ} {image : γ → β}
    (same : left.map shown = right.map shown)
    (congr : ∀ first ∈ left, ∀ second ∈ right, shown first = shown second →
      image first = image second) : left.map image = right.map image := by
  induction left generalizing right with
  | nil =>
      rw [List.map_nil, eq_comm, List.map_eq_nil_iff] at same
      rw [same]
  | cons first rest ih =>
      cases right with
      | nil => cases same
      | cons second others =>
          rw [List.map_cons, List.map_cons] at same ⊢
          have parts := List.cons.inj same
          have here := congr first List.mem_cons_self second List.mem_cons_self parts.1
          have behind := ih parts.2 fun left member right stored =>
            congr left (List.mem_cons_of_mem _ member) right (List.mem_cons_of_mem _ stored)
          rw [here, behind]

/-- What is computed from the buckets is the same up to order for every order of the items. -/
theorem Grouped.map_perm {others : List α} {buckets' : List (Bucket κ α)} {image : Bucket κ α → β}
    (grouped : Grouped key items buckets) (grouped' : Grouped key others buckets')
    (same : items.Perm others)
    (congr : ∀ left ∈ buckets, ∀ right ∈ buckets', left.key = right.key →
      left.items.Perm right.items → image left = image right) :
    (buckets.map image).Perm (buckets'.map image) := by
  have keys : (buckets.map Bucket.key).Perm (buckets'.map Bucket.key) := by
    rw [List.perm_ext_iff_of_nodup grouped.distinct grouped'.distinct]
    intro value
    constructor
    · intro member
      obtain ⟨bucket, stored, rfl⟩ := List.mem_map.1 member
      have filed := grouped.key_of_mem stored (List.head_mem bucket.filled)
      exact filed.2 ▸ grouped'.complete _ (same.subset filed.1)
    · intro member
      obtain ⟨bucket, stored, rfl⟩ := List.mem_map.1 member
      have filed := grouped'.key_of_mem stored (List.head_mem bucket.filled)
      exact filed.2 ▸ grouped.complete _ (same.symm.subset filed.1)
  -- the second buckets in the order of the first ones
  obtain ⟨reordered, aligned, moved⟩ : ∃ reordered : List (Bucket κ α),
      buckets.map Bucket.key = reordered.map Bucket.key ∧ reordered.Perm buckets' := by
    have composed := congrFun (congrFun (List.eq_map_comp_perm Bucket.key)
      (buckets.map Bucket.key)) buckets'
    exact composed.mpr keys
  have images : buckets.map image = reordered.map image := by
    apply map_eq_of_keys aligned
    intro left member right stored equal
    have stored := moved.subset stored
    apply congr left member right stored equal
    rw [grouped.entries left member, grouped'.entries right stored, equal]
    exact ofKey_perm same
  rw [images]
  exact moved.map image

end Classes

end Sastsimi.Lib
