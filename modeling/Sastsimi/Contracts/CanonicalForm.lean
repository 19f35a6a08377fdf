import Sastsimi.Contracts.CanonicalJson
import Sastsimi.Lib.JsonForms

/-!
# Canonical forms

The bytes of a value are the text of its canonical form, in which fields and the items of policy
lists are sorted.  A canonical form is its own canonical form, values with one form are equal up
to the order of members and policy lists, and reordering a policy list with distinct sort keys
keeps the form.
-/

namespace Sastsimi.Contracts

open Sastsimi.Lib Json

/-! ## Statements -/

mutual

/-- Two values that differ in the order of object members, and of the items of the lists that may
be reordered. -/
def reordered (free : List String → List Json → Prop) (path : List String) : Json → Json → Prop
  | .arr items, .arr others =>
      ∃ order : List Json, order.Perm others ∧ (order = others ∨ free path items) ∧
        reorderedItems free (path ++ ["*"]) items order
  | .obj fields, .obj others =>
      ∃ order : List (String × Json), order.Perm others ∧ reorderedFields free path fields order
  | .arr _, _ => False
  | .obj _, _ => False
  | value, other => value = other

def reorderedItems (free : List String → List Json → Prop) (path : List String) :
    List Json → List Json → Prop
  | [], [] => True
  | item :: rest, other :: others => reordered free path item other ∧ reorderedItems free path rest others
  | _, _ => False

def reorderedFields (free : List String → List Json → Prop) (path : List String) :
    List (String × Json) → List (String × Json) → Prop
  | [], [] => True
  | (key, value) :: rest, (otherKey, other) :: others =>
      key = otherKey ∧ reordered free (path ++ [key]) value other ∧ reorderedFields free path rest others
  | _, _ => False

end

/-- The list is one of the policy. -/
def IsPolicyList (policy : SetListPolicy) (path : List String) (_ : List Json) : Prop :=
  policy path ≠ none

/-- The list is one of the policy, and the sort keys of its items are distinct. -/
def HasDistinctKeys (policy : SetListPolicy) (path : List String) (items : List Json) : Prop :=
  ∃ key texts, policy path = some key ∧
    (normalizeItems policy false (path ++ ["*"]) items >>= fun items => items.mapM (sortKey key)) =
      .ok texts ∧
    texts.Nodup

/-- A value as a decoder returns it: a dictionary for every object, and no fractions. -/
structure JsonTree where
  value : Json
  integral : value.integral = true
  unique : value.uniqueKeys = true

/-- The decoder is the inverse of the encoder, up to the order of object members. -/
def Inverts (loads : List Char → Option JsonTree) : Prop :=
  ∀ tree : JsonTree, ∃ parsed, loads (encode tree.value) = some parsed ∧
    parsed.value.sorted = tree.value.sorted

/-! ## Lists in order -/

section Order

variable {policy : SetListPolicy} {path : List String} {key : Option String} {item : Json}
  {items others : List Json}

/-- The sort key of an item that has one. -/
def keyOf (key : Option String) (item : Json) : List Char := (sortKey key item).toOption.getD []

/-- The items have sort keys where the policy asks for them. -/
def Keyed (policy : SetListPolicy) (path : List String) (items : List Json) : Prop :=
  ∀ key, policy path = some key → ∀ item ∈ items, sortKey key item = .ok (keyOf key item)

/-- The items in the order of the policy. -/
def arrange (policy : SetListPolicy) (path : List String) (items : List Json) : List Json :=
  match policy path with
  | none => items
  | some key => items.insertionSort fun left right => keyOf key left ≤ keyOf key right

theorem keyOf_eq {text : List Char} (keyed : sortKey key item = .ok text) : keyOf key item = text := by
  rw [keyOf, keyed]
  rfl

/-- A sort key does not depend on the order of object members. -/
theorem sortKey_sorted : sortKey key item.sorted = sortKey key item := by
  cases key with
  | none => simp only [sortKey, encode, sorted_sorted]
  | some name =>
      rw [sortKey, sortKey, get?_sorted]
      cases item.get? name with
      | none => rfl
      | some value => simp [required, encode, bind, Except.bind]

theorem sortItems_ok {result : List Json} :
    sortItems key items = .ok result ↔
      (∀ item ∈ items, sortKey key item = .ok (keyOf key item)) ∧
        items.insertionSort (fun left right => keyOf key left ≤ keyOf key right) = result := by
  have pairs : ((items.map fun item => (keyOf key item, item)).insertionSort
      fun left right => left.1 ≤ right.1).map Prod.snd =
      items.insertionSort fun left right => keyOf key left ≤ keyOf key right := by
    rw [← map_insertionSort (keyOf key) _ Prod.fst _ fun _ _ => rfl, List.map_map]
    exact List.map_id _
  have withKeys (haveKeys : ∀ item ∈ items, sortKey key item = .ok (keyOf key item)) :
      (items.mapM fun item => (sortKey key item).map fun text => (text, item)) =
        .ok (items.map fun item => (keyOf key item, item)) :=
    mapM_of_ok fun item member => by rw [haveKeys item member]; rfl
  rw [sortItems]
  constructor
  · intro sorted
    obtain ⟨keyed, computed, last⟩ := except_bind_ok sorted
    have haveKeys : ∀ item ∈ items, sortKey key item = .ok (keyOf key item) := by
      intro item member
      obtain ⟨pair, found⟩ := mapM_ok_value computed member
      obtain ⟨text, keyed, -⟩ := except_map_ok found
      rw [keyOf_eq keyed, keyed]
    have all := withKeys haveKeys
    rw [computed] at all
    cases all
    cases last
    exact ⟨haveKeys, pairs.symm⟩
  · rintro ⟨haveKeys, rfl⟩
    rw [withKeys haveKeys]
    exact congrArg Except.ok pairs

theorem orderItems_ok {result : List Json} :
    orderItems policy path items = .ok result ↔
      Keyed policy path items ∧ arrange policy path items = result := by
  unfold orderItems arrange Keyed
  cases policy path with
  | none => simp
  | some key => simp [sortItems_ok]

theorem arrange_perm : (arrange policy path items).Perm items := by
  unfold arrange
  cases policy path with
  | none => exact .refl _
  | some key => exact List.perm_insertionSort _ _

theorem Keyed.perm (keyed : Keyed policy path items) (same : others.Perm items) :
    Keyed policy path others :=
  fun key named item member => keyed key named item (same.subset member)

theorem arrange_again : arrange policy path (arrange policy path items) = arrange policy path items := by
  unfold arrange
  cases policy path with
  | none => rfl
  | some key => exact insertionSort_again items

theorem keyed_sorted : Keyed policy path (items.map sorted) ↔ Keyed policy path items := by
  simp only [Keyed, List.forall_mem_map, keyOf, sortKey_sorted]

/-- Sorting the members of the items does not change how they are arranged. -/
theorem arrange_sorted :
    arrange policy path (items.map sorted) = (arrange policy path items).map sorted := by
  unfold arrange
  cases policy path with
  | none => rfl
  | some key =>
      refine (map_insertionSort _ _ _ _ fun item _ => ?_).symm
      rw [keyOf, sortKey_sorted, keyOf]

end Order

/-! ## Forms -/

section Forms

variable {policy : SetListPolicy} {path : List String} {value other form : Json}
  {items others : List Json} {fields : List (String × Json)}

theorem normalizeItems_eq {rejectHash : Bool} :
    normalizeItems policy rejectHash path items = items.mapM (normalize policy rejectHash path) := by
  induction items with
  | nil => rfl
  | cons item rest ih => rw [normalizeItems, List.mapM_cons, ih]

theorem normalizeFields_eq {rejectHash : Bool} :
    normalizeFields policy rejectHash path fields =
      fields.mapM fun field =>
        (normalize policy rejectHash (path ++ [field.1]) field.2).map (Prod.mk field.1) := by
  induction fields with
  | nil => rfl
  | cons field rest ih =>
      rw [normalizeFields, List.mapM_cons, ih]
      cases normalize policy rejectHash (path ++ [field.1]) field.2 <;> rfl

/-- The canonical form of a value. -/
def canonicalForm (policy : SetListPolicy) (path : List String) (value : Json) :
    Except CanonicalError Json :=
  (normalize policy false path value).map sorted

/-- A field with the canonical form of its value. -/
def fieldForm (policy : SetListPolicy) (path : List String) (field : String × Json) :
    Except CanonicalError (String × Json) :=
  (canonicalForm policy (path ++ [field.1]) field.2).map (Prod.mk field.1)

theorem fieldForm_eq (field : String × Json) :
    fieldForm policy path field =
      ((normalize policy false (path ++ [field.1]) field.2).map (Prod.mk field.1)).map
        fun field => (field.1, field.2.sorted) := by
  rw [fieldForm, canonicalForm]
  cases normalize policy false (path ++ [field.1]) field.2 <;> rfl

/-- A list has a form where its items have forms and sort keys. -/
theorem canonicalForm_arr :
    canonicalForm policy path (.arr items) = .ok form ↔
      ∃ forms : List Json, items.map (canonicalForm policy (path ++ ["*"])) = forms.map .ok ∧
        Keyed policy path forms ∧ form = .arr (arrange policy path forms) := by
  rw [canonicalForm, normalize, normalizeItems_eq]
  constructor
  · intro computed
    obtain ⟨normal, returned, rfl⟩ := except_map_ok computed
    obtain ⟨normals, mapped, continued⟩ := except_bind_ok returned
    obtain ⟨arranged, inOrder, last⟩ := except_bind_ok continued
    cases last
    obtain ⟨keyed, rfl⟩ := orderItems_ok.1 inOrder
    refine ⟨normals.map sorted, ?_, keyed_sorted.2 keyed, by rw [sorted_arr, arrange_sorted]⟩
    have forms := congrArg (List.map (Except.map sorted)) (mapM_ok_iff.1 mapped)
    rw [List.map_map, List.map_map] at forms
    rw [List.map_map]
    exact forms
  · rintro ⟨forms, mapped, keyed, rfl⟩
    obtain ⟨normals, computed, rfl⟩ := map_ok_of_changed mapped
    have inOrder : orderItems policy path normals = .ok (arrange policy path normals) :=
      orderItems_ok.2 ⟨keyed_sorted.1 keyed, rfl⟩
    simp only [mapM_ok_iff.2 computed, inOrder, bind, Except.bind, pure, Except.pure, Except.map]
    rw [sorted_arr, arrange_sorted]

/-- An object has a form where its fields have forms. -/
theorem canonicalForm_obj :
    canonicalForm policy path (.obj fields) = .ok form ↔
      ∃ forms : List (String × Json), fields.map (fieldForm policy path) = forms.map .ok ∧
        form = .obj (forms.insertionSort fun left right => left.1 ≤ right.1) := by
  have unraised : raiseIf (false = true ∧ path = [] ∧ "content_hash" ∈ fields.map Prod.fst)
      (CanonicalError.valueError "content_hash member would be self-referential") = .ok () := by
    simp
  rw [canonicalForm, normalize, normalizeFields_eq, unraised]
  constructor
  · intro computed
    obtain ⟨normal, returned, rfl⟩ := except_map_ok computed
    obtain ⟨-, -, continued⟩ := except_bind_ok returned
    obtain ⟨normals, mapped, last⟩ := except_bind_ok continued
    cases last
    refine ⟨normals.map fun field => (field.1, field.2.sorted), ?_, sorted_obj normals⟩
    have forms := congrArg (List.map (Except.map fun field : String × Json =>
      (field.1, field.2.sorted))) (mapM_ok_iff.1 mapped)
    rw [List.map_map, List.map_map] at forms
    rw [List.map_map, funext fieldForm_eq]
    exact forms
  · rintro ⟨forms, mapped, rfl⟩
    rw [funext fieldForm_eq] at mapped
    obtain ⟨normals, computed, rfl⟩ := map_ok_of_changed mapped
    rw [mapM_ok_iff.2 computed]
    exact congrArg Except.ok (sorted_obj normals)

/-- Null, a boolean, an integer or a string. -/
def isScalar : Json → Bool
  | .null | .bool _ | .int _ | .str _ => true
  | _ => false

theorem canonicalForm_scalar (scalar : isScalar value = true) :
    canonicalForm policy path value = .ok value := by
  cases value <;> first | rfl | cases scalar

/-- Only a scalar has itself as its form. -/
theorem eq_of_canonicalForm_scalar (scalar : isScalar form = true)
    (computed : canonicalForm policy path value = .ok form) : value = form := by
  cases value with
  | float digits => cases computed
  | arr items =>
      obtain ⟨forms, -, -, rfl⟩ := canonicalForm_arr.1 computed
      cases scalar
  | obj fields =>
      obtain ⟨forms, -, rfl⟩ := canonicalForm_obj.1 computed
      cases scalar
  | _ => exact Except.ok.inj computed

/-- Only a list has a list as its form. -/
theorem arr_of_form (computed : canonicalForm policy path value = .ok (.arr items)) :
    ∃ others, value = .arr others := by
  cases value with
  | arr others => exact ⟨others, rfl⟩
  | obj fields =>
      obtain ⟨forms, -, same⟩ := canonicalForm_obj.1 computed
      cases same
  | _ => cases computed

/-- Only an object has an object as its form. -/
theorem obj_of_form (computed : canonicalForm policy path value = .ok (.obj fields)) :
    ∃ members, value = .obj members := by
  cases value with
  | arr items =>
      obtain ⟨forms, -, -, same⟩ := canonicalForm_arr.1 computed
      cases same
  | obj members => exact ⟨members, rfl⟩
  | _ => cases computed

theorem fieldForm_ok {field result : String × Json} (computed : fieldForm policy path field = .ok result) :
    result.1 = field.1 ∧ canonicalForm policy (path ++ [field.1]) field.2 = .ok result.2 := by
  obtain ⟨form, found, rfl⟩ := except_map_ok computed
  exact ⟨rfl, found⟩

/-- The form of an object has the keys of the object. -/
theorem fieldForm_keys {forms : List (String × Json)}
    (mapped : fields.map (fieldForm policy path) = forms.map .ok) :
    fields.map Prod.fst = forms.map Prod.fst := by
  induction fields generalizing forms with
  | nil =>
      cases forms with
      | nil => rfl
      | cons form rest => cases mapped
  | cons field rest ih =>
      cases forms with
      | nil => cases mapped
      | cons form others =>
          rw [List.map_cons, List.map_cons, List.cons.injEq] at mapped
          rw [List.map_cons, List.map_cons, ih mapped.2, (fieldForm_ok mapped.1).1]

/-- A list whose members are the results of some items has a form for each. -/
theorem map_ok_of_mem {α β : Type} {compute : α → Except CanonicalError β} {image : α → β}
    {items : List α} (computed : ∀ item ∈ items, compute item = .ok (image item)) :
    items.map compute = (items.map image).map .ok := by
  rw [List.map_map]
  exact List.map_congr_left computed

/-- Every form in a list of forms is the form of an item. -/
theorem exists_of_mem_forms {α β : Type} {compute : α → Except CanonicalError β} {items : List α}
    {results : List β} (mapped : items.map compute = results.map .ok) {result : β}
    (member : result ∈ results) : ∃ item ∈ items, compute item = .ok result :=
  List.mem_map.1 (mapped ▸ List.mem_map_of_mem member)

end Forms

/-! ## One form -/

section Same

variable {policy : SetListPolicy} {free : List String → List Json → Prop} {path : List String}
  {value other form : Json} {items others : List Json} {fields members : List (String × Json)}

theorem reorderedItems_iff :
    reorderedItems free path items others ↔ List.Forall₂ (reordered free path) items others := by
  induction items generalizing others with
  | nil => cases others <;> simp [reorderedItems]
  | cons item rest ih => cases others <;> simp [reorderedItems, ih]

theorem reorderedFields_iff :
    reorderedFields free path fields members ↔
      List.Forall₂ (fun field member => field.1 = member.1 ∧
        reordered free (path ++ [field.1]) field.2 member.2) fields members := by
  induction fields generalizing members with
  | nil => cases members <;> simp [reorderedFields]
  | cons field rest ih => cases members <;> simp [reorderedFields, ih, and_assoc]

theorem reordered_scalar (scalar : isScalar value = true) : reordered free path value value := by
  cases value <;> first | exact rfl | cases scalar

/-- Values with one form are equal up to the order of members and policy lists. -/
theorem reordered_of_form (value : Json) {path : List String} {other form : Json}
    (computed : canonicalForm policy path value = .ok form)
    (computed' : canonicalForm policy path other = .ok form) :
    reordered (IsPolicyList policy) path value other := by
  induction value using byParts generalizing path other form with
  | float digits => cases computed
  | arr items ih =>
      obtain ⟨forms, mapped, -, rfl⟩ := canonicalForm_arr.1 computed
      obtain ⟨others, rfl⟩ := arr_of_form computed'
      obtain ⟨forms', mapped', -, arranged⟩ := canonicalForm_arr.1 computed'
      have arranged := Json.arr.inj arranged
      have related (order : List Json)
          (same : items.map (canonicalForm policy (path ++ ["*"])) =
            order.map (canonicalForm policy (path ++ ["*"]))) :
          reorderedItems (IsPolicyList policy) (path ++ ["*"]) items order :=
        reorderedItems_iff.2 (forall₂_of_map_ok mapped same
          fun item member _ _ first second => ih item member first second)
      cases named : policy path with
      | none =>
          simp only [arrange, named] at arranged
          refine ⟨others, .refl _, .inl rfl, related others ?_⟩
          rw [mapped, mapped', arranged]
      | some key =>
          have permuted : (arrange policy path forms).Perm forms' := arranged ▸ arrange_perm
          have sameForms := mapped ▸ mapped' ▸ (arrange_perm.symm.trans permuted).map Except.ok
          obtain ⟨order, inOrder, reorder⟩ := exists_reorder sameForms
          refine ⟨order, reorder, .inr ?_, related order inOrder⟩
          rw [IsPolicyList, named]
          simp
  | obj fields ih =>
      obtain ⟨forms, mapped, rfl⟩ := canonicalForm_obj.1 computed
      obtain ⟨members, rfl⟩ := obj_of_form computed'
      obtain ⟨forms', mapped', arranged⟩ := canonicalForm_obj.1 computed'
      have permuted : (forms.insertionSort fun left right => left.1 ≤ right.1).Perm forms' :=
        Json.obj.inj arranged ▸ List.perm_insertionSort _ _
      have sameForms := mapped ▸ mapped' ▸
        ((List.perm_insertionSort _ _).symm.trans permuted).map Except.ok
      obtain ⟨order, inOrder, reorder⟩ := exists_reorder sameForms
      refine ⟨order, reorder, reorderedFields_iff.2 (forall₂_of_map_ok mapped inOrder ?_)⟩
      intro field member other result first second
      obtain ⟨sameKey, found⟩ := fieldForm_ok first
      obtain ⟨sameKey', found'⟩ := fieldForm_ok second
      have keys : field.1 = other.1 := sameKey.symm.trans sameKey'
      exact ⟨keys, ih field member found (keys ▸ found')⟩
  | _ =>
      cases computed
      rw [eq_of_canonicalForm_scalar rfl computed']
      exact reordered_scalar rfl

/-- Related items have the same forms when related values have. -/
theorem map_of_forall₂ {α β : Type} {compute : α → Except CanonicalError β}
    {relation : α → α → Prop} {items others : List α} {results : List β}
    (computed : items.map compute = results.map .ok)
    (related : List.Forall₂ relation items others)
    (same : ∀ item ∈ items, ∀ other result, relation item other → compute item = .ok result →
      compute other = .ok result) : others.map compute = results.map .ok := by
  induction related generalizing results with
  | nil => exact computed
  | @cons item other rest others first _ ih =>
      cases results with
      | nil => cases computed
      | cons result results =>
          rw [List.map_cons, List.map_cons, List.cons.injEq] at computed ⊢
          refine ⟨same item List.mem_cons_self other result first computed.1, ih computed.2 ?_⟩
          exact fun item member => same item (List.mem_cons_of_mem _ member)

/-- The sort keys of a list, taken of the forms of its items. -/
theorem HasDistinctKeys.forms {forms : List Json} (distinct : HasDistinctKeys policy path items)
    (mapped : items.map (canonicalForm policy (path ++ ["*"])) = forms.map .ok) :
    ∃ key, policy path = some key ∧ (forms.map (keyOf key)).Nodup := by
  obtain ⟨key, texts, named, keyed, distinct⟩ := distinct
  refine ⟨key, named, ?_⟩
  rw [normalizeItems_eq] at keyed
  obtain ⟨normals, normalized, taken⟩ := except_bind_ok keyed
  obtain ⟨normals', normalized', rfl⟩ := map_ok_of_changed mapped
  rw [mapM_ok_iff, normalized'] at normalized
  cases List.map_injective_iff.2 (fun _ _ => Except.ok.inj) normalized
  have texts_eq : normals.map (fun normal => keyOf key normal.sorted) = texts := by
    have keys := congrArg (List.map fun text : Except CanonicalError (List Char) =>
      text.toOption.getD []) (mapM_ok_iff.1 taken)
    rw [List.map_map, List.map_map] at keys
    simp only [keyOf, sortKey_sorted]
    exact keys.trans (List.map_id _)
  rw [List.map_map]
  exact texts_eq ▸ distinct

/-- Reordering members, and policy lists with distinct sort keys, keeps the form. -/
theorem form_of_reordered (value : Json) {path : List String} {other form : Json}
    (unique : value.uniqueKeys = true)
    (same : reordered (HasDistinctKeys policy) path value other)
    (computed : canonicalForm policy path value = .ok form) :
    canonicalForm policy path other = .ok form := by
  induction value using byParts generalizing path other form with
  | arr items ih =>
      obtain ⟨forms, mapped, keyed, rfl⟩ := canonicalForm_arr.1 computed
      cases other with
      | arr others =>
          obtain ⟨order, reorder, free, related⟩ := same
          have inOrder : order.map (canonicalForm policy (path ++ ["*"])) = forms.map .ok :=
            map_of_forall₂ mapped (reorderedItems_iff.1 related)
              fun item member _ _ same computed =>
                ih item member (uniqueKeys_arr.1 unique item member) same computed
          rcases free with rfl | distinct
          · exact canonicalForm_arr.2 ⟨forms, inOrder, keyed, rfl⟩
          · obtain ⟨forms', mapped', permuted⟩ :=
              exists_reorder ((inOrder ▸ reorder.map (canonicalForm policy (path ++ ["*"]))).symm)
            obtain ⟨key, named, distinctForms⟩ := distinct.forms mapped
            refine canonicalForm_arr.2 ⟨forms', mapped', keyed.perm permuted, ?_⟩
            simp only [arrange, named]
            rw [insertionSort_perm distinctForms permuted]
      | _ => cases same
  | obj fields ih =>
      obtain ⟨forms, mapped, rfl⟩ := canonicalForm_obj.1 computed
      obtain ⟨distinct, uniqueFields⟩ := uniqueKeys_obj.1 unique
      cases other with
      | obj members =>
          obtain ⟨order, reorder, related⟩ := same
          have inOrder : order.map (fieldForm policy path) = forms.map .ok := by
            refine map_of_forall₂ mapped (reorderedFields_iff.1 related) ?_
            intro field member other result same computed
            obtain ⟨sameKey, found⟩ := fieldForm_ok computed
            have found' := ih field member (uniqueFields field member) same.2 found
            rw [fieldForm, ← same.1, found']
            exact congrArg Except.ok (Prod.ext sameKey.symm rfl)
          obtain ⟨forms', mapped', permuted⟩ :=
            exists_reorder ((inOrder ▸ reorder.map (fieldForm policy path)).symm)
          have keys : (forms.map Prod.fst).Nodup := fieldForm_keys mapped ▸ distinct
          refine canonicalForm_obj.2 ⟨forms', mapped', ?_⟩
          rw [insertionSort_perm keys permuted]
      | _ => cases same
  | _ => cases same; exact computed

/-- The canonical form of a value is its own canonical form. -/
theorem form_again (value : Json) {path : List String} {other form : Json}
    (computed : canonicalForm policy path value = .ok form) (same : other.sorted = form) :
    canonicalForm policy path other = .ok form := by
  induction value using byParts generalizing path other form with
  | float digits => cases computed
  | arr items ih =>
      obtain ⟨forms, mapped, keyed, rfl⟩ := canonicalForm_arr.1 computed
      cases other with
      | arr others =>
          rw [sorted_arr] at same
          have same := Json.arr.inj same
          have mapped' : others.map (canonicalForm policy (path ++ ["*"])) =
              (others.map sorted).map .ok := by
            apply map_ok_of_mem
            intro other member
            have listed : other.sorted ∈ forms :=
              arrange_perm.subset (same ▸ List.mem_map_of_mem member)
            obtain ⟨item, inside, found⟩ := exists_of_mem_forms mapped listed
            exact ih item inside found rfl
          rw [same] at mapped'
          refine canonicalForm_arr.2 ⟨_, mapped', keyed.perm arrange_perm, ?_⟩
          rw [arrange_again]
      | obj members => rw [sorted_obj] at same; cases same
      | _ => cases same
  | obj fields ih =>
      obtain ⟨forms, mapped, rfl⟩ := canonicalForm_obj.1 computed
      cases other with
      | arr others => rw [sorted_arr] at same; cases same
      | obj members =>
          rw [sorted_obj] at same
          have same := Json.obj.inj same
          refine canonicalForm_obj.2 ⟨_, map_ok_of_mem ?_, congrArg Json.obj same.symm⟩
          intro field member
          have inOrder (fields : List (String × Json)) :=
            List.perm_insertionSort (fun left right : String × Json => left.1 ≤ right.1) fields
          have listed : (field.1, field.2.sorted) ∈ forms := by
            apply (inOrder forms).subset
            rw [← same]
            exact (inOrder _).symm.subset (List.mem_map_of_mem member)
          obtain ⟨item, inside, found⟩ := exists_of_mem_forms mapped listed
          obtain ⟨sameKey, found⟩ := fieldForm_ok found
          have again : canonicalForm policy _ field.2 = .ok field.2.sorted := ih item inside found rfl
          rw [← sameKey] at again
          rw [fieldForm, again]
          rfl
      | _ => cases same
  | _ =>
      cases computed
      cases other with
      | arr others => rw [sorted_arr] at same; cases same
      | obj members => rw [sorted_obj] at same; cases same
      | _ => cases same <;> rfl

/-- A canonical form is a value as a decoder returns it. -/
theorem form_tree (value : Json) {path : List String} {form : Json}
    (unique : value.uniqueKeys = true) (computed : canonicalForm policy path value = .ok form) :
    form.integral = true ∧ form.uniqueKeys = true := by
  induction value using byParts generalizing path form with
  | float digits => cases computed
  | arr items ih =>
      obtain ⟨forms, mapped, -, rfl⟩ := canonicalForm_arr.1 computed
      have parts : ∀ form ∈ arrange policy path forms, form.integral = true ∧ form.uniqueKeys = true := by
        intro form member
        obtain ⟨item, inside, found⟩ := exists_of_mem_forms mapped (arrange_perm.subset member)
        exact ih item inside (uniqueKeys_arr.1 unique item inside) found
      exact ⟨integral_arr.2 fun form member => (parts form member).1,
        uniqueKeys_arr.2 fun form member => (parts form member).2⟩
  | obj fields ih =>
      obtain ⟨forms, mapped, rfl⟩ := canonicalForm_obj.1 computed
      obtain ⟨distinct, uniqueFields⟩ := uniqueKeys_obj.1 unique
      have parts : ∀ form ∈ forms, form.2.integral = true ∧ form.2.uniqueKeys = true := by
        intro form member
        obtain ⟨field, inside, found⟩ := exists_of_mem_forms mapped member
        exact ih field inside (uniqueFields field inside) (fieldForm_ok found).2
      have inOrder := List.perm_insertionSort (fun left right : String × Json => left.1 ≤ right.1) forms
      refine ⟨integral_obj.2 fun form member => (parts form (inOrder.subset member)).1,
        uniqueKeys_obj.2 ⟨?_, fun form member => (parts form (inOrder.subset member)).2⟩⟩
      rw [(inOrder.map Prod.fst).nodup_iff, ← fieldForm_keys mapped]
      exact distinct
  | _ => cases computed; exact ⟨rfl, rfl⟩

end Same

/-! ## Canonical bytes -/

section Bytes

variable {policy : SetListPolicy} {value other : Json} {bytes : List Char}

theorem canonicalBytes_eq (policy : SetListPolicy) (value : Json) :
    canonicalBytes policy value = (canonicalForm policy [] value).map text := by
  rw [canonicalBytes, canonicalForm]
  cases normalize policy false [] value <;> rfl

/-- The bytes are the text of the canonical form, which is in order. -/
theorem form_of_canonicalBytes (succeeds : canonicalBytes policy value = .ok bytes) :
    ∃ form, canonicalForm policy [] value = .ok form ∧ form.text = bytes ∧ form.sorted = form := by
  rw [canonicalBytes] at succeeds
  obtain ⟨normal, found, rfl⟩ := except_map_ok succeeds
  exact ⟨normal.sorted, by rw [canonicalForm, found]; rfl, rfl, sorted_sorted normal⟩

/-- Values with the same bytes have the same form. -/
theorem form_of_same_bytes (unique : value.uniqueKeys = true) (unique' : other.uniqueKeys = true)
    (succeeds : canonicalBytes policy value = .ok bytes)
    (succeeds' : canonicalBytes policy other = .ok bytes) :
    ∃ form, canonicalForm policy [] value = .ok form ∧ canonicalForm policy [] other = .ok form := by
  obtain ⟨form, computed, rfl, inOrder⟩ := form_of_canonicalBytes succeeds
  obtain ⟨form', computed', same, inOrder'⟩ := form_of_canonicalBytes succeeds'
  have sameForm : form'.sorted = form.sorted :=
    sorted_text_inj (numbered_of_integral _ (form_tree _ unique' computed').1)
      (numbered_of_integral _ (form_tree _ unique computed).1) (by rw [inOrder, inOrder', same])
  rw [inOrder, inOrder'] at sameForm
  exact ⟨form, computed, sameForm ▸ computed'⟩

/-- The canonical bytes of a value decode to it up to policy lists and have themselves as bytes;
values that differ in members and in policy lists with distinct sort keys have the same bytes, and
values with the same bytes are equal up to members and policy lists. -/
theorem canonicalBytes_faithful (policy : SetListPolicy) {loads : List Char → Option JsonTree}
    (inverse : Inverts loads) (value : JsonTree) {bytes : List Char}
    (succeeds : canonicalBytes policy value.value = .ok bytes) :
    (∃ parsed, loads bytes = some parsed ∧
      reordered (IsPolicyList policy) [] value.value parsed.value ∧
      canonicalBytes policy parsed.value = .ok bytes) ∧
    (∀ other : JsonTree, reordered (HasDistinctKeys policy) [] value.value other.value →
      canonicalBytes policy other.value = .ok bytes) ∧
    (∀ other : JsonTree, canonicalBytes policy other.value = .ok bytes →
      reordered (IsPolicyList policy) [] value.value other.value) := by
  have reorderedOther (other : JsonTree) (succeeds' : canonicalBytes policy other.value = .ok bytes) :
      reordered (IsPolicyList policy) [] value.value other.value := by
    obtain ⟨form, computed, computed'⟩ :=
      form_of_same_bytes value.unique other.unique succeeds succeeds'
    exact reordered_of_form _ computed computed'
  obtain ⟨form, computed, rfl, inOrder⟩ := form_of_canonicalBytes succeeds
  obtain ⟨integral, unique⟩ := form_tree _ value.unique computed
  refine ⟨?_, ?_, reorderedOther⟩
  · obtain ⟨parsed, decoded, same⟩ := inverse ⟨form, integral, unique⟩
    have again := form_again _ computed (same.trans inOrder)
    have bytesAgain : canonicalBytes policy parsed.value = .ok form.text := by
      rw [canonicalBytes_eq, again]
      rfl
    rw [encode, inOrder] at decoded
    exact ⟨parsed, decoded, reorderedOther parsed bytesAgain, bytesAgain⟩
  · intro other same
    rw [canonicalBytes_eq, form_of_reordered _ value.unique same computed]
    rfl

end Bytes

/-! ## Content hashes -/

section Hashes

variable {policy : SetListPolicy} {path : List String}

mutual

/-- Only the outermost object may not have a member for its hash. -/
theorem normalize_inside {path : List String} (inside : path ≠ []) : ∀ value : Json,
    normalize policy true path value = normalize policy false path value
  | .null => rfl
  | .bool _ => rfl
  | .int _ => rfl
  | .float _ => rfl
  | .str _ => rfl
  | .arr items => by rw [normalize, normalize, normalizeItems_inside (by simp) items]
  | .obj fields => by
      rw [normalize, normalize, normalizeFields_inside fields]
      simp [inside, raiseIf]

theorem normalizeItems_inside {path : List String} (inside : path ≠ []) : ∀ items : List Json,
    normalizeItems policy true path items = normalizeItems policy false path items
  | [] => rfl
  | item :: rest => by
      rw [normalizeItems, normalizeItems, normalize_inside inside item,
        normalizeItems_inside inside rest]

theorem normalizeFields_inside {path : List String} : ∀ fields : List (String × Json),
    normalizeFields policy true path fields = normalizeFields policy false path fields
  | [] => rfl
  | (key, value) :: rest => by
      rw [normalizeFields, normalizeFields, normalize_inside (by simp) value,
        normalizeFields_inside rest]

end

/-- The content hash is the hash of the canonical bytes, of a value that does not hold it. -/
theorem contentHash_eq (sha256 : List Char → String) (policy : SetListPolicy) (value : Json) :
    contentHash sha256 policy value =
      if (value.get? "content_hash").isSome then
        .error (.valueError "content_hash member would be self-referential")
      else (canonicalBytes policy value).map sha256 := by
  have hashed (normal : Except CanonicalError Json) :
      normal.map (fun normal => sha256 (encode normal)) = (normal.map encode).map sha256 := by
    cases normal <;> rfl
  rw [contentHash, canonicalBytes, hashed]
  cases value with
  | arr items =>
      rw [normalize, normalize, normalizeItems_inside (by simp)]
      rfl
  | obj fields =>
      rw [normalize, normalize, normalizeFields_inside, get?]
      by_cases held : "content_hash" ∈ fields.map Prod.fst
      · have found : (fields.lookup "content_hash").isSome = true := by
          rw [List.lookup_isSome_iff]
          obtain ⟨field, member, same⟩ := List.mem_map.1 held
          exact ⟨field, member, by simp [same]⟩
        rw [if_pos found]
        simp only [held, and_self, raiseIf, if_true]
        rfl
      · have missing : ¬ (fields.lookup "content_hash").isSome = true := by
          rw [List.lookup_isSome_iff]
          rintro ⟨field, member, same⟩
          rw [beq_iff_eq] at same
          exact held (same ▸ List.mem_map_of_mem member)
        rw [if_neg missing]
        simp [held, raiseIf]
  | _ => rfl

end Hashes

namespace Concrete

/-- `tags` is a set, and `steps` is sorted by the member `id`. -/
def tagsPolicy : SetListPolicy := fun path =>
  if path = ["tags"] then some none
  else if path = ["steps"] then some (some "id")
  else none

/-- A step with an id. -/
def step (id : Int) : Json := .obj [("text", .str "x"), ("id", .int id)]

/-- A value with two lists of the policy. -/
def report : JsonTree where
  value := .obj [("tags", .arr [.str "b", .str "a"]), ("steps", .arr [step 2, step 1])]
  integral := by decide
  unique := by decide

/-- The canonical bytes of the value. -/
def reportBytes : List Char :=
  (Json.obj [("steps", .arr [.obj [("id", .int 1), ("text", .str "x")],
      .obj [("id", .int 2), ("text", .str "x")]]),
    ("tags", .arr [.str "a", .str "b"])]).text

theorem report_succeeds : canonicalBytes tagsPolicy report.value = .ok reportBytes := by decide

open Classical in
/-- The inverse of the encoder. -/
noncomputable def decode (bytes : List Char) : Option JsonTree :=
  if encoded : ∃ tree : JsonTree, encode tree.value = bytes then some encoded.choose else none

theorem decode_inverts : Inverts decode := by
  intro tree
  have encoded : ∃ other : JsonTree, encode other.value = encode tree.value := ⟨tree, rfl⟩
  refine ⟨encoded.choose, by rw [decode, dif_pos encoded], ?_⟩
  exact sorted_text_inj (numbered_of_integral _ encoded.choose.integral)
    (numbered_of_integral _ tree.integral) encoded.choose_spec

/-- The bytes of the value decode to it up to the order of its tags and steps. -/
theorem report_faithful :
    (∃ parsed, decode reportBytes = some parsed ∧
      reordered (IsPolicyList tagsPolicy) [] report.value parsed.value ∧
      canonicalBytes tagsPolicy parsed.value = .ok reportBytes) ∧
    (∀ other : JsonTree, reordered (HasDistinctKeys tagsPolicy) [] report.value other.value →
      canonicalBytes tagsPolicy other.value = .ok reportBytes) ∧
    (∀ other : JsonTree, canonicalBytes tagsPolicy other.value = .ok reportBytes →
      reordered (IsPolicyList tagsPolicy) [] report.value other.value) :=
  canonicalBytes_faithful tagsPolicy decode_inverts report report_succeeds

end Concrete

end Sastsimi.Contracts
