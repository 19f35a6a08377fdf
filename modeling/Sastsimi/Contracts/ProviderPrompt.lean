import Sastsimi.Contracts.RedactionGuard
import Sastsimi.Lib.JsonLimits
import Sastsimi.Lib.JsonRespelling

/-!
# Rendered prompts

A prompt is a safe template and a block with the redacted documents of its bindings.  No document
can close the block, a decoder of the block reads each of them, and prompts of one template that
are the same have the same documents.
-/

namespace Sastsimi.Contracts

open Sastsimi.Lib Sastsimi.Runtime Json Grammar

/-! ## Angle brackets -/

/-- The angle brackets are written as escapes. -/
def angles : Respelling where
  moves character := character == '<' || character == '>'
  spell character :=
    if character == '<' then "\\u003c".toList
    else if character == '>' then "\\u003e".toList
    else [character]
  free := by
    intro character moves
    simp only [Bool.or_eq_true, beq_iff_eq] at moves
    rcases moves with rfl | rfl <;> decide
  spelled := by
    intro character moves
    simp only [Bool.or_eq_true, beq_iff_eq] at moves
    rcases moves with rfl | rfl <;> decide
  still := by
    intro character stays
    simp only [Bool.or_eq_false_iff, beq_eq_false_iff_ne] at stays
    simp [stays]

theorem replaceAll_letter (letter : Char) (new : String) (text : List Char) :
    replaceAll (String.ofList [letter]) new text =
      text.flatMap fun character => if character == letter then new.toList else [character] := by
  rw [replaceAll, Regex.literal, String.toList_ofList]
  exact Regex.sub_one text

/-- Both replacements together respell the text. -/
theorem escapeAngles_eq (text : List Char) : escapeAngles text = angles.write text := by
  have opening := replaceAll_letter '<' "\\u003c" text
  have closing := replaceAll_letter '>' "\\u003e" (replaceAll "<" "\\u003c" text)
  calc escapeAngles text
      = (text.flatMap fun character =>
          if character == '<' then "\\u003c".toList else [character]).flatMap fun character =>
            if character == '>' then "\\u003e".toList else [character] := by
        rw [← opening]
        exact closing
    _ = angles.write text := by
        rw [List.flatMap_assoc, Respelling.write]
        apply List.flatMap_congr
        intro character _
        by_cases opens : character = '<'
        · subst opens
          decide
        · have differs : (character == '<') = false := beq_eq_false_iff_ne.2 opens
          simp only [angles, differs, Bool.false_eq_true, if_false, List.flatMap_cons,
            List.flatMap_nil, List.append_nil]

/-- The escapes have no angle brackets themselves. -/
theorem escapes_plain (character : Char)
    (member : character ∈ "\\u003c".toList ++ "\\u003e".toList) :
    character ≠ '<' ∧ character ≠ '>' := by
  have plain : ("\\u003c".toList ++ "\\u003e".toList).all
      (fun character => character != '<' && character != '>') = true := by rfl
  have here := List.all_eq_true.1 plain character member
  simpa using here

theorem angle_escaped {character : Char} {text : List Char}
    (member : character ∈ escapeAngles text) : character ≠ '<' ∧ character ≠ '>' := by
  rw [escapeAngles_eq, Respelling.write, List.mem_flatMap] at member
  obtain ⟨before, -, member⟩ := member
  simp only [angles, beq_iff_eq] at member
  split at member
  · exact escapes_plain character (List.mem_append_left _ member)
  · split at member
    · exact escapes_plain character (List.mem_append_right _ member)
    · rename_i opens closes
      rw [List.mem_singleton.1 member]
      exact ⟨opens, closes⟩

/-! ## Dictionaries -/

section Prompt

variable [Unicode] {interpreter : Interpreter} {value redacted : Json} {found : List Category}

/-- What is left of a string is a string. -/
theorem redactText_str {nested : Json → Except RedactionError (Json × List Category)}
    {text : String} (returned : redactText interpreter nested text = .ok (redacted, found)) :
    ∃ left, redacted = .str left := by
  have plain : redactPlain text = .ok (redacted, found) → ∃ left, redacted = .str left := by
    intro returned
    obtain ⟨⟨left, categories⟩, -, parts⟩ := except_map_ok returned
    exact ⟨_, (Prod.mk.inj parts).1.symm⟩
  rw [redactText] at returned
  split at returned
  · split at returned
    · exact plain returned
    · cases returned
    · split at returned
      · cases returned
      · exact plain returned
      · obtain ⟨encoded, -, parts⟩ := except_map_ok returned
        exact ⟨_, (Prod.mk.inj parts).1.symm⟩
  · exact plain returned

theorem unique_redactItems {floats : Bool}
    {nested : Json → Except RedactionError (Json × List Category)} {items left : List Json}
    (each : ∀ item ∈ items, ∀ result inside,
      redactWith interpreter floats nested item = .ok (result, inside) → result.uniqueKeys = true)
    (returned : redactItems interpreter floats nested items = .ok (left, found)) :
    ∀ item ∈ left, item.uniqueKeys = true := by
  induction items generalizing left found with
  | nil =>
      cases returned
      exact fun _ member => absurd member List.not_mem_nil
  | cons first rest ih =>
      obtain ⟨⟨result, inside⟩, front, returned⟩ := except_bind_ok returned
      obtain ⟨⟨others, more⟩, back, returned⟩ := except_bind_ok returned
      cases returned
      intro item member
      rcases List.mem_cons.1 member with rfl | later
      · exact each first List.mem_cons_self _ _ front
      · exact ih (fun item member => each item (List.mem_cons_of_mem _ member)) back item later

/-- Redacted fields have the keys that they had. -/
theorem unique_redactFields {floats : Bool}
    {nested : Json → Except RedactionError (Json × List Category)}
    {fields left : List (String × Json)}
    (each : ∀ field ∈ fields, ∀ result inside,
      redactWith interpreter floats nested field.2 = .ok (result, inside) →
        result.uniqueKeys = true)
    (returned : redactFields interpreter floats nested fields = .ok (left, found)) :
    left.map Prod.fst = fields.map Prod.fst ∧ ∀ field ∈ left, field.2.uniqueKeys = true := by
  induction fields generalizing left found with
  | nil =>
      cases returned
      exact ⟨rfl, fun _ member => absurd member List.not_mem_nil⟩
  | cons first rest ih =>
      rw [redactFields] at returned
      split at returned
      · obtain ⟨⟨others, more⟩, back, returned⟩ := except_bind_ok returned
        cases returned
        obtain ⟨keys, unique⟩ :=
          ih (fun field member => each field (List.mem_cons_of_mem _ member)) back
        refine ⟨congrArg (_ :: ·) keys, fun field member => ?_⟩
        rcases List.mem_cons.1 member with rfl | later
        · rfl
        · exact unique field later
      · obtain ⟨⟨result, inside⟩, front, returned⟩ := except_bind_ok returned
        obtain ⟨⟨others, more⟩, back, returned⟩ := except_bind_ok returned
        cases returned
        obtain ⟨keys, unique⟩ :=
          ih (fun field member => each field (List.mem_cons_of_mem _ member)) back
        refine ⟨congrArg (_ :: ·) keys, fun field member => ?_⟩
        rcases List.mem_cons.1 member with rfl | later
        · exact each _ List.mem_cons_self _ _ front
        · exact unique field later

/-- Redaction keeps the keys of dictionaries. -/
theorem unique_redactWith {floats : Bool}
    {nested : Json → Except RedactionError (Json × List Category)}
    (unique : value.uniqueKeys = true)
    (returned : redactWith interpreter floats nested value = .ok (redacted, found)) :
    redacted.uniqueKeys = true := by
  induction value using byParts generalizing redacted found with
  | float literal =>
      rw [redactWith] at returned
      split at returned
      · cases returned
        rfl
      · cases returned
  | str text =>
      rw [redactWith] at returned
      obtain ⟨left, rfl⟩ := redactText_str returned
      rfl
  | arr items ih =>
      rw [redactWith] at returned
      obtain ⟨⟨left, inside⟩, mapped, parts⟩ := except_map_ok returned
      cases parts
      rw [uniqueKeys_arr] at unique ⊢
      exact unique_redactItems (fun item member _ _ => ih item member (unique item member)) mapped
  | obj fields ih =>
      rw [redactWith] at returned
      obtain ⟨⟨left, inside⟩, mapped, parts⟩ := except_map_ok returned
      cases parts
      rw [uniqueKeys_obj] at unique ⊢
      obtain ⟨keys, parts⟩ :=
        unique_redactFields (fun field member _ _ => ih field member (unique.2 field member)) mapped
      exact ⟨keys ▸ unique.1, parts⟩
  | _ =>
      cases returned
      rfl

/-! ## Redacted documents -/

omit [Unicode] in
/-- What is encoded has no floats. -/
theorem canonical_tree {bytes : List Char} (unique : value.uniqueKeys = true)
    (encoded : canonical value = .ok bytes) :
    value.integral = true ∧ bytes = value.sorted.text := by
  obtain ⟨succeeds, isText⟩ := canonical_ok encoded
  obtain ⟨form, computed, -, -⟩ := form_of_canonicalBytes succeeds
  have integral := (form_tree value unique computed).1
  obtain ⟨normal, normalized, rfl⟩ := except_map_ok computed
  rw [normalize_none normalized, integral_sorted] at integral
  exact ⟨integral, isText⟩

omit [Unicode] in
theorem decode_of_document {data : List Char} (returned : document interpreter data = .ok value) :
    decode interpreter.limits data = some value := by
  rw [document] at returned
  split at returned
  · rename_i loaded read
    cases returned
    rw [loads] at read
    split at read
    · rename_i decoded
      cases read
      exact decoded
    · split at read <;> cases read
  · cases returned
  · cases returned

/-- The object of a binding. -/
def bindingObject (sha256 : List Char → String) (slot : String) (data : List Char)
    (document : Json) : Json :=
  .obj
    [("slot", .str slot), ("trust_class", .str "UNTRUSTED_DATA"), ("sha256", .str (sha256 data)),
      ("data", document)]

/-- A binding is shown as its redacted document, which is clean, with the hash of that document. -/
def ShowsBinding (interpreter : Interpreter) (sha256 : List Char → String)
    (binding : String × List Char) (object : Json) : Prop :=
  ∃ result value, redactProjectedJson interpreter binding.2 = .ok result
    ∧ result.data = encode value ∧ value.uniqueKeys = true ∧ Clean interpreter value.sorted
    ∧ object = bindingObject sha256 binding.1 result.data value.sorted

variable {sha256 : List Char → String} {binding : String × List Char} {object : Json}

theorem renderedBinding_shows (returned : renderedBinding interpreter sha256 binding = .ok object) :
    ShowsBinding interpreter sha256 binding object := by
  obtain ⟨result, redacts, returned⟩ := except_bind_ok returned
  obtain ⟨data, again, returned⟩ := except_bind_ok returned
  cases returned
  obtain ⟨source, value, categories, read, left, encoding, clean⟩ := redactProjectedJson_ok redacts
  have unique := unique_redactWith (unique_decode (decode_of_document read)) left
  obtain ⟨integral, isText⟩ := canonical_tree unique encoding
  have decoded := decode_of_document again
  rw [isText] at decoded
  have same := decode_written integral unique decoded
  exact ⟨result, value, redacts, isText, unique, clean.sorted, same ▸ rfl⟩

theorem ShowsBinding.unique (shows : ShowsBinding interpreter sha256 binding object) :
    object.uniqueKeys = true := by
  obtain ⟨result, value, -, -, unique, -, rfl⟩ := shows
  rw [bindingObject, uniqueKeys_obj]
  refine ⟨by simp, ?_⟩
  simpa [uniqueKeys] using uniqueKeys_sorted unique

/-! ## Prompts -/

/-- The document of the bindings of a prompt. -/
def promptDocument (objects : List Json) : Json := .obj [("bindings", .arr objects)]

omit [Unicode] in
theorem unique_promptDocument {objects : List Json}
    (unique : ∀ object ∈ objects, object.uniqueKeys = true) :
    (promptDocument objects).uniqueKeys = true := by
  rw [promptDocument, uniqueKeys_obj]
  refine ⟨by simp, ?_⟩
  simpa using unique

/-- A prompt is left as it is when it is redacted again, and has nothing that is guarded. -/
structure Safe (interpreter : Interpreter) (text : List Char) : Prop where
  untouched : replaceString false text = .ok (text, [])
  clean : Clean interpreter (.str (String.ofList text))

theorem safe_of_assert {text : List Char} (passed : assertSafeProviderText interpreter text = .ok ()) :
    Safe interpreter text := by
  obtain ⟨⟨left, categories⟩, replaced, passed⟩ := except_bind_ok passed
  obtain ⟨none, passed⟩ := raiseIf_bind_ok.1 passed
  obtain ⟨same, passed⟩ := raiseIf_bind_ok.1 passed
  rw [not_not.1 none, not_not.1 same] at replaced
  exact ⟨replaced, clean_of_hasSensitiveString (refuseSensitive_ok passed)⟩

/-- A rendered prompt: a safe template, and a block that only its own delimiters open and close,
whose body is decoded to the objects of the bindings. -/
structure Rendered (interpreter : Interpreter) (sha256 : List Char → String) (template : List Char)
    (bindings : List (String × List Char)) (prompt body : List Char) (objects : List Json) :
    Prop where
  parts : prompt = template ++ dataBlock body
  shows : List.Forall₂ (ShowsBinding interpreter sha256) bindings objects
  closed : ∀ front back, dataBlock body = front ++ '<' :: back →
    front = ['\n'] ∨ front = ['\n'] ++ '<' :: ("UNTRUSTED_DATA>\n".toList ++ body ++ ['\n'])
  decoded : ∀ limits, Loadable limits (promptDocument objects) →
    decode limits body = some (promptDocument objects).sorted
  template : Safe interpreter template
  safe : Safe interpreter prompt

omit [Unicode] in
/-- A letter that a text does not have stands behind it, or further on. -/
theorem splits_behind {letter : Char} {text rest front back : List Char} (absent : letter ∉ text)
    (split : text ++ letter :: rest = front ++ letter :: back) :
    front = text ∨ ∃ later, front = text ++ letter :: later ∧ rest = later ++ letter :: back := by
  rcases List.append_eq_append_iff.1 split with ⟨more, rfl, behind⟩ | ⟨more, rfl, behind⟩
  · cases more with
    | nil => exact .inl (List.append_nil _)
    | cons first later =>
        obtain ⟨rfl, rest⟩ := List.cons.inj behind
        exact .inr ⟨later, rfl, rest⟩
  · cases more with
    | nil => exact .inl (List.append_nil _).symm
    | cons first later =>
        obtain ⟨rfl, -⟩ := List.cons.inj behind
        exact absurd (List.mem_append_right _ List.mem_cons_self) absent

omit [Unicode] in
/-- A letter that stands in two places stands in no other. -/
theorem splits_twice {letter : Char} {text inner rest front back : List Char}
    (absentFront : letter ∉ text) (absentInner : letter ∉ inner) (absentBack : letter ∉ rest)
    (split : text ++ letter :: (inner ++ letter :: rest) = front ++ letter :: back) :
    front = text ∨ front = text ++ letter :: inner := by
  rcases splits_behind absentFront split with here | ⟨later, rfl, behind⟩
  · exact .inl here
  · rcases splits_behind absentInner behind with rfl | ⟨more, -, last⟩
    · exact .inr rfl
    · rw [last] at absentBack
      exact absurd (List.mem_append_right _ List.mem_cons_self) absentBack

omit [Unicode] in
theorem dataBlock_eq (body : List Char) :
    dataBlock body = ['\n'] ++ '<' ::
      (("UNTRUSTED_DATA>\n".toList ++ body ++ ['\n']) ++ '<' :: "/UNTRUSTED_DATA>\n".toList) := by
  rw [List.append_assoc, List.append_assoc]
  rfl

omit [Unicode] in
/-- Only the delimiters of a block are set in angle brackets. -/
theorem dataBlock_closed {body front back : List Char} (escaped : '<' ∉ body)
    (split : dataBlock body = front ++ '<' :: back) :
    front = ['\n'] ∨ front = ['\n'] ++ '<' :: ("UNTRUSTED_DATA>\n".toList ++ body ++ ['\n']) := by
  rw [dataBlock_eq] at split
  refine splits_twice (by decide) ?_ (by decide) split
  simp only [List.mem_append, not_or]
  exact ⟨⟨by decide, escaped⟩, by decide⟩

omit [Unicode] in
/-- The escaped text of a document is decoded to the document. -/
theorem decode_escaped {limits : Limits} (loadable : Loadable limits value) :
    decode limits (escapeAngles value.sorted.text) = some value.sorted := by
  rw [escapeAngles_eq]
  exact Respelling.decode_write (readable_sorted loadable.readable)
    (uniqueKeys_sorted loadable.unique) (nesting_sorted loadable.within)

variable {template prompt : List Char} {bindings : List (String × List Char)}

theorem rendered_parts
    (returned : renderProviderPrompt interpreter sha256 template bindings = .ok prompt) :
    ∃ objects, List.Forall₂ (ShowsBinding interpreter sha256) bindings objects
      ∧ (promptDocument objects).uniqueKeys = true ∧ (promptDocument objects).integral = true
      ∧ prompt = template ++ dataBlock (escapeAngles (promptDocument objects).sorted.text)
      ∧ Safe interpreter template ∧ Safe interpreter prompt := by
  obtain ⟨⟨⟩, front, returned⟩ := except_bind_ok returned
  obtain ⟨objects, rendered, returned⟩ := except_bind_ok returned
  obtain ⟨encoded, encoding, returned⟩ := except_bind_ok returned
  obtain ⟨⟨⟩, whole, returned⟩ := except_bind_ok returned
  cases returned
  have shows := (forall₂_of_mapM rendered).imp fun _ _ => renderedBinding_shows
  have unique : (promptDocument objects).uniqueKeys = true := by
    apply unique_promptDocument
    intro object member
    obtain ⟨binding, -, found⟩ := (mem_mapM_ok rendered object).1 member
    exact (renderedBinding_shows found).unique
  obtain ⟨integral, rfl⟩ := canonical_tree unique encoding
  exact ⟨objects, shows, unique, integral, rfl, safe_of_assert front, safe_of_assert whole⟩

/-- Every prompt that is returned is rendered so. -/
theorem renderProviderPrompt_rendered
    (returned : renderProviderPrompt interpreter sha256 template bindings = .ok prompt) :
    ∃ body objects, Rendered interpreter sha256 template bindings prompt body objects := by
  obtain ⟨objects, shows, -, -, parts, front, whole⟩ := rendered_parts returned
  refine ⟨_, objects, parts, shows, ?_, fun limits => decode_escaped, front, whole⟩
  intro front back split
  exact dataBlock_closed (fun member => (angle_escaped member).1 rfl) split

/-! ## Prompts that are the same -/

/-- Two bindings have one slot and one redacted document. -/
def SameBinding (interpreter : Interpreter) (binding other : String × List Char) : Prop :=
  binding.1 = other.1 ∧ ∃ result different, redactProjectedJson interpreter binding.2 = .ok result
    ∧ redactProjectedJson interpreter other.2 = .ok different ∧ result.data = different.data

theorem ShowsBinding.same {other : String × List Char} {object different : Json}
    (shows : ShowsBinding interpreter sha256 binding object)
    (shows' : ShowsBinding interpreter sha256 other different)
    (same : object.sorted = different.sorted) : SameBinding interpreter binding other := by
  obtain ⟨result, value, redacts, encoded, -, -, rfl⟩ := shows
  obtain ⟨result', value', redacts', encoded', -, -, rfl⟩ := shows'
  have slot : binding.1 = other.1 := str_inj (field_of_sorted same "slot")
  have document : value.sorted.sorted = value'.sorted.sorted :=
    Option.some.inj (field_of_sorted same "data")
  rw [sorted_sorted, sorted_sorted] at document
  refine ⟨slot, result, result', redacts, redacts', ?_⟩
  rw [encoded, encoded', encode, encode, document]

theorem sameBindings {others : List (String × List Char)} {objects differents : List Json}
    (shows : List.Forall₂ (ShowsBinding interpreter sha256) bindings objects)
    (shows' : List.Forall₂ (ShowsBinding interpreter sha256) others differents)
    (same : objects.map sorted = differents.map sorted) :
    List.Forall₂ (SameBinding interpreter) bindings others := by
  induction shows generalizing others differents with
  | nil =>
      rw [List.map_nil, eq_comm, List.map_eq_nil_iff] at same
      subst same
      cases shows'
      exact .nil
  | cons shown _ ih =>
      cases shows' with
      | nil => cases same
      | cons shown' rest' =>
          obtain ⟨first, rest⟩ := List.cons.inj same
          exact .cons (shown.same shown' first) (ih rest' rest)

omit [Unicode] in
theorem loadable_free {bound : Nat} (integral : value.integral = true)
    (unique : value.uniqueKeys = true) (within : value.written.nesting ≤ bound) :
    Loadable (.free bound) value :=
  ⟨readable_free integral, within, unique⟩

/-- A prompt tells the slots and the redacted documents of its bindings. -/
theorem renderProviderPrompt_determines {others : List (String × List Char)}
    (returned : renderProviderPrompt interpreter sha256 template bindings = .ok prompt)
    (again : renderProviderPrompt interpreter sha256 template others = .ok prompt) :
    List.Forall₂ (SameBinding interpreter) bindings others := by
  obtain ⟨objects, shows, unique, integral, rfl, -, -⟩ := rendered_parts returned
  obtain ⟨differents, shows', unique', integral', parts, -, -⟩ := rendered_parts again
  have block := List.append_cancel_left parts
  have body := List.append_cancel_left (List.append_cancel_right block)
  have first := decode_escaped (loadable_free integral unique (Nat.le_max_left _
    (promptDocument differents).written.nesting))
  have second := decode_escaped (loadable_free integral' unique' (Nat.le_max_right
    (promptDocument objects).written.nesting _))
  rw [body, second] at first
  have same := field_of_sorted (Option.some.inj first).symm "bindings"
  have listed := Json.arr.inj (Option.some.inj same)
  rw [sortedItems_eq_map, sortedItems_eq_map] at listed
  exact sameBindings shows shows' listed

end Prompt

namespace Concrete

/-- A prompt with one login. -/
def promptOf (password : String) : Except RedactionError (List Char) :=
  renderProviderPrompt reader (fun _ => "0") "Go.".toList [("s", (login (.str password)).text)]

/-- The prompt of a login, whatever its password is. -/
def loginPrompt : List Char :=
  "Go.".toList ++ dataBlock (escapeAngles (promptDocument
    [bindingObject (fun _ => "0") "s" [] (login (.str "[REDACTED:CREDENTIAL]"))]).sorted.text)

theorem promptOf_x : promptOf "x" = .ok loginPrompt := by decide +kernel

theorem promptOf_y : promptOf "<y>" = .ok loginPrompt := by
  have redacted : redactProjectedJson reader (login (.str "<y>")).text =
      redactProjectedJson reader (login (.str "x")).text := by decide +kernel
  rw [← promptOf_x]
  simp only [promptOf, renderProviderPrompt, List.mapM_cons, renderedBinding, redacted]

/-- A login is rendered. -/
theorem prompt_rendered :
    ∃ body objects, Rendered reader (fun _ => "0") "Go.".toList
      [("s", (login (.str "<y>")).text)] loginPrompt body objects :=
  renderProviderPrompt_rendered promptOf_y

/-- Logins that differ in their passwords have one prompt, and one redacted document. -/
theorem prompt_determines :
    List.Forall₂ (SameBinding reader) [("s", (login (.str "x")).text)]
      [("s", (login (.str "<y>")).text)] :=
  renderProviderPrompt_determines promptOf_x promptOf_y

end Concrete

end Sastsimi.Contracts
