import Sastsimi.Contracts.CanonicalLoads
import Sastsimi.Contracts.PromptRedaction

/-!
# What a redacted document shows

A reader of a redacted document opens its arrays and objects, and the documents that stand in its
strings.  Wherever that leads, nothing that the guard looks for is left; and what stood under a
secret name leaves no trace.
-/

namespace Sastsimi.Contracts

open Sastsimi.Lib Sastsimi.Runtime Json

section Guard

variable [Unicode] {interpreter : Interpreter} {value document found : Json}

/-! ## Readers -/

/-- A reader of a value comes upon another one. -/
inductive Reaches (interpreter : Interpreter) : Json → Json → Prop
  | here {value : Json} : Reaches interpreter value value
  | item {items : List Json} {item found : Json} (member : item ∈ items)
      (inside : Reaches interpreter item found) : Reaches interpreter (.arr items) found
  | field {fields : List (String × Json)} {field : String × Json} {found : Json}
      (member : field ∈ fields) (inside : Reaches interpreter field.2 found) :
      Reaches interpreter (.obj fields) found
  | nested {text : String} {document found : Json} (starts : startsJson text.toList = true)
      (loaded : loads interpreter text.toList = .value document)
      (inside : Reaches interpreter document found) : Reaches interpreter (.str text) found

/-- A value gives nothing away: a text that is no document has nothing that is guarded, and the
values under secret names are excused. -/
def Discreet (interpreter : Interpreter) : Json → Prop
  | .str text =>
      (startsJson text.toList = true → loads interpreter text.toList = .decodeError) →
        isSensitivePlain text = false
  | .obj fields => ∀ field ∈ fields, Regex.search secretKey field.1.toList = true →
      isExcused field.1 field.2 = true
  | _ => True

/-- No value that a reader comes upon gives anything away. -/
def Clean (interpreter : Interpreter) (value : Json) : Prop :=
  ∀ found, Reaches interpreter value found → Discreet interpreter found

omit [Unicode] in
theorem orElse_false {first second : Except RedactionError Bool} :
    orElse first second = .ok false ↔ first = .ok false ∧ second = .ok false := by
  cases first with
  | error error => simp [orElse]
  | ok answer => cases answer <;> simp [orElse]

/-- The guard looks at every item. -/
theorem hasSensitiveItems_false {nested : Json → Except RedactionError Bool} {items : List Json}
    (passed : hasSensitiveItems interpreter nested items = .ok false) :
    ∀ item ∈ items, hasSensitiveWith interpreter nested item = .ok false := by
  induction items with
  | nil => exact fun _ member => absurd member List.not_mem_nil
  | cons first rest ih =>
      rw [hasSensitiveItems, orElse_false] at passed
      intro item member
      rcases List.mem_cons.1 member with rfl | later
      · exact passed.1
      · exact ih passed.2 item later

/-- The guard looks at every field. -/
theorem hasSensitiveFields_false {nested : Json → Except RedactionError Bool}
    {fields : List (String × Json)}
    (passed : hasSensitiveFields interpreter nested fields = .ok false) :
    ∀ field ∈ fields, hasSensitiveWith interpreter nested field.2 = .ok false
      ∧ (Regex.search secretKey field.1.toList = true → isExcused field.1 field.2 = true) := by
  induction fields with
  | nil => exact fun _ member => absurd member List.not_mem_nil
  | cons first rest ih =>
      rw [hasSensitiveFields] at passed
      split at passed
      · cases passed
      · rename_i allowed
        rw [orElse_false] at passed
        intro field member
        rcases List.mem_cons.1 member with rfl | later
        · refine ⟨passed.1, fun secret => ?_⟩
          rw [not_and, Bool.not_eq_false] at allowed
          exact allowed secret
        · exact ih passed.2 field later

/-- What passes the guard is clean, when what passes it in strings is. -/
theorem clean_of_passed {nested : Json → Except RedactionError Bool}
    (inner : ∀ document, nested document = .ok false → Clean interpreter document)
    (passed : hasSensitiveWith interpreter nested value = .ok false) :
    Clean interpreter value := by
  induction value using byParts with
  | str text =>
      rw [hasSensitiveWith, hasSensitiveText] at passed
      intro found reaches
      cases reaches with
      | here =>
          intro plain
          split at passed
          · rename_i starts
            rw [plain starts] at passed
            exact Except.ok.inj passed
          · exact Except.ok.inj passed
      | nested starts loaded inside =>
          rw [if_pos starts, loaded] at passed
          exact inner _ passed found inside
  | arr items ih =>
      rw [hasSensitiveWith] at passed
      intro found reaches
      cases reaches with
      | here => exact trivial
      | item member inside =>
          exact ih _ member (hasSensitiveItems_false passed _ member) found inside
  | obj fields ih =>
      rw [hasSensitiveWith] at passed
      intro found reaches
      cases reaches with
      | here => exact fun field member => (hasSensitiveFields_false passed field member).2
      | field member inside =>
          exact ih _ member (hasSensitiveFields_false passed _ member).1 found inside
  | _ =>
      intro found reaches
      cases reaches with
      | here => exact trivial

theorem clean_of_nested (levels : Nat) (document : Json)
    (passed : hasSensitiveNested interpreter levels document = .ok false) :
    Clean interpreter document := by
  induction levels generalizing document with
  | zero => cases passed
  | succ levels ih => exact clean_of_passed ih passed

theorem clean_of_hasSensitiveString (passed : hasSensitiveString interpreter value = .ok false) :
    Clean interpreter value :=
  clean_of_passed (clean_of_nested 16) passed

/-! ## Sorted documents -/

omit [Unicode] in
/-- A reader of a sorted value comes upon what a reader of the value does, sorted or not. -/
theorem reaches_of_sorted {sorted : Json} (reaches : Reaches interpreter sorted found)
    (same : sorted = value.sorted) :
    ∃ original, Reaches interpreter value original
      ∧ (found = original ∨ found = original.sorted) := by
  induction reaches generalizing value with
  | here => exact ⟨value, .here, .inr same⟩
  | @item items item found member inside ih =>
      cases value with
      | arr originals =>
          rw [sorted_arr] at same
          cases same
          obtain ⟨original, present, rfl⟩ := List.mem_map.1 member
          obtain ⟨reached, reaches, facts⟩ := ih rfl
          exact ⟨reached, .item present reaches, facts⟩
      | _ => cases same
  | @field fields field found member inside ih =>
      cases value with
      | obj originals =>
          rw [sorted_obj] at same
          cases same
          obtain ⟨original, present, rfl⟩ :=
            List.mem_map.1 ((List.mem_insertionSort _).1 member)
          obtain ⟨reached, reaches, facts⟩ := ih rfl
          exact ⟨reached, .field present reaches, facts⟩
      | _ => cases same
  | nested starts loaded inside =>
      cases value with
      | str text =>
          cases same
          exact ⟨_, .nested starts loaded inside, .inl rfl⟩
      | _ => cases same

omit [Unicode] in
/-- A value that is excused is so in every order of its members. -/
theorem isExcused_sorted {key : String} (excused : isExcused key value = true) :
    isExcused key value.sorted = true := by
  cases value with
  | obj fields =>
      have symbolic : key = "credential_ref" ∧ isSymbolicCredentialReference (.obj fields) = true := by
        simpa [isExcused, isCredentialMarker, isReviewedAuthorizationMetadata,
          isSafeTypedMetadata, isOneOf, isCount] using excused
      obtain ⟨rfl, symbolic⟩ := symbolic
      rw [isSymbolicCredentialReference.eq_def] at symbolic
      split at symbolic
      · rename_i same
        rw [same]
        simp [isExcused, isSymbolicCredentialReference, sorted, sortedFields, symbolic]
      · rename_i same
        cases same
      · cases symbolic
  | arr items =>
      simp [isExcused, isCredentialMarker, isSymbolicCredentialReference,
        isReviewedAuthorizationMetadata, isSafeTypedMetadata, isOneOf, isCount] at excused
  | _ => exact excused

theorem Discreet.sorted (discreet : Discreet interpreter value) :
    Discreet interpreter value.sorted := by
  cases value with
  | obj fields =>
      rw [sorted_obj]
      intro field member secret
      obtain ⟨original, present, rfl⟩ := List.mem_map.1 ((List.mem_insertionSort _).1 member)
      exact isExcused_sorted (discreet original present secret)
  | arr items =>
      rw [sorted_arr]
      exact trivial
  | _ => exact discreet

theorem Clean.sorted (clean : Clean interpreter value) : Clean interpreter value.sorted := by
  intro found reaches
  obtain ⟨original, reached, rfl | rfl⟩ := reaches_of_sorted reaches rfl
  · exact clean _ reached
  · exact (clean original reached).sorted

/-! ## Redacted documents -/

omit [Unicode] in
theorem normalizeItems_none {items normal : List Json} {path : List String}
    (each : ∀ item ∈ items, ∀ {path normal},
      normalize (fun _ => none) false path item = .ok normal → normal = item)
    (computed : normalizeItems (fun _ => none) false path items = .ok normal) : normal = items := by
  induction items generalizing normal with
  | nil =>
      cases computed
      rfl
  | cons item rest ih =>
      obtain ⟨first, front, computed⟩ := except_bind_ok computed
      obtain ⟨others, back, computed⟩ := except_bind_ok computed
      cases computed
      rw [each item List.mem_cons_self front,
        ih (fun other member => each other (List.mem_cons_of_mem _ member)) back]

omit [Unicode] in
theorem normalizeFields_none {fields normal : List (String × Json)} {path : List String}
    (each : ∀ field ∈ fields, ∀ {path normal},
      normalize (fun _ => none) false path field.2 = .ok normal → normal = field.2)
    (computed : normalizeFields (fun _ => none) false path fields = .ok normal) :
    normal = fields := by
  induction fields generalizing normal with
  | nil =>
      cases computed
      rfl
  | cons field rest ih =>
      obtain ⟨first, front, computed⟩ := except_bind_ok computed
      obtain ⟨others, back, computed⟩ := except_bind_ok computed
      cases computed
      rw [each field List.mem_cons_self front,
        ih (fun other member => each other (List.mem_cons_of_mem _ member)) back]

omit [Unicode] in
/-- Without a set-list policy nothing is rearranged. -/
theorem normalize_none {path : List String} {normal : Json}
    (computed : normalize (fun _ => none) false path value = .ok normal) : normal = value := by
  induction value using byParts generalizing path normal with
  | float digits => cases computed
  | arr items ih =>
      obtain ⟨others, front, computed⟩ := except_bind_ok computed
      obtain ⟨ordered, back, computed⟩ := except_bind_ok computed
      cases computed
      cases back
      rw [normalizeItems_none (fun item member => ih item member) front]
  | obj fields ih =>
      obtain ⟨-, computed⟩ := raiseIf_bind_ok.1 computed
      obtain ⟨others, front, computed⟩ := except_bind_ok computed
      cases computed
      rw [normalizeFields_none (fun field member => ih field member) front]
  | _ =>
      cases computed
      rfl

omit [Unicode] in
theorem canonical_ok {bytes : List Char} (encoded : canonical value = .ok bytes) :
    canonicalBytes (fun _ => none) value = .ok bytes ∧ bytes = encode value := by
  rw [canonical] at encoded
  cases computed : canonicalBytes (fun _ => none) value with
  | error error =>
      rw [computed] at encoded
      cases encoded
  | ok found =>
      rw [computed] at encoded
      cases encoded
      obtain ⟨normal, normalized, rfl⟩ := except_map_ok computed
      rw [normalize_none normalized]
      exact ⟨rfl, rfl⟩

omit [Unicode] in
theorem refuseSensitive_ok {sensitive : Except RedactionError Bool}
    (passed : refuseSensitive sensitive = .ok ()) : sensitive = .ok false := by
  obtain ⟨answer, found, passed⟩ := except_bind_ok passed
  rw [found]
  rw [raiseIf_ok, Bool.not_eq_true] at passed
  rw [passed]

/-- What a redacted document shows to whoever decodes it. -/
structure Shows (interpreter : Interpreter) (value : Json) (data : List Char) : Prop where
  encoded : canonicalBytes (fun _ => none) value = .ok data
  clean : Clean interpreter value
  decoded : Loadable interpreter.limits value →
    Grammar.decode interpreter.limits data = some value.sorted ∧ Clean interpreter value.sorted

/-- A document that was redacted: what was decoded, what is left of it, and that this is clean. -/
theorem redactProjectedJson_ok {data : List Char} {result : RedactionResult}
    (returned : redactProjectedJson interpreter data = .ok result) :
    ∃ source left categories, Contracts.document interpreter data = .ok source
      ∧ redact interpreter source = .ok (left, categories) ∧ canonical left = .ok result.data
      ∧ Clean interpreter left := by
  obtain ⟨source, read, returned⟩ := except_bind_ok returned
  obtain ⟨⟨left, categories⟩, redacts, returned⟩ := except_bind_ok returned
  obtain ⟨encoded, encoding, returned⟩ := except_bind_ok returned
  obtain ⟨⟨⟩, passed, returned⟩ := except_bind_ok returned
  cases returned
  exact ⟨source, left, categories, read, redacts, encoding,
    clean_of_hasSensitiveString (refuseSensitive_ok passed)⟩

/-- A redacted document is that of a clean value, and decodes to it. -/
theorem redactProjectedJson_shows {data : List Char} {result : RedactionResult}
    (returned : redactProjectedJson interpreter data = .ok result) :
    ∃ value, Shows interpreter value result.data := by
  obtain ⟨-, redacted, -, -, -, encoding, clean⟩ := redactProjectedJson_ok returned
  obtain ⟨bytes, isText⟩ := canonical_ok encoding
  refine ⟨redacted, bytes, clean, ?_⟩
  intro loadable
  rw [isText]
  exact ⟨decode_sorted loadable.readable loadable.unique loadable.within, clean.sorted⟩

end Guard

namespace Concrete

/-- Characters above ASCII are no word characters. -/
instance ascii : Unicode := ⟨fun _ => false⟩

/-- An interpreter that keeps the literals of its floats. -/
def reader : Interpreter := ⟨interpreter, some⟩

/-- A user with a password. -/
def login (password : Json) : Json := .obj [("user", .str "a"), ("pwd", password)]

/-- A login is redacted, and what is left of it is clean. -/
theorem login_shows :
    redactProjectedJson reader (login (.str "x")).text =
        .ok ⟨encode (login (.str "[REDACTED:CREDENTIAL]")), [.credential]⟩
      ∧ ∃ value, Shows reader value (encode (login (.str "[REDACTED:CREDENTIAL]"))) := by
  have returned : redactProjectedJson reader (login (.str "x")).text =
      .ok ⟨encode (login (.str "[REDACTED:CREDENTIAL]")), [.credential]⟩ := by decide +kernel
  exact ⟨returned, redactProjectedJson_shows returned⟩

end Concrete

end Sastsimi.Contracts
