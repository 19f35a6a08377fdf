import Sastsimi.Contracts.RedactionGuard

/-!
# Secrets leave no trace

Documents that differ only in what stands under hidden and secret names, also in documents within
their strings, are redacted to the same bytes and the same categories.
-/

namespace Sastsimi.Contracts

open Sastsimi.Lib Sastsimi.Runtime Json

section Secrets

variable [Unicode]

/-- A reader of a value comes upon a name that hides what stands under it. -/
def Hides (interpreter : Interpreter) (value : Json) : Prop :=
  ∃ fields, Reaches interpreter value (.obj fields)
    ∧ ∃ field ∈ fields, (hidesField field.1 field.2).isSome = true

mutual

/-- Two values differ at most in what stands under names that hide it. -/
inductive Alike (interpreter : Interpreter) : Json → Json → Prop
  | same {value : Json} : Alike interpreter value value
  | arr {items others : List Json} (alike : AlikeItems interpreter items others) :
      Alike interpreter (.arr items) (.arr others)
  | obj {fields others : List (String × Json)} (alike : AlikeFields interpreter fields others) :
      Alike interpreter (.obj fields) (.obj others)
  | nested {text other : String} {document different : Json}
      (starts : startsJson text.toList = true) (starts' : startsJson other.toList = true)
      (loaded : loads interpreter text.toList = .value document)
      (loaded' : loads interpreter other.toList = .value different)
      (hides : Hides interpreter document) (alike : Alike interpreter document different) :
      Alike interpreter (.str text) (.str other)

inductive AlikeItems (interpreter : Interpreter) : List Json → List Json → Prop
  | nil : AlikeItems interpreter [] []
  | cons {item other : Json} {items others : List Json} (first : Alike interpreter item other)
      (rest : AlikeItems interpreter items others) :
      AlikeItems interpreter (item :: items) (other :: others)

inductive AlikeFields (interpreter : Interpreter) :
    List (String × Json) → List (String × Json) → Prop
  | nil : AlikeFields interpreter [] []
  | hidden {key : String} {value other : Json} {category : Category}
      {fields others : List (String × Json)} (hides : hidesField key value = some category)
      (hides' : hidesField key other = some category)
      (rest : AlikeFields interpreter fields others) :
      AlikeFields interpreter ((key, value) :: fields) ((key, other) :: others)
  | shown {key : String} {value other : Json} {fields others : List (String × Json)}
      (shows : hidesField key value = none) (shows' : hidesField key other = none)
      (first : Alike interpreter value other) (rest : AlikeFields interpreter fields others) :
      AlikeFields interpreter ((key, value) :: fields) ((key, other) :: others)

end

variable {interpreter : Interpreter} {value other : Json}

/-! ## Categories -/

theorem redactItems_found {floats : Bool}
    {nested : Json → Except RedactionError (Json × List Category)} {items redacted : List Json}
    {found : List Category}
    (returned : redactItems interpreter floats nested items = .ok (redacted, found)) {item : Json}
    (member : item ∈ items) :
    ∃ result inside, redactWith interpreter floats nested item = .ok (result, inside)
      ∧ (inside ≠ [] → found ≠ []) := by
  induction items generalizing redacted found with
  | nil => cases member
  | cons first rest ih =>
      obtain ⟨⟨result, inside⟩, front, returned⟩ := except_bind_ok returned
      obtain ⟨⟨others, more⟩, back, returned⟩ := except_bind_ok returned
      cases returned
      rcases List.mem_cons.1 member with rfl | later
      · exact ⟨result, inside, front, fun some none => some (List.append_eq_nil_iff.1 none).1⟩
      · obtain ⟨deep, within, redacts, some⟩ := ih back later
        refine ⟨deep, within, redacts, fun nonempty none => ?_⟩
        exact some nonempty (List.append_eq_nil_iff.1 none).2

theorem redactFields_found {floats : Bool}
    {nested : Json → Except RedactionError (Json × List Category)}
    {fields redacted : List (String × Json)} {found : List Category}
    (returned : redactFields interpreter floats nested fields = .ok (redacted, found))
    {field : String × Json} (member : field ∈ fields) :
    ((hidesField field.1 field.2).isSome = true → found ≠ [])
      ∧ (hidesField field.1 field.2 = none → ∃ result inside,
        redactWith interpreter floats nested field.2 = .ok (result, inside)
          ∧ (inside ≠ [] → found ≠ [])) := by
  induction fields generalizing redacted found with
  | nil => cases member
  | cons first rest ih =>
      rw [redactFields] at returned
      split at returned
      · rename_i category hides
        obtain ⟨⟨others, more⟩, back, returned⟩ := except_bind_ok returned
        cases returned
        refine ⟨fun _ => List.cons_ne_nil _ _, fun shows => ?_⟩
        rcases List.mem_cons.1 member with rfl | later
        · rw [hides] at shows
          cases shows
        · obtain ⟨result, inside, redacts, -⟩ := (ih back later).2 shows
          exact ⟨result, inside, redacts, fun _ => List.cons_ne_nil _ _⟩
      · rename_i visible
        obtain ⟨⟨result, inside⟩, front, returned⟩ := except_bind_ok returned
        obtain ⟨⟨others, more⟩, back, returned⟩ := except_bind_ok returned
        cases returned
        rcases List.mem_cons.1 member with rfl | later
        · refine ⟨fun hides => ?_, fun _ => ⟨result, inside, front, fun some none => ?_⟩⟩
          · rw [visible] at hides
            cases hides
          · exact some (List.append_eq_nil_iff.1 none).1
        · obtain ⟨hidden, shown⟩ := ih back later
          refine ⟨fun hides none => hidden hides (List.append_eq_nil_iff.1 none).2, fun shows => ?_⟩
          obtain ⟨deep, within, redacts, some⟩ := shown shows
          exact ⟨deep, within, redacts, fun nonempty none =>
            some nonempty (List.append_eq_nil_iff.1 none).2⟩

/-- The redaction of a string reports what that of the document in it does. -/
theorem redactText_found {nested : Json → Except RedactionError (Json × List Category)}
    {text : String} {document redacted : Json} {found : List Category}
    (starts : startsJson text.toList = true)
    (loaded : loads interpreter text.toList = .value document)
    (returned : redactText interpreter nested text = .ok (redacted, found)) :
    ∃ result inside, nested document = .ok (result, inside) ∧ (inside ≠ [] → found = inside) := by
  rw [redactText, if_pos starts, loaded] at returned
  simp only at returned
  split at returned
  · cases returned
  · rename_i result inner
    exact ⟨result, [], inner, fun some => absurd rfl some⟩
  · rename_i result first more inner
    obtain ⟨encoded, -, same⟩ := except_map_ok returned
    cases same
    exact ⟨result, first :: more, inner, fun _ => rfl⟩

/-- A name that hides something is reported, however deep a reader comes upon it. -/
theorem found_of_hides {target : Json} {fields : List (String × Json)} {field : String × Json}
    (member : field ∈ fields) (hides : (hidesField field.1 field.2).isSome = true)
    (reaches : Reaches interpreter value target) (same : target = .obj fields) {floats : Bool}
    {levels : Nat} {redacted : Json} {found : List Category}
    (returned : redactWith interpreter floats (redactNested interpreter levels) value
      = .ok (redacted, found)) :
    found ≠ [] := by
  induction reaches generalizing floats levels redacted found with
  | here =>
      subst same
      obtain ⟨⟨others, within⟩, inner, returned⟩ := except_map_ok returned
      cases returned
      exact (redactFields_found inner member).1 hides
  | item present inside ih =>
      obtain ⟨⟨others, within⟩, inner, returned⟩ := except_map_ok returned
      cases returned
      obtain ⟨result, deep, redacts, some⟩ := redactItems_found inner present
      exact some (ih same redacts)
  | @field outer entry _ present inside ih =>
      obtain ⟨⟨others, within⟩, inner, returned⟩ := except_map_ok returned
      cases returned
      obtain ⟨hidden, shown⟩ := redactFields_found inner present
      cases visible : hidesField entry.1 entry.2 with
      | some category => exact hidden (by rw [visible]; rfl)
      | none =>
          obtain ⟨result, deep, redacts, some⟩ := shown visible
          exact some (ih same redacts)
  | nested starts loaded inside ih =>
      rw [redactWith] at returned
      obtain ⟨result, deep, redacts, report⟩ := redactText_found starts loaded returned
      cases levels with
      | zero => cases redacts
      | succ levels =>
          have some := ih same redacts
          rw [report some]
          exact some

/-! ## Traces -/

mutual

/-- Values that differ only in what is hidden are redacted alike. -/
theorem redactWith_alike {value other : Json} (alike : Alike interpreter value other)
    (floats : Bool) (levels : Nat) :
    redactWith interpreter floats (redactNested interpreter levels) value =
      redactWith interpreter floats (redactNested interpreter levels) other := by
  match alike with
  | .same => rfl
  | .arr items => rw [redactWith, redactWith, redactItems_alike items]
  | .obj fields => rw [redactWith, redactWith, redactFields_alike fields]
  | @Alike.nested _ _ _ _ document different starts starts' loaded loaded' hides inner =>
      have same : redactNested interpreter levels document =
          redactNested interpreter levels different := by
        cases levels with
        | zero => rfl
        | succ levels => exact redactWith_alike inner true levels
      obtain ⟨fields, reaches, field, member, hides⟩ := hides
      rw [redactWith, redactWith, redactText, redactText, if_pos starts, if_pos starts']
      simp only [loaded, loaded', same]
      cases redacts : redactNested interpreter levels different with
      | error error => rfl
      | ok result =>
          obtain ⟨redacted, found⟩ := result
          have some : found ≠ [] := by
            rw [← same] at redacts
            cases levels with
            | zero => cases redacts
            | succ levels => exact found_of_hides member hides reaches rfl redacts
          cases found with
          | nil => exact absurd rfl some
          | cons first more => rfl

theorem redactItems_alike {items others : List Json} (alike : AlikeItems interpreter items others)
    (floats : Bool) (levels : Nat) :
    redactItems interpreter floats (redactNested interpreter levels) items =
      redactItems interpreter floats (redactNested interpreter levels) others := by
  match alike with
  | .nil => rfl
  | .cons first rest =>
      rw [redactItems, redactItems, redactWith_alike first, redactItems_alike rest]

theorem redactFields_alike {fields others : List (String × Json)}
    (alike : AlikeFields interpreter fields others) (floats : Bool) (levels : Nat) :
    redactFields interpreter floats (redactNested interpreter levels) fields =
      redactFields interpreter floats (redactNested interpreter levels) others := by
  match alike with
  | .nil => rfl
  | .hidden hides hides' rest =>
      rw [redactFields, redactFields, hides, hides', redactFields_alike rest]
  | .shown shows shows' first rest =>
      rw [redactFields, redactFields, shows, shows', redactWith_alike first,
        redactFields_alike rest]

end

end Secrets

/-- The text of a value that an interpreter loads is loaded. -/
theorem loads_text {interpreter : Interpreter} {value : Json}
    (loadable : Loadable interpreter.limits value) : loads interpreter value.text = .value value := by
  rw [loads, decode_text loadable.readable loadable.unique loadable.within]

namespace Concrete

end Concrete

end Sastsimi.Contracts
