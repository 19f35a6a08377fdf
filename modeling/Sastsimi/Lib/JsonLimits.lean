import Sastsimi.Lib.JsonDecoding

/-!
# Decoders without limits

What a decoder reads within its limits, one without limits on literals reads as the same value.
-/

namespace Sastsimi.Lib.Grammar

open Json

/-- Every literal is converted, and values nest as deep as the bound. -/
def Limits.free (bound : Nat) : Limits := ⟨fun _ => true, bound⟩

section Looser

variable {limits : Limits} {text : List Char} {value : Value} {bound : Nat}

theorem scanScalar_free {rest : List Char} (scanned : scanScalar limits text = some (value, rest)) :
    scanScalar (.free bound) text = some (value, rest) := by
  rw [scanScalar] at scanned ⊢
  split at scanned
  · exact scanned
  · split at scanned
    · split at scanned
      · simpa [Limits.free] using scanned
      · cases scanned
    · cases scanned

theorem Text.free (isText : Text limits value text) : Text (.free bound) value text := by
  induction value using Value.byParts generalizing text with
  | arr items ih =>
      cases isText with
      | scalar scanned => exact .scalar (scanScalar_free scanned)
      | emptyArr space => exact .emptyArr space
      | arr elements =>
          have items := elements.and fun item member {text} => @ih item member text
          exact .arr (items.imp fun item text both => both.2 both.1)
  | obj fields ih =>
      cases isText with
      | scalar scanned => exact .scalar (scanScalar_free scanned)
      | emptyObj space => exact .emptyObj space
      | obj elements =>
          have fields := elements.and fun field member {text} => @ih field member text
          refine .obj (fields.imp fun field text both => both.1.self.imp ?_)
          rintro content text ⟨isText, rfl⟩
          exact both.2 isText
  | str codes =>
      cases isText with
      | scalar scanned => exact .scalar (scanScalar_free scanned)
      | str string => exact .str string
  | _ =>
      cases isText with
      | scalar scanned => exact .scalar (scanScalar_free scanned)

theorem loads_free (loaded : loads limits text = some value) (within : value.nesting ≤ bound) :
    loads (.free bound) text = some value := by
  obtain ⟨⟨before, token, behind, split, space, isText, spaceBehind⟩, -⟩ := loads_iff.1 loaded
  exact loads_iff.2 ⟨⟨before, token, behind, split, space, isText.free, spaceBehind⟩, within⟩

/-- A decoder with another limit reads the same. -/
theorem decode_free {value : Json} (decoded : decode limits text = some value) :
    ∃ least, ∀ bound, least ≤ bound → decode (.free bound) text = some value := by
  obtain ⟨loaded, found, kept⟩ := Option.bind_eq_some_iff.1 decoded
  refine ⟨loaded.nesting, fun bound within => ?_⟩
  rw [decode, loads_free found within]
  exact kept

end Looser

/-! ## Values without floats -/

theorem readable_free {value : Json} {bound : Nat} (integral : value.integral = true) :
    value.readable (.free bound) = true := by
  induction value using byParts with
  | float digits => cases integral
  | int number => rfl
  | arr items ih =>
      rw [readable_arr]
      exact fun item member => ih item member (integral_arr.1 integral item member)
  | obj fields ih =>
      rw [readable_obj]
      exact fun field member => ih field member (integral_obj.1 integral field member)
  | _ => rfl

/-- What the encoder wrote of a value without floats is decoded to that value, under all limits
that it is decoded under. -/
theorem decode_written {limits : Limits} {value found : Json} (integral : value.integral = true)
    (unique : value.uniqueKeys = true) (decoded : decode limits value.sorted.text = some found) :
    found = value.sorted := by
  obtain ⟨least, free⟩ := decode_free decoded
  have sorted : decode (.free (max least value.written.nesting)) value.sorted.text =
      some value.sorted :=
    decode_sorted (readable_free integral) unique (Nat.le_max_right _ _)
  rw [free _ (Nat.le_max_left _ _)] at sorted
  exact Option.some.inj sorted

/-! ## Keys of dictionaries -/

theorem unique_itemsJson? {items : List Value} {values : List Json}
    (each : ∀ item ∈ items, ∀ value, item.json? = some value → value.uniqueKeys = true)
    (decoded : itemsJson? items = some values) : ∀ value ∈ values, value.uniqueKeys = true := by
  induction items generalizing values with
  | nil =>
      cases decoded
      exact fun _ member => absurd member List.not_mem_nil
  | cons item rest ih =>
      obtain ⟨first, found, decoded⟩ := Option.bind_eq_some_iff.1 decoded
      obtain ⟨others, behind, decoded⟩ := Option.bind_eq_some_iff.1 decoded
      cases decoded
      intro value member
      rcases List.mem_cons.1 member with rfl | later
      · exact each item List.mem_cons_self _ found
      · exact ih (fun other member => each other (List.mem_cons_of_mem _ member)) behind value later

theorem unique_fieldsJson? {fields : List (List Nat × Value)} {built values : List (String × Json)}
    (each : ∀ field ∈ fields, ∀ value, field.2.json? = some value → value.uniqueKeys = true)
    (unique : (Json.obj built).uniqueKeys = true)
    (decoded : fieldsJson? built fields = some values) : (Json.obj values).uniqueKeys = true := by
  induction fields generalizing built with
  | nil =>
      cases decoded
      exact unique
  | cons field rest ih =>
      obtain ⟨codes, content⟩ := field
      obtain ⟨key, -, decoded⟩ := Option.bind_eq_some_iff.1 decoded
      obtain ⟨value, found, decoded⟩ := Option.bind_eq_some_iff.1 decoded
      refine ih (fun other member => each other (List.mem_cons_of_mem _ member)) ?_ decoded
      rw [uniqueKeys_obj] at unique ⊢
      refine ⟨keys_assign_nodup unique.1, fun entry member => ?_⟩
      rcases mem_assign member with rfl | old
      · exact each (codes, content) List.mem_cons_self _ found
      · exact unique.2 entry old

/-- A decoded value has dictionaries with distinct keys. -/
theorem unique_json? {value : Value} {found : Json} (decoded : value.json? = some found) :
    found.uniqueKeys = true := by
  induction value using Value.byParts generalizing found with
  | number literal =>
      cases decoded
      rw [numberOf]
      split <;> rfl
  | str codes =>
      obtain ⟨text, -, rfl⟩ := Option.map_eq_some_iff.1 decoded
      rfl
  | arr items ih =>
      obtain ⟨values, mapped, rfl⟩ := Option.map_eq_some_iff.1 decoded
      rw [uniqueKeys_arr]
      exact unique_itemsJson? (fun item member value => @ih item member value) mapped
  | obj fields ih =>
      obtain ⟨values, mapped, rfl⟩ := Option.map_eq_some_iff.1 decoded
      exact unique_fieldsJson? (fun field member value => @ih field member value) rfl mapped
  | _ =>
      cases decoded
      rfl

theorem unique_decode {limits : Limits} {text : List Char} {value : Json}
    (decoded : decode limits text = some value) : value.uniqueKeys = true := by
  obtain ⟨loaded, -, kept⟩ := Option.bind_eq_some_iff.1 decoded
  exact unique_json? kept

end Sastsimi.Lib.Grammar
