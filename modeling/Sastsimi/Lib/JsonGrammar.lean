import Sastsimi.Lib.JsonTokens

/-!
# The grammar of JSON texts

The texts of a value, without the spaces around them, and a decoder: what it scans is the text of
its value, and every text of a value is scanned as that value.
-/

namespace Sastsimi.Lib.Grammar

/-! ## Texts of values -/

/-- Items with spaces around them, separated by commas, up to a closing bracket. -/
inductive Elements {α : Type} (element : α → List Char → Prop) (close : Char) :
    List α → List Char → Prop where
  | last {item : α} {before text behind : List Char} :
      Spaces before → element item text → Spaces behind →
      Elements element close [item] (before ++ (text ++ (behind ++ [close])))
  | more {item : α} {items : List α} {before text behind rest : List Char} :
      Spaces before → element item text → Spaces behind → Elements element close items rest →
      Elements element close (item :: items) (before ++ (text ++ (behind ++ ',' :: rest)))

/-- A key and its value. -/
inductive Member (value : Value → List Char → Prop) : List Nat × Value → List Char → Prop where
  | mk {raw before behind text : List Char} {units : List Nat} {content : Value} :
      StringText raw units → Spaces before → Spaces behind → value content text →
      Member value (joinSurrogates units, content)
        ('"' :: (raw ++ '"' :: (before ++ ':' :: (behind ++ text))))

/-- The texts of a value, without spaces around them. -/
inductive Text (limits : Limits) : Value → List Char → Prop where
  | scalar {value : Value} {token : List Char} :
      scanScalar limits token = some (value, []) → Text limits value token
  | str {raw : List Char} {units : List Nat} :
      StringText raw units → Text limits (.str (joinSurrogates units)) ('"' :: (raw ++ ['"']))
  | emptyArr {inside : List Char} :
      Spaces inside → Text limits (.arr []) ('[' :: (inside ++ [']']))
  | arr {items : List Value} {text : List Char} :
      Elements (Text limits) ']' items text → Text limits (.arr items) ('[' :: text)
  | emptyObj {inside : List Char} :
      Spaces inside → Text limits (.obj []) ('\x7b' :: (inside ++ ['\x7d']))
  | obj {fields : List (List Nat × Value)} {text : List Char} :
      Elements (Member (Text limits)) '\x7d' fields text →
      Text limits (.obj fields) ('\x7b' :: text)

/-- The first item may have more spaces in front of it. -/
theorem Elements.spaced {α : Type} {element : α → List Char → Prop} {close : Char} {items : List α}
    {spaces text : List Char} (space : Spaces spaces)
    (elements : Elements element close items text) :
    Elements element close items (spaces ++ text) := by
  cases elements with
  | last before item behind =>
      rw [← List.append_assoc]
      exact .last (space.append before) item behind
  | more before item behind rest =>
      rw [← List.append_assoc]
      exact .more (space.append before) item behind rest

/-! ## Decoding -/

/-- The items up to a closing bracket, of which there is at least one. -/
def scanElements {α : Type} (element : List Char → Option (α × List Char)) (close : Char) :
    Nat → List Char → Option (List α × List Char)
  | 0, _ => none
  | fuel + 1, text =>
      match element (skipSpaces text) with
      | none => none
      | some (item, rest) =>
          match skipSpaces rest with
          | [] => none
          | next :: rest =>
              if next = close then some ([item], rest)
              else if next = ',' then
                (scanElements element close fuel rest).map fun (items, rest) =>
                  (item :: items, rest)
              else none

def scanMember (value : List Char → Option (Value × List Char)) :
    List Char → Option ((List Nat × Value) × List Char)
  | '"' :: text =>
      match scanString text with
      | none => none
      | some (units, rest) =>
          match skipSpaces rest with
          | ':' :: rest =>
              (value (skipSpaces rest)).map fun (content, rest) =>
                ((joinSurrogates units, content), rest)
          | _ => none
  | _ => none

/-- The value in front of a text; every value that is entered takes fuel. -/
def scanValue (limits : Limits) : Nat → List Char → Option (Value × List Char)
  | 0, _ => none
  | fuel + 1, text =>
      match text with
      | '"' :: rest =>
          (scanString rest).map fun (units, rest) => (.str (joinSurrogates units), rest)
      | '[' :: rest =>
          match skipSpaces rest with
          | ']' :: rest => some (.arr [], rest)
          | rest =>
              (scanElements (scanValue limits fuel) ']' fuel rest).map fun (items, rest) =>
                (.arr items, rest)
      | '\x7b' :: rest =>
          match skipSpaces rest with
          | '\x7d' :: rest => some (.obj [], rest)
          | rest =>
              (scanElements (scanMember (scanValue limits fuel)) '\x7d' fuel rest).map
                fun (fields, rest) => (.obj fields, rest)
      | text => scanScalar limits text

mutual

/-- How deep arrays and objects are nested in a value. -/
def Value.nesting : Value → Nat
  | .arr items => nestingItems items + 1
  | .obj fields => nestingFields fields + 1
  | _ => 0

def nestingItems : List Value → Nat
  | [] => 0
  | item :: items => max item.nesting (nestingItems items)

def nestingFields : List (List Nat × Value) → Nat
  | [] => 0
  | (_, content) :: fields => max content.nesting (nestingFields fields)

end

/-- What holds of a value if it holds of its items and fields holds of every value. -/
theorem Value.byParts {motive : Value → Prop} (null : motive .null)
    (bool : ∀ value, motive (.bool value)) (number : ∀ literal, motive (.number literal))
    (str : ∀ codes, motive (.str codes))
    (arr : ∀ items : List Value, (∀ item ∈ items, motive item) → motive (.arr items))
    (obj : ∀ fields : List (List Nat × Value), (∀ field ∈ fields, motive field.2) →
      motive (.obj fields)) (value : Value) : motive value := by
  refine @Value.rec motive (fun items => ∀ item ∈ items, motive item)
    (fun fields => ∀ field ∈ fields, motive field.2) (fun field => motive field.2)
    null bool number str arr obj ?noItem ?item ?noField ?field (fun _ _ content => content) value
  case noItem | noField => exact fun _ member => absurd member List.not_mem_nil
  case item | field =>
    intro first rest head tail item member
    rcases List.mem_cons.1 member with rfl | later
    · exact head
    · exact tail item later

/-- `json.loads`: the value that a text consists of, if its nesting is within the limits. -/
def loads (limits : Limits) (text : List Char) : Option Value :=
  match scanValue limits (text.length + 1) (skipSpaces text) with
  | none => none
  | some (value, rest) =>
      if skipSpaces rest = [] ∧ value.nesting ≤ limits.nesting then some value else none

/-! ## Scanned texts are texts of their values -/

section Sound

variable {α : Type} {limits : Limits} {text rest : List Char}

/-- A scanner of items reads texts of them, where they are delimited. -/
def ScansItems (element : List Char → Option (α × List Char)) (written : α → List Char → Prop) :
    Prop :=
  ∀ text item rest, element text = some (item, rest) →
    ∃ token, text = token ++ rest ∧ (Delimited rest → written item token)

theorem delimited_behind {behind : List Char} (space : Spaces behind) {next : Char}
    (delimits : isDelimiter next = true) (rest : List Char) :
    Delimited (behind ++ next :: rest) := by
  cases behind with
  | nil => exact .cons delimits
  | cons first later => exact .cons (delimiter_of_space (space first List.mem_cons_self))

theorem scanElements_sound {element : List Char → Option (α × List Char)}
    {written : α → List Char → Prop} {close : Char} {fuel : Nat} {items : List α}
    (scans : ScansItems element written) (closes : isDelimiter close = true)
    (found : scanElements element close fuel text = some (items, rest)) :
    ∃ token, text = token ++ rest ∧ Elements written close items token := by
  induction fuel generalizing text items with
  | zero => cases found
  | succ fuel ih =>
      rw [scanElements] at found
      obtain ⟨before, spaceBefore, splitBefore⟩ := skipSpaces_spec text
      split at found
      · cases found
      · rename_i item left read
        obtain ⟨token, split, isWritten⟩ := scans _ _ _ read
        obtain ⟨behind, spaceBehind, splitBehind⟩ := skipSpaces_spec left
        split at found
        · cases found
        · rename_i next tail behindItem
          rw [behindItem] at splitBehind
          have parts : text = before ++ (token ++ (behind ++ next :: tail)) := by
            rw [← splitBehind, ← split, ← splitBefore]
          split at found
          · rename_i closed
            cases found
            rw [closed] at parts splitBehind
            refine ⟨_, ?_, .last spaceBefore
              (isWritten (splitBehind ▸ delimited_behind spaceBehind closes rest)) spaceBehind⟩
            rw [parts]
            simp
          · split at found
            · rename_i comma
              rw [Option.map_eq_some_iff] at found
              obtain ⟨⟨others, left⟩, more, same⟩ := found
              obtain ⟨rfl, rfl⟩ := Prod.mk.inj same
              obtain ⟨later, rfl, elements⟩ := ih more
              have delimits : isDelimiter ',' = true := by decide
              rw [comma] at parts splitBehind
              refine ⟨_, ?_, .more spaceBefore
                (isWritten (splitBehind ▸ delimited_behind spaceBehind delimits _))
                spaceBehind elements⟩
              rw [parts]
              simp
            · cases found

theorem scanMember_sound {value : List Char → Option (Value × List Char)}
    {written : Value → List Char → Prop} (scans : ScansItems value written) :
    ScansItems (scanMember value) (Member written) := by
  intro text member rest found
  rw [scanMember.eq_def] at found
  split at found
  · split at found
    · cases found
    · rename_i units left string
      obtain ⟨raw, rfl, isString⟩ := scanString_sound string
      obtain ⟨before, spaceBefore, splitBefore⟩ := skipSpaces_spec left
      split at found
      · rename_i tail colon
        rw [Option.map_eq_some_iff] at found
        obtain ⟨⟨content, left'⟩, read, same⟩ := found
        obtain ⟨rfl, rfl⟩ := Prod.mk.inj same
        obtain ⟨behind, spaceBehind, splitBehind⟩ := skipSpaces_spec tail
        obtain ⟨token, split, isWritten⟩ := scans _ _ _ read
        refine ⟨_, ?_, fun delimited => .mk isString spaceBefore spaceBehind
          (isWritten delimited)⟩
        rw [splitBefore, colon, splitBehind, split]
        simp
      · cases found
  · cases found

/-- What is scanned in front of a delimiter is the text of the value. -/
theorem scanValue_sound (fuel : Nat) : ScansItems (scanValue limits fuel) (Text limits) := by
  induction fuel with
  | zero =>
      intro text value rest found
      cases found
  | succ fuel ih =>
      intro text value rest found
      rw [scanValue.eq_def] at found
      simp only at found
      split at found
      · rw [Option.map_eq_some_iff] at found
        obtain ⟨⟨units, left⟩, read, same⟩ := found
        obtain ⟨rfl, rfl⟩ := Prod.mk.inj same
        obtain ⟨raw, rfl, string⟩ := scanString_sound read
        exact ⟨_, by simp, fun _ => .str string⟩
      · rename_i inside
        obtain ⟨before, space, split⟩ := skipSpaces_spec inside
        split at found
        · rename_i tail closed
          cases found
          rw [closed] at split
          exact ⟨_, by rw [split]; simp, fun _ => .emptyArr space⟩
        · rw [Option.map_eq_some_iff] at found
          obtain ⟨⟨items, left⟩, read, same⟩ := found
          obtain ⟨rfl, rfl⟩ := Prod.mk.inj same
          obtain ⟨token, tokens, elements⟩ := scanElements_sound ih (by decide) read
          refine ⟨'[' :: (before ++ token), ?_, fun _ => .arr (elements.spaced space)⟩
          rw [split, tokens]
          simp
      · rename_i inside
        obtain ⟨before, space, split⟩ := skipSpaces_spec inside
        split at found
        · rename_i tail closed
          cases found
          rw [closed] at split
          exact ⟨_, by rw [split]; simp, fun _ => .emptyObj space⟩
        · rw [Option.map_eq_some_iff] at found
          obtain ⟨⟨fields, left⟩, read, same⟩ := found
          obtain ⟨rfl, rfl⟩ := Prod.mk.inj same
          obtain ⟨token, tokens, elements⟩ :=
            scanElements_sound (scanMember_sound ih) (by decide) read
          refine ⟨'\x7b' :: (before ++ token), ?_, fun _ => .obj (elements.spaced space)⟩
          rw [split, tokens]
          simp
      · obtain ⟨token, split, _, _, again⟩ := scanScalar_reads found
        refine ⟨token, split, fun _ => .scalar ?_⟩
        have alone := again [] .nil
        rwa [List.append_nil] at alone

end Sound

/-! ## Texts are scanned as their values -/

/-- The text begins with a character that is no delimiter. -/
def Starts (text : List Char) : Prop :=
  ∃ first rest, text = first :: rest ∧ isDelimiter first = false

section Complete

variable {α : Type} {limits : Limits} {text rest : List Char}

theorem Starts.stops (starts : Starts text) (rest : List Char) : Stops isSpace (text ++ rest) := by
  obtain ⟨first, tail, rfl, plain⟩ := starts
  refine .cons ?_
  simp only [isDelimiter, Bool.or_eq_false_iff] at plain
  exact plain.2

theorem scanElements_complete {element : List Char → Option (α × List Char)}
    {written : α → List Char → Prop} {close : Char} {bound fuel : Nat} {items : List α}
    (complete : ∀ item text, written item text → text.length < bound →
      Starts text ∧ ∀ rest, Delimited rest → element (text ++ rest) = some (item, rest))
    (closes : isDelimiter close = true) (notSpace : isSpace close = false) (notComma : close ≠ ',')
    (elements : Elements written close items text) (short : text.length ≤ bound)
    (fueled : text.length ≤ fuel) (rest : List Char) :
    scanElements element close fuel (text ++ rest) = some (items, rest) := by
  induction elements generalizing fuel with
  | @last item before token behind spaceBefore isWritten spaceBehind =>
      simp only [List.length_append, List.length_cons, List.length_nil] at short fueled
      obtain ⟨starts, read⟩ := complete item token isWritten (by omega)
      obtain ⟨fuel, rfl⟩ := Nat.exists_eq_succ_of_ne_zero (by omega : fuel ≠ 0)
      have front := skipSpaces_append spaceBefore (starts.stops (behind ++ close :: rest))
      have ends : Stops isSpace (close :: rest) := .cons notSpace
      have back := skipSpaces_append spaceBehind ends
      have item := read _ (delimited_behind spaceBehind closes rest)
      simp [scanElements, front, item, back]
  | @more item items before token behind later spaceBefore isWritten spaceBehind _ ih =>
      simp only [List.length_append, List.length_cons] at short fueled
      obtain ⟨starts, read⟩ := complete item token isWritten (by omega)
      obtain ⟨fuel, rfl⟩ := Nat.exists_eq_succ_of_ne_zero (by omega : fuel ≠ 0)
      have front := skipSpaces_append spaceBefore
        (starts.stops (behind ++ ',' :: (later ++ rest)))
      have ends : Stops isSpace (',' :: (later ++ rest)) := .cons (by decide)
      have back := skipSpaces_append spaceBehind ends
      have comma : isDelimiter ',' = true := by decide
      have item := read _ (delimited_behind spaceBehind comma (later ++ rest))
      have others : scanElements element close fuel (later ++ rest) = some (items, rest) :=
        ih (by omega) (by omega)
      simp [scanElements, front, item, back, notComma.symm, others]

theorem Member.starts {written : Value → List Char → Prop} {member : List Nat × Value}
    (isMember : Member written member text) : Starts text := by
  cases isMember with
  | mk => exact ⟨'"', _, rfl, by decide⟩

theorem scanMember_complete {value : List Char → Option (Value × List Char)}
    {written : Value → List Char → Prop} {bound : Nat} {member : List Nat × Value}
    (complete : ∀ item text, written item text → text.length < bound →
      Starts text ∧ ∀ rest, Delimited rest → value (text ++ rest) = some (item, rest))
    (isMember : Member written member text) (short : text.length < bound)
    (delimited : Delimited rest) : scanMember value (text ++ rest) = some (member, rest) := by
  cases isMember with
  | @mk raw before behind token units content string spaceBefore spaceBehind isWritten =>
      simp only [List.length_append, List.length_cons] at short
      obtain ⟨starts, read⟩ := complete content token isWritten (by omega)
      have key := scanString_complete string
        (before ++ ':' :: (behind ++ (token ++ rest)))
      have ends : Stops isSpace (':' :: (behind ++ (token ++ rest))) := .cons (by decide)
      have front := skipSpaces_append spaceBefore ends
      have back := skipSpaces_append spaceBehind (starts.stops rest)
      simp [scanMember, key, front, back, read rest delimited]

theorem Text.starts {value : Value} (isText : Text limits value text) : Starts text := by
  cases isText with
  | scalar read =>
      obtain ⟨token, split, nonempty, plain, _⟩ := scanScalar_reads read
      rw [List.append_nil] at split
      cases token with
      | nil => exact absurd rfl nonempty
      | cons first tail =>
          exact ⟨first, tail, split, delimiter_of_plain (plain first List.mem_cons_self)⟩
  | str | emptyArr | arr | emptyObj | obj => exact ⟨_, _, rfl, by decide⟩

/-- Behind spaces the items begin with no delimiter. -/
theorem Elements.opens {written : α → List Char → Prop} {close : Char} {items : List α}
    (starts : ∀ item text, written item text → Starts text)
    (elements : Elements written close items text) :
    ∃ before token, text = before ++ token ∧ Spaces before ∧ Starts token
      ∧ Elements written close items token := by
  have nothing : Spaces [] := fun _ member => absurd member List.not_mem_nil
  cases elements with
  | @last item before token behind space isWritten spaceBehind =>
      obtain ⟨first, tail, rfl, plain⟩ := starts item _ isWritten
      exact ⟨before, _, rfl, space, ⟨first, tail ++ (behind ++ [close]), rfl, plain⟩,
        .last nothing isWritten spaceBehind⟩
  | @more item items before token behind later space isWritten spaceBehind rest =>
      obtain ⟨first, tail, rfl, plain⟩ := starts item _ isWritten
      exact ⟨before, _, rfl, space, ⟨first, tail ++ (behind ++ ',' :: later), rfl, plain⟩,
        .more nothing isWritten spaceBehind rest⟩

theorem Starts.not_close {close : Char} (starts : Starts text) (closes : isDelimiter close = true) :
    ∃ first tail, text = first :: tail ∧ first ≠ close := by
  obtain ⟨first, tail, same, plain⟩ := starts
  refine ⟨first, tail, same, fun equal => ?_⟩
  rw [equal, closes] at plain
  cases plain

theorem scanValue_complete {fuel : Nat} {value : Value} (isText : Text limits value text)
    (fueled : text.length < fuel) (delimited : Delimited rest) :
    scanValue limits fuel (text ++ rest) = some (value, rest) := by
  induction fuel generalizing text value rest with
  | zero => cases fueled
  | succ fuel ih =>
      have complete : ∀ item text, Text limits item text → text.length < fuel →
          Starts text ∧ ∀ rest, Delimited rest →
            scanValue limits fuel (text ++ rest) = some (item, rest) :=
        fun item text isText short =>
          ⟨isText.starts, fun rest delimited => ih isText short delimited⟩
      cases isText with
      | scalar read =>
          obtain ⟨token, split, nonempty, plain, again⟩ := scanScalar_reads read
          rw [List.append_nil] at split
          subst split
          have whole := again rest delimited
          rw [scanValue.eq_def]
          simp only
          cases text with
          | nil => exact absurd rfl nonempty
          | cons first tail =>
              have plainFirst := plain first List.mem_cons_self
              split
              · rename_i same
                rw [(List.cons.inj same).1] at plainFirst
                exact absurd plainFirst (by decide)
              · rename_i same
                rw [(List.cons.inj same).1] at plainFirst
                exact absurd plainFirst (by decide)
              · rename_i same
                rw [(List.cons.inj same).1] at plainFirst
                exact absurd plainFirst (by decide)
              · exact whole
      | str string =>
          simp [scanValue, scanString_complete string]
      | @emptyArr inside space =>
          have ends : Stops isSpace (']' :: rest) := .cons (by decide)
          have skipped := skipSpaces_append space ends
          simp [scanValue, skipped]
      | @arr items token elements =>
          obtain ⟨before, inner, rfl, space, starts, elements⟩ :=
            elements.opens fun _ _ isText => Text.starts isText
          have inside : inner.length ≤ fuel := by
            rw [List.length_cons, List.length_append] at fueled
            omega
          have scanned := scanElements_complete complete (by decide) (by decide)
            (by decide) elements inside inside rest
          have skipped := skipSpaces_append space (starts.stops rest)
          obtain ⟨first, tail, rfl, notClose⟩ :=
            starts.not_close (by decide : isDelimiter ']' = true)
          rw [List.cons_append] at scanned skipped
          simp [scanValue, skipped, notClose, scanned]
      | @emptyObj inside space =>
          have ends : Stops isSpace ('\x7d' :: rest) := .cons (by decide)
          have skipped := skipSpaces_append space ends
          simp [scanValue, skipped]
      | @obj fields token elements =>
          obtain ⟨before, inner, rfl, space, starts, elements⟩ :=
            elements.opens fun _ _ isMember => Member.starts isMember
          have inside : inner.length ≤ fuel := by
            rw [List.length_cons, List.length_append] at fueled
            omega
          have scanned := scanElements_complete
            (fun member text isMember short => ⟨isMember.starts, fun rest delimited =>
              scanMember_complete complete isMember short delimited⟩)
            (by decide) (by decide) (by decide) elements inside inside rest
          have skipped := skipSpaces_append space (starts.stops rest)
          obtain ⟨first, tail, rfl, notClose⟩ :=
            starts.not_close (by decide : isDelimiter '\x7d' = true)
          rw [List.cons_append] at scanned skipped
          simp [scanValue, skipped, notClose, scanned]

/-- A text is decoded exactly when it is the text of the value between spaces. -/
theorem loads_iff {value : Value} :
    loads limits text = some value ↔
      (∃ before token behind, text = before ++ (token ++ behind) ∧ Spaces before
        ∧ Text limits value token ∧ Spaces behind) ∧ value.nesting ≤ limits.nesting := by
  constructor
  · intro loaded
    rw [loads] at loaded
    split at loaded
    · cases loaded
    · rename_i found rest scanned
      split at loaded
      · rename_i ended
        cases loaded
        obtain ⟨before, space, split⟩ := skipSpaces_spec text
        obtain ⟨behind, spaceBehind, splitBehind⟩ := skipSpaces_spec rest
        obtain ⟨token, tokens, isText⟩ := scanValue_sound _ _ _ _ scanned
        rw [ended.1, List.append_nil] at splitBehind
        subst splitBehind
        have delimited : Delimited rest := delimited_of_spaces spaceBehind
        exact ⟨⟨before, token, rest, by rw [split, tokens], space, isText delimited, spaceBehind⟩,
          ended.2⟩
      · cases loaded
  · rintro ⟨⟨before, token, behind, rfl, space, isText, spaceBehind⟩, within⟩
    have delimited : Delimited behind := delimited_of_spaces spaceBehind
    have front := skipSpaces_append space (isText.starts.stops behind)
    have back : skipSpaces behind = [] := by
      have skipped := skipSpaces_append spaceBehind Stops.nil
      rwa [List.append_nil] at skipped
    have fueled : token.length < (before ++ (token ++ behind)).length + 1 := by
      simp only [List.length_append]
      omega
    have scanned := scanValue_complete isText fueled delimited
    simp only [loads, front, scanned, back, within, and_self, if_true]

/-- A text of a value within the limits is decoded. -/
theorem loads_text {value : Value} (isText : Text limits value text)
    (within : value.nesting ≤ limits.nesting) : loads limits text = some value := by
  have none : Spaces [] := fun _ member => by cases member
  exact loads_iff.2 ⟨⟨[], text, [], by simp, none, isText, none⟩, within⟩

/-- A decoded text without spaces at its ends is the text of its value. -/
theorem text_of_loads {value : Value} (loaded : loads limits text = some value)
    (starts : Stops isSpace text)
    (ends : ∀ front last, text = front ++ [last] → isSpace last = false) :
    Text limits value text := by
  obtain ⟨⟨before, token, behind, rfl, space, isText, spaceBehind⟩, _⟩ := loads_iff.1 loaded
  have noneBefore : before = [] := by
    cases before with
    | nil => rfl
    | cons first rest =>
        have other := starts first rfl
        rw [space first List.mem_cons_self] at other
        cases other
  have noneBehind : behind = [] := by
    rcases List.eq_nil_or_concat behind with rfl | ⟨front, last, rfl⟩
    · rfl
    · have other := ends (before ++ (token ++ front)) last (by simp)
      rw [spaceBehind last (by simp)] at other
      cases other
  subst noneBefore noneBehind
  simpa using isText

end Complete

/-! ## Parts of a collection -/

section Parts

variable {α : Type} {limits : Limits} {text : List Char} {close : Char} {items : List α}
  {written other : α → List Char → Prop}

theorem Elements.imp (weaker : ∀ item text, written item text → other item text)
    (elements : Elements written close items text) : Elements other close items text := by
  induction elements with
  | last before isWritten behind => exact .last before (weaker _ _ isWritten) behind
  | more before isWritten behind _ ih => exact .more before (weaker _ _ isWritten) behind ih

/-- What holds of every item holds where it is written. -/
theorem Elements.and {holds : α → Prop} (elements : Elements written close items text)
    (all : ∀ item ∈ items, holds item) :
    Elements (fun item text => written item text ∧ holds item) close items text := by
  induction elements with
  | last before isWritten behind =>
      exact .last before ⟨isWritten, all _ List.mem_cons_self⟩ behind
  | more before isWritten behind _ ih =>
      exact .more before ⟨isWritten, all _ List.mem_cons_self⟩ behind
        (ih fun item member => all item (List.mem_cons_of_mem _ member))

/-- The items are shorter than what they stand in. -/
theorem Elements.inside (elements : Elements written close items text) :
    Elements (fun item token => written item token ∧ token.length < text.length) close items
      text := by
  induction elements with
  | last before isWritten behind =>
      refine .last before ⟨isWritten, ?_⟩ behind
      simp only [List.length_append, List.length_cons]
      omega
  | more before isWritten behind _ ih =>
      refine .more before ⟨isWritten, ?_⟩ behind (ih.imp fun item token both => ⟨both.1, ?_⟩)
      · simp only [List.length_append, List.length_cons]
        omega
      · have shorter := both.2
        simp only [List.length_append, List.length_cons]
        omega

theorem Elements.all (elements : Elements written close items text) :
    ∀ item ∈ items, ∃ text, written item text := by
  induction elements with
  | last _ isWritten _ =>
      intro item member
      rw [List.mem_singleton.1 member]
      exact ⟨_, isWritten⟩
  | more _ isWritten _ _ ih =>
      intro item member
      rcases List.mem_cons.1 member with rfl | later
      · exact ⟨_, isWritten⟩
      · exact ih item later

theorem Member.imp {written other : Value → List Char → Prop} {member : List Nat × Value}
    (weaker : ∀ value text, written value text → other value text)
    (isMember : Member written member text) : Member other member text := by
  cases isMember with
  | mk string before behind isWritten => exact .mk string before behind (weaker _ _ isWritten)

/-- What is written behind the key is the value of the member. -/
theorem Member.self {written : Value → List Char → Prop} {member : List Nat × Value}
    (isMember : Member written member text) :
    Member (fun value text => written value text ∧ value = member.2) member text := by
  cases isMember with
  | mk string before behind isWritten => exact .mk string before behind ⟨isWritten, rfl⟩

theorem Member.content {written : Value → List Char → Prop} {member : List Nat × Value}
    (isMember : Member written member text) : ∃ text, written member.2 text := by
  cases isMember with
  | mk _ _ _ isWritten => exact ⟨_, isWritten⟩

theorem nestingItems_le {bound : Nat} {items : List Value} :
    nestingItems items ≤ bound ↔ ∀ item ∈ items, item.nesting ≤ bound := by
  induction items with
  | nil => simp [nestingItems]
  | cons first rest ih => rw [nestingItems, Nat.max_le, ih, List.forall_mem_cons]

theorem nestingFields_le {bound : Nat} {fields : List (List Nat × Value)} :
    nestingFields fields ≤ bound ↔ ∀ field ∈ fields, field.2.nesting ≤ bound := by
  induction fields with
  | nil => simp [nestingFields]
  | cons first rest ih => rw [nestingFields, Nat.max_le, ih, List.forall_mem_cons]

/-- A scalar is not nested. -/
theorem scanScalar_flat {value : Value} {rest : List Char}
    (found : scanScalar limits text = some (value, rest)) : value.nesting = 0 := by
  rw [scanScalar] at found
  split at found
  · rename_i name constant named
    cases found
    have listed := List.mem_of_find?_eq_some named
    simp only [constants, List.mem_cons, Prod.mk.injEq, List.not_mem_nil, or_false] at listed
    rcases listed with ⟨_, rfl⟩ | ⟨_, rfl⟩ | ⟨_, rfl⟩ | ⟨_, rfl⟩ | ⟨_, rfl⟩ | ⟨_, rfl⟩ <;>
      simp [Value.nesting]
  · split at found
    · split at found
      · cases found
        simp [Value.nesting]
      · cases found
    · cases found

theorem scanScalar_structural {first : Char} {rest : List Char} {value : Value}
    (structural : isStructural first = true) :
    scanScalar limits (first :: text) ≠ some (value, rest) := by
  intro found
  obtain ⟨token, split, nonempty, plain, _⟩ := scanScalar_reads found
  cases token with
  | nil => exact nonempty rfl
  | cons head tail =>
      have plainHead := plain head List.mem_cons_self
      rw [← (List.cons.inj split).1, structural] at plainHead
      cases plainHead

/-- A text that begins otherwise than strings, arrays and objects is that of a scalar. -/
theorem Text.flat {value : Value} (isText : Text limits value text)
    (other : ∀ first rest, text = first :: rest →
      first ≠ '"' ∧ first ≠ '[' ∧ first ≠ '\x7b') : value.nesting = 0 := by
  cases isText with
  | scalar read => exact scanScalar_flat read
  | str => exact absurd rfl (other _ _ rfl).1
  | emptyArr | arr => exact absurd rfl (other _ _ rfl).2.1
  | emptyObj | obj => exact absurd rfl (other _ _ rfl).2.2

theorem Text.arr_opens {items : List Value} (isText : Text limits (.arr items) text) :
    ∃ inner, text = '[' :: inner := by
  cases isText with
  | scalar read => exact absurd (scanScalar_flat read) (by simp [Value.nesting])
  | emptyArr => exact ⟨_, rfl⟩
  | arr => exact ⟨_, rfl⟩

theorem Text.obj_opens {fields : List (List Nat × Value)}
    (isText : Text limits (.obj fields) text) : ∃ inner, text = '\x7b' :: inner := by
  cases isText with
  | scalar read => exact absurd (scanScalar_flat read) (by simp [Value.nesting])
  | emptyObj => exact ⟨_, rfl⟩
  | obj => exact ⟨_, rfl⟩

/-- A text that begins with a quote is that of a string. -/
theorem Text.of_quote {value : Value} (isText : Text limits value ('"' :: text)) :
    ∃ raw units, text = raw ++ ['"'] ∧ StringText raw units
      ∧ value = .str (joinSurrogates units) := by
  cases isText with
  | scalar read => exact absurd read (scanScalar_structural (by decide))
  | str string => exact ⟨_, _, rfl, string, rfl⟩

/-- A text that begins with a brace is that of an object. -/
theorem Text.of_brace {value : Value} (isText : Text limits value ('\x7b' :: text)) :
    ∃ fields, value = .obj fields := by
  cases isText with
  | scalar read => exact absurd read (scanScalar_structural (by decide))
  | emptyObj => exact ⟨_, rfl⟩
  | obj => exact ⟨_, rfl⟩

end Parts

end Sastsimi.Lib.Grammar
