import Sastsimi.Candidates.RawRows

/-!
# The rows at the targets

What the reader yields is compared with the decoded document: all its values in the order of the
text, those at the targets among them, and the items they list.
-/

namespace Sastsimi.Candidates.RawRows

open Sastsimi.Lib Sastsimi.Lib.Grammar

variable {limits : Limits}

/-! ## The values of a document -/

/-- A step from a value to a part of it. -/
inductive Segment where
  | key (name : List Nat)
  | item
  deriving DecidableEq

mutual

/-- A value at a path and all values inside it, in the order of the text. -/
def nodes (path : List Segment) : Value → List (List Segment × Value)
  | .arr items => (path, .arr items) :: itemNodes (path ++ [.item]) items
  | .obj fields => (path, .obj fields) :: fieldNodes path fields
  | value => [(path, value)]

def itemNodes (path : List Segment) : List Value → List (List Segment × Value)
  | [] => []
  | item :: items => nodes path item ++ itemNodes path items

def fieldNodes (path : List Segment) : List (List Nat × Value) → List (List Segment × Value)
  | [] => []
  | (name, content) :: fields => nodes (path ++ [.key name]) content ++ fieldNodes path fields

end

/-- The engine whose results are at a path: `results`, or `runs[*].results`. -/
def engineAt (path : List Segment) : Option Engine :=
  if path = [.key (codes "results")] then some .opengrep
  else if path = [.key (codes "runs"), .item, .key (codes "results")] then some .codeql
  else none

/-- The proper prefixes of the targets. -/
def aboveTarget (path : List Segment) : Prop :=
  path = [] ∨ path = [.key (codes "runs")] ∨ path = [.key (codes "runs"), .item]

instance (path : List Segment) : Decidable (aboveTarget path) := by
  unfold aboveTarget
  infer_instance

def isObject : Value → Bool
  | .obj _ => true
  | _ => false

def isContainer : Value → Bool
  | .arr _ | .obj _ => true
  | _ => false

/-- An array of objects. -/
def isRows : Value → Bool
  | .arr items => items.all isObject
  | _ => false

/-- The rows a value at a path lists. -/
def rowsAt (node : List Segment × Value) : List (Engine × Value) :=
  match engineAt node.1, node.2 with
  | some engine, .arr items => items.map (engine, ·)
  | _, _ => []

/-- The rows of a document. -/
def targetRows (document : Value) : List (Engine × Value) := (nodes [] document).flatMap rowsAt

def hasTarget (listed : List (List Segment × Value)) : Bool :=
  listed.any fun node => (engineAt node.1).isSome

/-- What a reader of results relies on: no key is a literal star, what stands above a target is an
array or an object, and every target is an array of objects. -/
structure Readable (listed : List (List Segment × Value)) : Prop where
  starless : ∀ node ∈ listed, Segment.key (codes "*") ∉ node.1
  containers : ∀ node ∈ listed, aboveTarget node.1 → isContainer node.2 = true
  arrays : ∀ node ∈ listed, (engineAt node.1).isSome → isRows node.2 = true

theorem Readable.subset {fewer listed : List (List Segment × Value)} (readable : Readable listed)
    (subset : ∀ node ∈ fewer, node ∈ listed) : Readable fewer where
  starless node member := readable.starless node (subset node member)
  containers node member := readable.containers node (subset node member)
  arrays node member := readable.arrays node (subset node member)

section Nodes

variable {path : List Segment}

theorem mem_itemNodes {items : List Value} {node : List Segment × Value} :
    node ∈ itemNodes path items ↔ ∃ item ∈ items, node ∈ nodes path item := by
  induction items with
  | nil => simp [itemNodes]
  | cons first rest ih => simp [itemNodes, ih]

theorem mem_fieldNodes {fields : List (List Nat × Value)} {node : List Segment × Value} :
    node ∈ fieldNodes path fields
      ↔ ∃ field ∈ fields, node ∈ nodes (path ++ [.key field.1]) field.2 := by
  induction fields with
  | nil => simp [fieldNodes]
  | cons first rest ih => simp [fieldNodes, ih]

theorem itemNodes_flatMap (items : List Value) :
    itemNodes path items = items.flatMap (nodes path) := by
  induction items with
  | nil => rfl
  | cons first rest ih => rw [itemNodes, List.flatMap_cons, ih]

theorem fieldNodes_flatMap (fields : List (List Nat × Value)) :
    fieldNodes path fields
      = fields.flatMap fun field => nodes (path ++ [.key field.1]) field.2 := by
  induction fields with
  | nil => rfl
  | cons first rest ih => rw [fieldNodes, List.flatMap_cons, ih]

theorem self_mem_nodes (value : Value) : (path, value) ∈ nodes path value := by
  cases value <;> simp [nodes]

/-- The values inside a value are below its path. -/
theorem nodes_below {value : Value} {node : List Segment × Value}
    (member : node ∈ nodes path value) : path <+: node.1 := by
  induction value using Value.byParts generalizing path with
  | null | bool | number | str =>
      simp only [nodes, List.mem_singleton] at member
      exact member ▸ List.prefix_rfl
  | arr items ih =>
      rw [nodes, List.mem_cons, mem_itemNodes] at member
      rcases member with rfl | ⟨item, listed, inside⟩
      · exact List.prefix_rfl
      · exact (List.prefix_append _ _).trans (ih item listed inside)
  | obj fields ih =>
      rw [nodes, List.mem_cons, mem_fieldNodes] at member
      rcases member with rfl | ⟨field, listed, inside⟩
      · exact List.prefix_rfl
      · exact (List.prefix_append _ _).trans (ih field listed inside)

/-- Below a path that no target begins with stands no target. -/
theorem engineAt_below {lower : List Segment} (below : path <+: lower)
    (outside : engineAt path = none) (notAbove : ¬ aboveTarget path) : engineAt lower = none := by
  obtain ⟨more, rfl⟩ := below
  rw [engineAt]
  split
  · rename_i same
    match path, same with
    | [], _ => exact absurd (.inl rfl) notAbove
    | first :: rest, same =>
        obtain ⟨rfl, tail⟩ := List.cons.inj same
        rw [(List.append_eq_nil_iff.1 tail).1] at outside
        exact absurd outside (by decide)
  · split
    · rename_i same
      match path, same with
      | [], _ => exact absurd (.inl rfl) notAbove
      | [first], same =>
          obtain ⟨rfl, _⟩ := List.cons.inj same
          exact absurd (.inr (.inl rfl)) notAbove
      | [first, second], same =>
          obtain ⟨rfl, tail⟩ := List.cons.inj same
          obtain ⟨rfl, _⟩ := List.cons.inj tail
          exact absurd (.inr (.inr rfl)) notAbove
      | first :: second :: third :: rest, same =>
          obtain ⟨rfl, tail⟩ := List.cons.inj same
          obtain ⟨rfl, last⟩ := List.cons.inj tail
          obtain ⟨rfl, none⟩ := List.cons.inj last
          rw [(List.append_eq_nil_iff.1 none).1] at outside
          exact absurd outside (by decide)
    · rfl

end Nodes

/-! ## Paths of the code -/

/-- How the walk writes a step: items are under a star. -/
def codeOf : Segment → List Nat
  | .key name => name
  | .item => codes "*"

def codePath (path : List Segment) : List (List Nat) := path.map codeOf

section Paths

variable {path : List Segment} {segment : Segment}

theorem codeOf_name {name : List Nat} (other : codes "*" ≠ name) :
    codeOf segment = name ↔ segment = .key name := by
  cases segment <;> simp [codeOf, other]

theorem codeOf_star (segment : Segment) (starless : segment ≠ .key (codes "*")) :
    codeOf segment = codes "*" ↔ segment = .item := by
  cases segment with
  | key name => simpa [codeOf] using starless
  | item => simp [codeOf]

/-- Without keys that are a star the code tells the paths apart. -/
theorem codePath_targets (starless : Segment.key (codes "*") ∉ path) :
    (codePath path = [codes "results"] ↔ path = [.key (codes "results")])
      ∧ (codePath path = [codes "runs"] ↔ path = [.key (codes "runs")])
      ∧ (codePath path = [codes "runs", codes "*"] ↔ path = [.key (codes "runs"), .item])
      ∧ (codePath path = [codes "runs", codes "*", codes "results"]
          ↔ path = [.key (codes "runs"), .item, .key (codes "results")]) := by
  have results : codes "*" ≠ codes "results" := by decide
  have runs : codes "*" ≠ codes "runs" := by decide
  match path with
  | [] => simp [codePath]
  | [first] => simp [codePath, codeOf_name results, codeOf_name runs]
  | [first, second] =>
      have star := codeOf_star second fun same => starless (by simp [same])
      simp [codePath, codeOf_name runs, star]
  | [first, second, third] =>
      have star := codeOf_star second fun same => starless (by simp [same])
      simp [codePath, codeOf_name results, codeOf_name runs, star]
  | _ :: _ :: _ :: _ :: _ => simp [codePath]

theorem lookup_codePath (starless : Segment.key (codes "*") ∉ path) :
    targets.lookup (codePath path) = engineAt path := by
  obtain ⟨results, _, _, runs⟩ := codePath_targets starless
  simp only [targets, List.lookup_cons, List.lookup_nil, engineAt]
  by_cases atResults : path = [.key (codes "results")]
  · rw [if_pos atResults, beq_iff_eq.2 (results.2 atResults)]
  · have notResults : (codePath path == [codes "results"]) = false :=
      beq_eq_false_iff_ne.2 fun same => atResults (results.1 same)
    rw [if_neg atResults, notResults]
    by_cases atRuns : path = [.key (codes "runs"), .item, .key (codes "results")]
    · rw [if_pos atRuns, beq_iff_eq.2 (runs.2 atRuns)]
    · have notRuns : (codePath path == [codes "runs", codes "*", codes "results"]) = false :=
        beq_eq_false_iff_ne.2 fun same => atRuns (runs.1 same)
      rw [if_neg atRuns, notRuns]

theorem leadsToTarget_iff (code : List (List Nat)) : leadsToTarget code = true ↔
    code = [] ∨ code = [codes "results"] ∨ code = [codes "runs"] ∨ code = [codes "runs", codes "*"]
      ∨ code = [codes "runs", codes "*", codes "results"] := by
  match code with
  | [] => simp [leadsToTarget, targets]
  | [first] => simp [leadsToTarget, targets, @eq_comm _ _ first]
  | [first, second] => simp [leadsToTarget, targets, @eq_comm _ _ first, @eq_comm _ _ second]
  | [first, second, third] =>
      simp [leadsToTarget, targets, @eq_comm _ _ first, @eq_comm _ _ second, @eq_comm _ _ third]
  | _ :: _ :: _ :: _ :: _ => simp [leadsToTarget, targets]

/-- The walk enters the values above a target and skips those that no target is in. -/
theorem leads_codePath (starless : Segment.key (codes "*") ∉ path)
    (outside : engineAt path = none) : leadsToTarget (codePath path) = true ↔ aboveTarget path := by
  obtain ⟨results, runs, items, all⟩ := codePath_targets starless
  have notResults : path ≠ [.key (codes "results")] := by
    intro same
    rw [same] at outside
    exact absurd outside (by decide)
  have notAll : path ≠ [.key (codes "runs"), .item, .key (codes "results")] := by
    intro same
    rw [same] at outside
    exact absurd outside (by decide)
  have empty : codePath path = [] ↔ path = [] := by simp [codePath]
  rw [leadsToTarget_iff, results, runs, items, all, empty, aboveTarget]
  simp [notResults, notAll]

end Paths

/-! ## What is written is read -/

/-- The rows a part yields, whether it meets a target, and the text it leaves. -/
structure Yields (rows : List (Engine × Value)) (found : Bool) (rest : List Char)
    (walked : Walked) : Prop where
  rows : walked.rows = rows
  found : walked.found = found
  ended : ∃ after, walked.ended = .ok after ∧ after.unread = rest

/-- Wherever a text of an item stands behind spaces and in front of a delimiter, it is read. -/
def Reads {α : Type} (element : Reader → Walked) (written : α → List Char → Prop)
    (rowsOf : α → List (Engine × Value)) (foundIn : α → Bool) : Prop :=
  ∀ ⦃item : α⦄ ⦃before token rest : List Char⦄ ⦃reader : Reader⦄, written item token →
    Spaces before → reader.unread = before ++ (token ++ rest) → Delimited rest →
    Yields (rowsOf item) (foundIn item) rest (element reader)

section Reading

variable {α : Type} {element : Reader → Walked} {written : α → List Char → Prop}
  {rowsOf : α → List (Engine × Value)} {foundIn : α → Bool} {close : Char} {items : List α}
  {token rest : List Char} {reader : Reader} {walked : Walked} {fuel : Nat}

theorem andThen_ok {next : Reader → Walked} (passed : walked.ended = .ok reader) :
    walked.andThen next = ⟨walked.rows ++ (next reader).rows, walked.found || (next reader).found,
      (next reader).ended⟩ := by
  rw [Walked.andThen, passed]

theorem Yields.andThen {first second : List (Engine × Value)} {found other : Bool}
    {middle : List Char} {next : Reader → Walked} (yields : Yields first found middle walked)
    (continues : ∀ after : Reader, after.unread = middle → Yields second other rest (next after)) :
    Yields (first ++ second) (found || other) rest (walked.andThen next) := by
  obtain ⟨after, passed, left⟩ := yields.ended
  obtain ⟨rows, found, ended⟩ := continues after left
  rw [andThen_ok passed]
  exact ⟨by rw [yields.rows, rows], by rw [yields.found, found], ended⟩

theorem Yields.silent {after : Reader} (left : after.unread = rest) :
    Yields [] false rest (.silent (.ok after)) := ⟨rfl, rfl, after, rfl, left⟩

theorem expect_yields {before : List Char} {expected : Char}
    (left : reader.unread = before ++ expected :: rest) (space : Spaces before)
    (plain : isSpace expected = false) :
    Yields [] false rest (.silent (expect expected reader)) := by
  obtain ⟨after, passed, kept⟩ := expect_at left space plain
  rw [passed]
  exact .silent kept

/-- The text of some items is read item by item. -/
theorem elements_yields (reads : Reads element written rowsOf foundIn)
    (closes : isDelimiter close = true) (notSpace : isSpace close = false) (notComma : close ≠ ',')
    (elements : Elements written close items token) (left : reader.unread = token ++ rest)
    (fueled : token.length ≤ fuel) :
    Yields (items.flatMap rowsOf) (items.any foundIn) rest
      (RawRows.elements close element fuel reader) := by
  induction elements generalizing fuel reader with
  | @last item before text behind space isWritten spaceBehind =>
      simp only [List.length_append, List.length_cons, List.length_nil] at fueled
      obtain ⟨fuel, rfl⟩ := Nat.exists_eq_succ_of_ne_zero (by omega : fuel ≠ 0)
      have split : reader.unread = before ++ (text ++ (behind ++ close :: rest)) := by
        rw [left]
        simp
      have read : Yields (rowsOf item ++ []) (foundIn item || false) rest
          (RawRows.elements close element (fuel + 1) reader) := by
        rw [RawRows.elements]
        refine (reads isWritten space split (delimited_behind spaceBehind closes rest)).andThen
          fun after kept => ?_
        obtain ⟨shown, _, taken⟩ := whitespace_at kept spaceBehind notSpace
        rw [if_pos shown]
        exact .silent taken
      simpa using read
  | @more item items before text behind later space isWritten spaceBehind _ ih =>
      simp only [List.length_append, List.length_cons] at fueled
      obtain ⟨fuel, rfl⟩ := Nat.exists_eq_succ_of_ne_zero (by omega : fuel ≠ 0)
      have split : reader.unread = before ++ (text ++ (behind ++ ',' :: (later ++ rest))) := by
        rw [left]
        simp
      have comma : isDelimiter ',' = true := by decide
      have nothing : Spaces [] := fun _ member => absurd member List.not_mem_nil
      rw [RawRows.elements, List.flatMap_cons, List.any_cons]
      refine (reads isWritten space split (delimited_behind spaceBehind comma _)).andThen
        fun after kept => ?_
      obtain ⟨shown, front, _⟩ := whitespace_at kept spaceBehind (by decide)
      rw [if_neg (by rw [shown]; simpa using notComma.symm)]
      have passed : (whitespace after).2.unread = [] ++ ',' :: (later ++ rest) := front
      have further := (expect_yields passed nothing (by decide)).andThen
        fun after kept => (ih kept (by omega) : Yields (items.flatMap rowsOf) (items.any foundIn)
          rest (RawRows.elements close element fuel after))
      simpa using further

/-- What stands behind an opening bracket is read. -/
theorem collection_yields (reads : Reads element written rowsOf foundIn)
    (starts : ∀ item text, written item text → Starts text)
    (closes : isDelimiter close = true) (notSpace : isSpace close = false) (notComma : close ≠ ',')
    (elements : Elements written close items token) (left : reader.unread = token ++ rest)
    (fueled : token.length ≤ fuel) :
    Yields (items.flatMap rowsOf) (items.any foundIn) rest
      (collection close element fuel reader) := by
  obtain ⟨before, inner, rfl, space, starts, elements⟩ := elements.opens starts
  obtain ⟨first, tail, same, notClose⟩ := starts.not_close closes
  obtain ⟨shown, kept⟩ := whitespace_spec reader
  rw [left, List.append_assoc, skipSpaces_append space (starts.stops rest)] at shown kept
  rw [collection, if_neg]
  · rw [List.length_append] at fueled
    exact elements_yields reads closes notSpace notComma elements kept (by omega)
  · rw [shown, same, List.cons_append, List.head?_cons, Option.some.injEq]
    exact notClose

theorem collection_empty {inside : List Char} (left : reader.unread = inside ++ close :: rest)
    (space : Spaces inside) (notSpace : isSpace close = false) :
    Yields [] false rest (collection close element fuel reader) := by
  obtain ⟨shown, _, taken⟩ := whitespace_at left space notSpace
  rw [collection, if_pos shown]
  exact .silent taken

variable {before : List Char} {member : List Nat × Value}
  {value : List Nat → Reader → Walked} {rows : List (Engine × Value)} {found : Bool}

/-- A key is read, and the value behind it. -/
theorem keyed_yields (isMember : Member (Text limits) member token) (space : Spaces before)
    (left : reader.unread = before ++ (token ++ rest))
    (each : ∀ ⦃front inner : List Char⦄ ⦃reader : Reader⦄, Text limits member.2 inner →
      inner.length < token.length → Spaces front → reader.unread = front ++ (inner ++ rest) →
      Yields rows found rest (value member.1 reader)) :
    Yields rows found rest (keyed limits value reader) := by
  cases isMember with
  | @mk raw front behind inner units content isString spaceFront spaceBehind isText =>
      have split : reader.unread
          = before ++ '"' :: (raw ++ '"' :: (front ++ ':' :: (behind ++ (inner ++ rest)))) := by
        rw [left]
        simp
      obtain ⟨after, named, kept⟩ : ∃ after, string limits reader
          = .ok (joinSurrogates units, after)
            ∧ after.unread = front ++ ':' :: (behind ++ (inner ++ rest)) :=
        string_at split space isString
      simp only [keyed, named]
      have shorter : inner.length
          < ('"' :: (raw ++ '"' :: (front ++ ':' :: (behind ++ inner)))).length := by
        simp only [List.length_append, List.length_cons]
        omega
      have read := (expect_yields kept spaceFront (by decide)).andThen fun later passed =>
        each isText shorter spaceBehind passed
      simpa using read

/-- An array is read behind its opening bracket, if its items are. -/
theorem arr_yields {items : List Value} {inner : List Char}
    {rowsOf : Value → List (Engine × Value)} {foundIn : Value → Bool}
    (isText : Text limits (.arr items) ('[' :: inner)) (left : reader.unread = inner ++ rest)
    (fueled : inner.length ≤ fuel)
    (each : ∀ item ∈ items, ∀ ⦃front text behind : List Char⦄ ⦃reader : Reader⦄,
      Text limits item text → text.length < inner.length → Spaces front →
      reader.unread = front ++ (text ++ behind) → Delimited behind →
      Yields (rowsOf item) (foundIn item) behind (element reader)) :
    Yields (items.flatMap rowsOf) (items.any foundIn) rest
      (collection ']' element fuel reader) := by
  cases isText with
  | scalar read => exact absurd read (scanScalar_structural (by decide))
  | emptyArr inside =>
      exact collection_empty (by rw [left, List.append_assoc]; rfl) inside (by decide)
  | arr elements =>
      have written := elements.inside.and fun item member => member
      exact collection_yields
        (fun item front text behind reader isItem spaceFront split delimited =>
          each item isItem.2 isItem.1.1 isItem.1.2 spaceFront split delimited)
        (fun _ _ isItem => isItem.1.1.starts) (by decide) (by decide) (by decide) written left
        fueled

/-- An object is read behind its opening bracket, if the values of its fields are. -/
theorem obj_yields {fields : List (List Nat × Value)} {inner : List Char}
    {rowsOf : List Nat × Value → List (Engine × Value)} {foundIn : List Nat × Value → Bool}
    (isText : Text limits (.obj fields) ('\x7b' :: inner)) (left : reader.unread = inner ++ rest)
    (fueled : inner.length ≤ fuel)
    (each : ∀ field ∈ fields, ∀ ⦃front text behind : List Char⦄ ⦃reader : Reader⦄,
      Text limits field.2 text → text.length < inner.length → Spaces front →
      reader.unread = front ++ (text ++ behind) → Delimited behind →
      Yields (rowsOf field) (foundIn field) behind (value field.1 reader)) :
    Yields (fields.flatMap rowsOf) (fields.any foundIn) rest
      (collection '\x7d' (keyed limits value) fuel reader) := by
  cases isText with
  | scalar read => exact absurd read (scanScalar_structural (by decide))
  | emptyObj inside =>
      exact collection_empty (by rw [left, List.append_assoc]; rfl) inside (by decide)
  | obj elements =>
      have written := elements.inside.and fun field member => member
      refine collection_yields
        (fun field front text behind reader isField spaceFront split delimited => ?_)
        (fun _ _ isField => isField.1.1.starts) (by decide) (by decide) (by decide) written left
        fueled
      obtain ⟨⟨isMember, shorter⟩, member⟩ := isField
      exact keyed_yields isMember spaceFront split
        fun front inner reader isText inside space split =>
          each field member isText (Nat.lt_trans inside shorter) space split delimited

/-- The opening bracket of a text is shown behind the spaces in front of it. -/
theorem opening_shown {opening : Char} {inner : List Char}
    (left : reader.unread = before ++ (opening :: inner ++ rest)) (space : Spaces before)
    (plain : isSpace opening = false) :
    (whitespace reader).1 = some opening
      ∧ (whitespace reader).2.unread = opening :: (inner ++ rest)
      ∧ (whitespace reader).2.take.2.unread = inner ++ rest :=
  whitespace_at left space plain

theorem nothing_yielded {β : Type} {items : List β} :
    items.flatMap (fun _ => ([] : List (Engine × Value))) = [] :=
  List.flatMap_eq_nil_iff.2 fun _ _ => rfl

theorem nothing_found {β : Type} {items : List β} : items.any (fun _ => false) = false :=
  List.any_eq_false.2 fun _ _ => Bool.false_ne_true

theorem skip_scalar {document : Value} {depth : Nat}
    (read : scanScalar limits token = some (document, []))
    (shallow : depth ≤ 128) (space : Spaces before)
    (left : reader.unread = before ++ (token ++ rest)) (delimited : Delimited rest) :
    Yields [] false rest (skip limits (fuel + 1) depth reader) := by
  obtain ⟨scalar, split, nonempty, plainToken, _⟩ := scanScalar_reads read
  rw [List.append_nil] at split
  subst split
  cases token with
  | nil => exact absurd rfl nonempty
  | cons first tail =>
      have plainFirst := plainToken first List.mem_cons_self
      have apart : ∀ bracket, isStructural bracket = true → first ≠ bracket := by
        intro bracket structural equal
        rw [equal, structural] at plainFirst
        cases plainFirst
      have notSpace : isSpace first = false := by
        have plain := delimiter_of_plain plainFirst
        simp only [isDelimiter, Bool.or_eq_false_iff] at plain
        exact plain.2
      obtain ⟨shown, kept, _⟩ := opening_shown left space notSpace
      have here : (whitespace reader).2.unread = first :: tail ++ rest := kept
      obtain ⟨after, passed, done⟩ := scalar_at here read delimited
      rw [skip, if_neg (by omega), shown]
      simp only
      rw [if_neg (apart '\x7b' (by decide)), if_neg (apart '[' (by decide)),
        if_neg (apart '"' (by decide)), passed]
      exact .silent done

/-- What is skipped is passed without a row. -/
theorem skip_yields {document : Value} {depth : Nat} (isText : Text limits document token)
    (fueled : token.length < fuel) (shallow : depth + document.nesting ≤ 128)
    (space : Spaces before) (left : reader.unread = before ++ (token ++ rest))
    (delimited : Delimited rest) : Yields [] false rest (skip limits fuel depth reader) := by
  induction fuel generalizing document token depth before rest reader with
  | zero => cases fueled
  | succ fuel ih =>
      have shallowHere : ¬ 128 < depth := by omega
      cases document with
      | null | bool | number =>
          cases isText with
          | scalar read => exact skip_scalar read (by omega) space left delimited
      | str codes =>
          cases isText with
          | scalar read => exact skip_scalar read (by omega) space left delimited
          | @str raw units isString =>
              obtain ⟨shown, kept, _⟩ := opening_shown left space (by decide)
              have here : (whitespace reader).2.unread = [] ++ '"' :: (raw ++ '"' :: rest) := by
                rw [kept]
                simp
              obtain ⟨after, passed, done⟩ : ∃ after, string limits (whitespace reader).2
                  = .ok (joinSurrogates units, after) ∧ after.unread = rest :=
                string_at here (fun _ member => absurd member List.not_mem_nil) isString
              rw [skip, if_neg shallowHere, shown]
              simp only
              rw [if_neg (by decide), if_neg (by decide), if_pos trivial, passed]
              exact .silent done
      | arr items =>
          obtain ⟨inner, rfl⟩ := isText.arr_opens
          obtain ⟨shown, _, taken⟩ := opening_shown left space (by decide)
          rw [List.length_cons] at fueled
          rw [Value.nesting] at shallow
          have read : Yields (items.flatMap fun _ => []) (items.any fun _ => false) rest
              (collection ']' (skip limits fuel (depth + 1)) fuel
                (whitespace reader).2.take.2) := by
            refine arr_yields isText taken (by omega) fun item member front text behind reader
              isItem shorter spaceFront split delimited => ?_
            have bound := nestingItems_le.1 (Nat.le_refl _) item member
            exact ih isItem (by omega) (by omega) spaceFront split delimited
          rw [nothing_yielded, nothing_found] at read
          rw [skip, if_neg shallowHere, shown]
          simp only
          rw [if_neg (by decide), if_pos trivial]
          exact read
      | obj fields =>
          obtain ⟨inner, rfl⟩ := isText.obj_opens
          obtain ⟨shown, _, taken⟩ := opening_shown left space (by decide)
          rw [List.length_cons] at fueled
          rw [Value.nesting] at shallow
          have read : Yields (fields.flatMap fun _ => []) (fields.any fun _ => false) rest
              (collection '\x7d' (keyed limits fun _ => skip limits fuel (depth + 1)) fuel
                (whitespace reader).2.take.2) := by
            refine obj_yields isText taken (by omega) fun field member front text behind reader
              isField shorter spaceFront split delimited => ?_
            have bound := nestingFields_le.1 (Nat.le_refl _) field member
            exact ih isField (by omega) (by omega) spaceFront split delimited
          rw [nothing_yielded, nothing_found] at read
          rw [skip, if_neg shallowHere, shown]
          simp only
          rw [if_pos trivial]
          exact read

/-! ## The walk -/

theorem rowsAt_below {path : List Segment} {listed : List (List Segment × Value)}
    (below : ∀ node ∈ listed, path <+: node.1) (outside : engineAt path = none)
    (notAbove : ¬ aboveTarget path) :
    listed.flatMap rowsAt = [] ∧ hasTarget listed = false := by
  have none : ∀ node ∈ listed, engineAt node.1 = none :=
    fun node member => engineAt_below (below node member) outside notAbove
  refine ⟨List.flatMap_eq_nil_iff.2 fun node member => ?_,
    List.any_eq_false.2 fun node member => ?_⟩
  · rw [rowsAt, none node member]
  · simp [none node member]

/-- No target is inside another one. -/
theorem target_apart {path : List Segment} {engine : Engine}
    (target : engineAt path = some engine) :
    engineAt (path ++ [.item]) = none ∧ ¬ aboveTarget (path ++ [.item]) := by
  rw [engineAt] at target
  split at target
  · rename_i same
    rw [same]
    decide
  · split at target
    · rename_i same
      rw [same]
      decide
    · cases target

theorem nodes_arr_rows {path : List Segment} {items : List Value} (outside : engineAt path = none) :
    (nodes path (.arr items)).flatMap rowsAt
        = items.flatMap (fun item => (nodes (path ++ [.item]) item).flatMap rowsAt)
      ∧ hasTarget (nodes path (.arr items))
        = items.any fun item => hasTarget (nodes (path ++ [.item]) item) := by
  have here : rowsAt (path, .arr items) = [] := by rw [rowsAt, outside]
  constructor
  · rw [nodes, List.flatMap_cons, here, List.nil_append, itemNodes_flatMap, List.flatMap_assoc]
  · simp [hasTarget, nodes, outside, itemNodes_flatMap, List.any_flatMap]

theorem nodes_obj_rows {path : List Segment} {fields : List (List Nat × Value)}
    (outside : engineAt path = none) :
    (nodes path (.obj fields)).flatMap rowsAt
        = fields.flatMap (fun field => (nodes (path ++ [.key field.1]) field.2).flatMap rowsAt)
      ∧ hasTarget (nodes path (.obj fields))
        = fields.any fun field => hasTarget (nodes (path ++ [.key field.1]) field.2) := by
  have here : rowsAt (path, .obj fields) = [] := by rw [rowsAt, outside]
  constructor
  · rw [nodes, List.flatMap_cons, here, List.nil_append, fieldNodes_flatMap, List.flatMap_assoc]
  · simp [hasTarget, nodes, outside, fieldNodes_flatMap, List.any_flatMap]

theorem codePath_append (path : List Segment) (segment : Segment) :
    codePath path ++ [codeOf segment] = codePath (path ++ [segment]) := by
  simp [codePath]

/-- The rows at a target. -/
theorem target_yields (interpreter : 128 ≤ limits.nesting) {items : List Value}
    {path : List Segment} {engine : Engine} (target : engineAt path = some engine)
    (rows : isRows (.arr items) = true) (shallow : (Value.arr items).nesting ≤ 129)
    (isText : Text limits (.arr items) token) (fueled : token.length ≤ fuel)
    (space : Spaces before) (left : reader.unread = before ++ (token ++ rest)) :
    Yields ((nodes path (.arr items)).flatMap rowsAt) (hasTarget (nodes path (.arr items))) rest
      ((Walked.mk [] true (expect '[' reader)).andThen
        (collection ']' (yieldRow limits engine) fuel)) := by
  obtain ⟨apart, notAbove⟩ := target_apart target
  have below : ∀ node ∈ itemNodes (path ++ [.item]) items, path ++ [.item] <+: node.1 := by
    intro node member
    obtain ⟨item, _, inside⟩ := mem_itemNodes.1 member
    exact nodes_below inside
  obtain ⟨noRows, _⟩ := rowsAt_below below apart notAbove
  have listed : (nodes path (.arr items)).flatMap rowsAt
      = [] ++ items.flatMap fun item => [(engine, item)] := by
    rw [nodes, List.flatMap_cons, noRows, List.append_nil, rowsAt, target, ← List.map_eq_flatMap,
      List.nil_append]
  have found : hasTarget (nodes path (.arr items)) = (true || items.any fun _ => false) := by
    simp [hasTarget, nodes, target]
  obtain ⟨inner, rfl⟩ := isText.arr_opens
  obtain ⟨after, passed, kept⟩ : ∃ after, expect '[' reader = .ok after
      ∧ after.unread = inner ++ rest := expect_at left space (by decide)
  have opened : Yields [] true (inner ++ rest) (Walked.mk [] true (expect '[' reader)) :=
    ⟨rfl, rfl, after, passed, kept⟩
  rw [listed, found]
  refine opened.andThen fun after kept => ?_
  rw [List.length_cons] at fueled
  rw [Value.nesting] at shallow
  refine arr_yields isText kept (by omega) fun item member front text behind reader isItem _
    spaceFront split _ => ?_
  have bound := nestingItems_le.1 (Nat.le_refl _) item member
  have object := List.all_eq_true.1 rows item member
  cases item with
  | obj fields =>
      obtain ⟨later, yielded, done⟩ := row_at interpreter split spaceFront isItem (by omega)
      rw [yieldRow, yielded]
      exact ⟨rfl, rfl, later, rfl, done⟩
  | _ => cases object

/-- The walk yields the rows at the targets below its path. -/
theorem walk_yields (interpreter : 128 ≤ limits.nesting) {document : Value} {path : List Segment}
    {depth : Nat} (isText : Text limits document token) (fueled : token.length + 1 < fuel)
    (shallow : depth + document.nesting ≤ 128) (readable : Readable (nodes path document))
    (space : Spaces before) (left : reader.unread = before ++ (token ++ rest))
    (delimited : Delimited rest) :
    Yields ((nodes path document).flatMap rowsAt) (hasTarget (nodes path document)) rest
      (walk limits fuel (codePath path) depth reader) := by
  induction fuel generalizing document path token depth before rest reader with
  | zero => cases fueled
  | succ fuel ih =>
      have starless := readable.starless _ (self_mem_nodes document)
      rw [walk, if_neg (by omega), lookup_codePath starless]
      cases target : engineAt path with
      | some engine =>
          have rows := readable.arrays _ (self_mem_nodes document) (by rw [target]; rfl)
          cases document with
          | arr items =>
              exact target_yields interpreter target rows (by omega) isText (by omega) space left
          | _ => cases rows
      | none =>
          simp only
          by_cases above : aboveTarget path
          · have container := readable.containers _ (self_mem_nodes document) above
            rw [if_neg (not_not.2 ((leads_codePath starless target).2 above))]
            cases document with
            | arr items =>
                obtain ⟨inner, rfl⟩ := isText.arr_opens
                obtain ⟨shown, _, taken⟩ := opening_shown left space (by decide)
                obtain ⟨listed, found⟩ := nodes_arr_rows target
                rw [List.length_cons] at fueled
                rw [Value.nesting] at shallow
                rw [listed, found, if_neg (by rw [shown]; decide), if_pos shown]
                refine arr_yields isText taken (by omega) fun item member front text behind reader
                  isItem shorter spaceFront split delimited => ?_
                have bound := nestingItems_le.1 (Nat.le_refl _) item member
                have inside : ∀ node ∈ nodes (path ++ [.item]) item,
                    node ∈ nodes path (.arr items) := by
                  intro node within
                  rw [nodes]
                  exact .tail _ (mem_itemNodes.2 ⟨item, member, within⟩)
                have code : codePath path ++ [codes "*"] = codePath (path ++ [.item]) :=
                  codePath_append path .item
                rw [code]
                exact ih isItem (by omega) (by omega) (readable.subset inside) spaceFront split
                  delimited
            | obj fields =>
                obtain ⟨inner, rfl⟩ := isText.obj_opens
                obtain ⟨shown, _, taken⟩ := opening_shown left space (by decide)
                obtain ⟨listed, found⟩ := nodes_obj_rows target
                rw [List.length_cons] at fueled
                rw [Value.nesting] at shallow
                rw [listed, found, if_pos shown]
                refine obj_yields isText taken (by omega) fun field member front text behind reader
                  isField shorter spaceFront split delimited => ?_
                have bound := nestingFields_le.1 (Nat.le_refl _) field member
                have inside : ∀ node ∈ nodes (path ++ [.key field.1]) field.2,
                    node ∈ nodes path (.obj fields) := by
                  intro node within
                  rw [nodes]
                  exact .tail _ (mem_fieldNodes.2 ⟨field, member, within⟩)
                have code : codePath path ++ [field.1] = codePath (path ++ [.key field.1]) :=
                  codePath_append path (.key field.1)
                rw [code]
                exact ih isField (by omega) (by omega) (readable.subset inside) spaceFront split
                  delimited
            | _ => cases container
          · obtain ⟨noRows, noTarget⟩ :=
              rowsAt_below (fun _ member => nodes_below member) target above
            rw [if_pos fun leads => above ((leads_codePath starless target).1 leads), noRows,
              noTarget]
            exact skip_yields isText (by omega) (by omega) space left delimited

end Reading

/-! ## The whole text -/

/-- Reading is a full parse: the rows of a decoded document are yielded in its order wherever the
chunks end, and a text that is not decoded raises. -/
theorem rawRows_loads (interpreter : Interpreter) (reader : Reader) :
    (∀ document, loads interpreter.toLimits reader.unread = some document →
      document.nesting ≤ 128 → Readable (nodes [] document) →
      hasTarget (nodes [] document) = true →
      (rawRows interpreter.toLimits reader).rows = targetRows document
        ∧ ∃ after, (rawRows interpreter.toLimits reader).ended = .ok after)
    ∧ (loads interpreter.toLimits reader.unread = none →
      ∃ message, (rawRows interpreter.toLimits reader).ended = .error (.raised message)) := by
  have deep := interpreter.deep
  constructor
  · intro document loaded shallow readable present
    obtain ⟨⟨before, token, behind, split, space, isText, spaceBehind⟩, _⟩ := loads_iff.1 loaded
    have fueled : token.length + 1 < reader.unread.length + 2 := by
      rw [split]
      simp only [List.length_append]
      omega
    have walked := walk_yields (by omega) isText fueled (by omega : 0 + document.nesting ≤ 128)
      readable space split (delimited_of_spaces spaceBehind)
    have ended : Yields ((nodes [] document).flatMap rowsAt ++ [])
        (hasTarget (nodes [] document) || false) [] (rawRows interpreter.toLimits reader) := by
      refine walked.andThen fun after kept => ?_
      have skipped : skipSpaces behind = [] := by
        have alone := skipSpaces_append spaceBehind Stops.nil
        rwa [List.append_nil] at alone
      obtain ⟨shown, left⟩ := whitespace_spec after
      rw [kept, skipped] at shown left
      have found :
          (walk interpreter.toLimits (reader.unread.length + 2) [] 0 reader).found = true :=
        walked.found.trans present
      rw [finish, if_neg (by rw [shown]; simp), if_neg (by rw [found]; simp)]
      exact .silent left
    obtain ⟨after, done, _⟩ := ended.ended
    exact ⟨by rw [ended.rows, List.append_nil, targetRows], after, done⟩
  · intro rejected
    have ends := rawRows_ends deep reader
    rw [Ends] at ends
    split at ends
    · rw [rejected] at ends
      obtain ⟨_, decoded⟩ := ends
      cases decoded
    · rename_i halt raised
      cases halt with
      | raised message => exact ⟨message, raised⟩
      | spent => exact absurd rfl ends

namespace Concrete

/-- A decoder that converts every number and nests a thousand values. -/
def interpreter : Interpreter := ⟨⟨fun _ => true, 1000⟩, by decide⟩

/-- Two chunks, cut inside the key of the only list of results. -/
def cut : Reader where
  buffer := []
  stream := [['\x7b', '"', 'r', 'e'],
    ['s', 'u', 'l', 't', 's', '"', ':', '[', '\x7b', '\x7d', ']', '\x7d']]
  nonempty := by decide

/-- `results`, with one empty row. -/
def document : Value := .obj [([114, 101, 115, 117, 108, 116, 115], .arr [.obj []])]

theorem cut_rows : (rawRows interpreter.toLimits cut).rows = [(.opengrep, .obj [])]
    ∧ ∃ after, (rawRows interpreter.toLimits cut).ended = .ok after := by
  have decoded : loads interpreter.toLimits cut.unread = some document := by rfl
  have readable : Readable (nodes [] document) := ⟨by decide, by decide, by decide⟩
  exact (rawRows_loads interpreter cut).1 document decoded (by decide) readable (by decide)

end Concrete

end Sastsimi.Candidates.RawRows
