import Mathlib.Data.List.Nodup

/-!
# Covering pairs by crossings

A part with two sides covers the pairs that have one element on each side.  Pairing the blocks
of a duplicate-free list with themselves and with every later block covers each pair of distinct
elements once, and splitting a side of a part keeps how often a pair is covered.
-/

namespace Sastsimi.Lib

variable {α : Type} [DecidableEq α]

/-- One of two elements is on each side of a part. -/
def Crosses (first second : α) (part : List α × List α) : Prop :=
  first ∈ part.1 ∧ second ∈ part.2 ∨ first ∈ part.2 ∧ second ∈ part.1

instance (first second : α) (part : List α × List α) : Decidable (Crosses first second part) :=
  inferInstanceAs (Decidable (_ ∨ _))

/-- How many parts cover a pair. -/
def crossCount (first second : α) (parts : List (List α × List α)) : Nat :=
  parts.countP (Crosses first second)

variable {first second : α}

@[simp] theorem crossCount_nil : crossCount first second [] = 0 := rfl

theorem crossCount_cons {part : List α × List α} {parts : List (List α × List α)} :
    crossCount first second (part :: parts) =
      crossCount first second [part] + crossCount first second parts := by
  simp [crossCount, List.countP_cons, Nat.add_comm]

theorem crossCount_append {front back : List (List α × List α)} :
    crossCount first second (front ++ back) =
      crossCount first second front + crossCount first second back :=
  List.countP_append

theorem crossCount_one {part : List α × List α} (crosses : Crosses first second part) :
    crossCount first second [part] = 1 := by
  simp [crossCount, crosses]

theorem crossCount_zero {parts : List (List α × List α)}
    (apart : ∀ part ∈ parts, ¬ Crosses first second part) : crossCount first second parts = 0 := by
  rw [crossCount, List.countP_eq_zero]
  exact fun part member => by simpa using apart part member

/-! ## Splitting a part -/

/-- Splitting a block into two halves leaves the halves and the crossing between them. -/
theorem crossCount_halves {front back : List α} (apart : front.Disjoint back) :
    crossCount first second [(front, front), (front, back), (back, back)] =
      crossCount first second [(front ++ back, front ++ back)] := by
  have notBothFirst : first ∈ front → first ∉ back := @apart first
  have notBothSecond : second ∈ front → second ∉ back := @apart second
  simp only [crossCount, Crosses, List.countP_cons, List.countP_nil, List.mem_append,
    decide_eq_true_eq]
  by_cases firstFront : first ∈ front <;> by_cases firstBack : first ∈ back <;>
    by_cases secondFront : second ∈ front <;> by_cases secondBack : second ∈ back <;>
    simp_all

/-- Splitting the left side. -/
theorem crossCount_left {front back right : List α} (apart : front.Disjoint back)
    (sides : (front ++ back).Disjoint right) :
    crossCount first second [(front, right), (back, right)] =
      crossCount first second [(front ++ back, right)] := by
  have notBothFirst : first ∈ front → first ∉ back := @apart first
  have notBothSecond : second ∈ front → second ∉ back := @apart second
  have onlyFirst : first ∈ right → first ∉ front ++ back := fun member left => sides left member
  have onlySecond : second ∈ right → second ∉ front ++ back := fun member left => sides left member
  simp only [List.mem_append, not_or] at onlyFirst onlySecond
  simp only [crossCount, Crosses, List.countP_cons, List.countP_nil, List.mem_append,
    decide_eq_true_eq]
  by_cases firstRight : first ∈ right <;> by_cases secondRight : second ∈ right <;>
    by_cases firstFront : first ∈ front <;> by_cases secondFront : second ∈ front <;>
    simp_all

omit [DecidableEq α] in
theorem crosses_comm {part : List α × List α} :
    Crosses first second part ↔ Crosses second first part := by
  unfold Crosses
  tauto

theorem crossCount_comm {parts : List (List α × List α)} :
    crossCount first second parts = crossCount second first parts :=
  List.countP_congr fun part _ => by simp [@crosses_comm _ first second]

omit [DecidableEq α] in
theorem crosses_swap {left right : List α} :
    Crosses first second (left, right) ↔ Crosses first second (right, left) :=
  or_comm

theorem crossCount_swap {left right : List α} :
    crossCount first second [(left, right)] = crossCount first second [(right, left)] := by
  simp only [crossCount, List.countP_cons, List.countP_nil, decide_eq_true_eq, crosses_swap]

/-- Splitting the right side. -/
theorem crossCount_right {left front back : List α} (apart : front.Disjoint back)
    (sides : left.Disjoint (front ++ back)) :
    crossCount first second [(left, front), (left, back)] =
      crossCount first second [(left, front ++ back)] := by
  rw [crossCount_cons, crossCount_swap, @crossCount_swap _ _ _ _ left back, ← crossCount_cons,
    crossCount_left apart (List.disjoint_comm.1 sides), crossCount_swap]

/-! ## Pairing blocks -/

/-- Every block with itself and with every later block, in the order of two nested loops. -/
def blockPairs : List (List α) → List (List α × List α)
  | [] => []
  | block :: rest => (block, block) :: (rest.map fun later => (block, later)) ++ blockPairs rest

omit [DecidableEq α] in
theorem mem_blockPairs {blocks : List (List α)} {part : List α × List α}
    (member : part ∈ blockPairs blocks) : part.1 ∈ blocks ∧ part.2 ∈ blocks := by
  induction blocks with
  | nil => cases member
  | cons block rest ih =>
      simp only [blockPairs, List.cons_append, List.mem_cons, List.mem_append, List.mem_map]
        at member
      rcases member with rfl | ⟨later, inRest, rfl⟩ | later
      · exact ⟨List.mem_cons_self, List.mem_cons_self⟩
      · exact ⟨List.mem_cons_self, List.mem_cons_of_mem _ inRest⟩
      · exact ⟨List.mem_cons_of_mem _ (ih later).1, List.mem_cons_of_mem _ (ih later).2⟩

/-- Pairs of blocks that miss an element cover no pair with it. -/
theorem crossCount_missing {blocks : List (List α)} (missing : first ∉ blocks.flatten) :
    crossCount first second (blockPairs blocks) = 0 := by
  apply crossCount_zero
  intro part member crosses
  obtain ⟨leftBlock, rightBlock⟩ := mem_blockPairs member
  rcases crosses with ⟨inLeft, -⟩ | ⟨inRight, -⟩
  · exact missing (List.mem_flatten_of_mem leftBlock inLeft)
  · exact missing (List.mem_flatten_of_mem rightBlock inRight)

/-- The row of a block covers no pair whose elements later blocks miss. -/
theorem crossCount_row_zero {block : List α} {rest : List (List α)}
    (firstMissing : first ∉ rest.flatten) (secondMissing : second ∉ rest.flatten) :
    crossCount first second (rest.map fun later => (block, later)) = 0 := by
  apply crossCount_zero
  intro part member crosses
  obtain ⟨later, inRest, rfl⟩ := List.mem_map.1 member
  rcases crosses with ⟨-, inLater⟩ | ⟨inLater, -⟩
  · exact secondMissing (List.mem_flatten_of_mem inRest inLater)
  · exact firstMissing (List.mem_flatten_of_mem inRest inLater)

omit [DecidableEq α] in
theorem not_crosses {left right : List α} (firstSide : first ∉ left) (secondSide : second ∉ left) :
    ¬ Crosses first second (left, right) := by
  rintro (⟨inLeft, -⟩ | ⟨-, inLeft⟩)
  · exact firstSide inLeft
  · exact secondSide inLeft

/-- The row of a block covers a pair with one element in the block and one in a later block
once, where the second element is. -/
theorem crossCount_row {block : List α} {rest : List (List α)} (inBlock : first ∈ block)
    (notLater : first ∉ rest.flatten) (distinct : rest.flatten.Nodup)
    (later : second ∈ rest.flatten) :
    crossCount first second (rest.map fun other => (block, other)) = 1 := by
  induction rest with
  | nil => simp at later
  | cons other rest ih =>
      rw [List.flatten_cons, List.nodup_append] at distinct
      obtain ⟨-, distinctRest, apart⟩ := distinct
      rw [List.flatten_cons, List.mem_append, not_or] at notLater
      rw [List.flatten_cons, List.mem_append] at later
      rw [List.map_cons, crossCount_cons]
      by_cases here : second ∈ other
      · have notInRest : second ∉ rest.flatten := fun inRest => apart _ here _ inRest rfl
        rw [crossCount_one (.inl ⟨inBlock, here⟩), crossCount_row_zero notLater.2 notInRest]
      · have inRest : second ∈ rest.flatten := later.resolve_left here
        have notHere : crossCount first second [(block, other)] = 0 := by
          rw [crossCount_swap]
          apply crossCount_zero
          intro part member
          rw [List.mem_singleton.1 member]
          exact not_crosses notLater.1 here
        rw [notHere, ih notLater.2 distinctRest inRest, Nat.zero_add]

/-- The pairs of blocks cover every pair of elements exactly once. -/
theorem crossCount_blockPairs {blocks : List (List α)} (distinct : blocks.flatten.Nodup)
    (inFirst : first ∈ blocks.flatten) (inSecond : second ∈ blocks.flatten) :
    crossCount first second (blockPairs blocks) = 1 := by
  induction blocks with
  | nil => simp at inFirst
  | cons block rest ih =>
      rw [List.flatten_cons, List.nodup_append] at distinct
      obtain ⟨-, distinctRest, apart⟩ := distinct
      have onlyHere : ∀ {value}, value ∈ block → value ∉ rest.flatten :=
        fun inBlock inRest => apart _ inBlock _ inRest rfl
      have onlyLater : ∀ {value}, value ∈ rest.flatten → value ∉ block :=
        fun inRest inBlock => apart _ inBlock _ inRest rfl
      have aside : ∀ {left right : α}, left ∉ block → right ∉ block →
          crossCount left right [(block, block)] = 0 := by
        intro left right leftMissing rightMissing
        apply crossCount_zero
        intro part member
        rw [List.mem_singleton.1 member]
        exact not_crosses leftMissing rightMissing
      rw [List.flatten_cons, List.mem_append] at inFirst inSecond
      rw [blockPairs, List.cons_append, crossCount_cons, crossCount_append]
      rcases inFirst with firstHere | firstLater <;> rcases inSecond with secondHere | secondLater
      · rw [crossCount_one (.inl ⟨firstHere, secondHere⟩),
          crossCount_row_zero (onlyHere firstHere) (onlyHere secondHere),
          crossCount_missing (onlyHere firstHere)]
      · have across : crossCount first second [(block, block)] = 0 := by
          apply crossCount_zero
          intro part member crosses
          rw [List.mem_singleton.1 member] at crosses
          exact onlyLater secondLater (crosses.elim And.right And.right)
        rw [across, crossCount_row firstHere (onlyHere firstHere) distinctRest secondLater,
          crossCount_missing (onlyHere firstHere)]
      · have across : crossCount first second [(block, block)] = 0 := by
          apply crossCount_zero
          intro part member crosses
          rw [List.mem_singleton.1 member] at crosses
          exact onlyLater firstLater (crosses.elim And.left And.left)
        rw [across, crossCount_comm, crossCount_row secondHere (onlyHere secondHere) distinctRest
          firstLater, crossCount_comm, crossCount_missing (onlyHere secondHere)]
      · have row : crossCount first second (rest.map fun later => (block, later)) = 0 := by
          apply crossCount_zero
          intro part member
          obtain ⟨later, -, rfl⟩ := List.mem_map.1 member
          exact not_crosses (onlyLater firstLater) (onlyLater secondLater)
        rw [aside (onlyLater firstLater) (onlyLater secondLater), row,
          ih distinctRest firstLater secondLater]

/-! ## Blocks of a list -/

/-- A list cut into blocks of a size; the last block may be shorter. -/
def chunks (size : Nat) (items : List α) : List (List α) :=
  (List.range' 0 ((items.length + size - 1) / size) size).map fun start =>
    (items.drop start).take size

omit [DecidableEq α] in
theorem flatten_slices (size count : Nat) (items : List α) (start : Nat) :
    ((List.range' start count size).map fun index => (items.drop index).take size).flatten =
      (items.drop start).take (count * size) := by
  induction count generalizing start with
  | zero => simp
  | succ count ih =>
      rw [List.range'_succ, List.map_cons, List.flatten_cons, ih, Nat.succ_mul,
        Nat.add_comm (count * size) size, List.take_add, List.drop_drop]

omit [DecidableEq α] in
/-- The blocks hold the items in their order. -/
theorem flatten_chunks {size : Nat} (positive : 0 < size) (items : List α) :
    (chunks size items).flatten = items := by
  rw [chunks, flatten_slices, List.drop_zero, List.take_of_length_le]
  have below : items.length + size - 1 < (items.length + size - 1) / size * size + size :=
    Nat.lt_div_mul_add positive
  omega

omit [DecidableEq α] in
theorem length_of_mem_chunks {size : Nat} {items block : List α}
    (member : block ∈ chunks size items) : block.length ≤ size := by
  obtain ⟨start, -, rfl⟩ := List.mem_map.1 member
  exact List.length_take_le _ _

end Sastsimi.Lib
