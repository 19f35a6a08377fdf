import Mathlib.Data.Finset.Sort
import Mathlib.Data.String.Basic

/-!
# Keyset paging

A page lists the first rows after a key that pass a test.  It is read in batches, each from the
last key of the batch before, until enough rows passed or no rows are left.  Over an ordered
table the pages, each read from the last key of the page before, list every row that passes
exactly once.
-/

namespace Sastsimi.Lib

variable {α ε : Type} [LinearOrder α]

/-! ## Reading -/

/-- The rows of an ordered table after a key. -/
def rowsAfter (table : List α) (key : α) : List α :=
  table.filter (key < ·)

/-- Read the rows of one batch until enough rows passed. -/
def scanBatch (test : α → Except ε Bool) (limit : Nat) (selected : List α) :
    List α → Except ε (List α)
  | [] => .ok selected
  | row :: rest => do
      let passes ← test row
      if passes then
        if limit ≤ (selected ++ [row]).length then pure (selected ++ [row])
        else scanBatch test limit (selected ++ [row]) rest
      else scanBatch test limit selected rest

/-- Read batches after a key until enough rows passed or a batch is not full. -/
def scan (table : List α) (test : α → Except ε Bool) (limit size : Nat) :
    Nat → α → List α → Except ε (List α)
  | 0, _, selected => .ok selected
  | rounds + 1, key, selected =>
      if limit ≤ selected.length then .ok selected
      else
        match ((rowsAfter table key).take size).getLast? with
        | none => .ok selected
        | some last => do
            let selected ← scanBatch test limit selected ((rowsAfter table key).take size)
            if ((rowsAfter table key).take size).length < size then pure selected
            else scan table test limit size rounds last selected

/-- One page after a key. -/
def readPage (table : List α) (test : α → Except ε Bool) (limit size : Nat) (key : α) :
    Except ε (List α) :=
  scan table test limit size (table.length + 1) key []

/-- Pages read one after the other, each from the last key of the page before. -/
def readPages (page : α → Except ε (List α)) : Nat → α → Except ε (List α)
  | 0, _ => .ok []
  | rounds + 1, key => do
      let rows ← page key
      match rows.getLast? with
      | none => pure []
      | some last => do
          let rest ← readPages page rounds last
          pure (rows ++ rest)

/-! ## Ordered tables -/

section Ordered

variable {table front back : List α} {key last : α}

omit [LinearOrder α] in
/-- Behind the last row of the front of an ordered list come the rows of the back. -/
theorem filter_after_last {β : Type} [LinearOrder β] (key : α → β)
    (sorted : (front ++ back).Pairwise fun first second => key first < key second)
    (isLast : front.getLast? = some last) :
    (front ++ back).filter (fun row => key last < key row) = back := by
  have memberLast : last ∈ front := List.mem_of_getLast? isLast
  have sortedParts := List.pairwise_append.1 sorted
  obtain ⟨initial, rfl⟩ : ∃ initial, front = initial ++ [last] :=
    List.getLast?_eq_some_iff.1 isLast
  have frontGone : (initial ++ [last]).filter (fun row => key last < key row) = [] := by
    rw [List.filter_eq_nil_iff]
    intro row member
    rw [List.mem_append, List.mem_singleton] at member
    rcases member with earlier | rfl
    · have below := (List.pairwise_append.1 sortedParts.1).2.2 row earlier last (by simp)
      simpa using below.le
    · simp
  have backKept : back.filter (fun row => key last < key row) = back := by
    rw [List.filter_eq_self]
    intro row member
    simpa using sortedParts.2.2 last memberLast row member
  rw [List.filter_append, frontGone, backKept, List.nil_append]

/-- After the last key of a part of the rows come the other rows. -/
theorem rowsAfter_last (ordered : table.Pairwise (· < ·))
    (rows : rowsAfter table key = front ++ back) (isLast : front.getLast? = some last) :
    rowsAfter table last = back := by
  have afterKey : key < last := by
    have member : last ∈ rowsAfter table key := by
      rw [rows]
      exact List.mem_append_left _ (List.mem_of_getLast? isLast)
    simpa using (List.mem_filter.1 member).2
  have narrowed : rowsAfter table last = (rowsAfter table key).filter (last < ·) := by
    rw [rowsAfter, rowsAfter, List.filter_filter]
    apply List.filter_congr
    intro row _
    have later : last < row → key < row := afterKey.trans
    by_cases above : last < row
    · simp [above, later above]
    · simp [above]
  have sorted : (front ++ back).Pairwise (· < ·) := by
    rw [← rows]
    exact ordered.filter _
  rw [narrowed, rows]
  exact filter_after_last id sorted isLast

theorem filter_rowsAfter (test : α → Bool) :
    (rowsAfter table key).filter test = rowsAfter (table.filter test) key := by
  rw [rowsAfter, rowsAfter, List.filter_filter, List.filter_filter]
  exact List.filter_congr fun row _ => Bool.and_comm _ _

end Ordered

/-! ## What a page lists -/

section Pages

variable {table : List α} {test : α → Except ε Bool} {passes : α → Bool} {limit size : Nat}

omit [LinearOrder α] in
theorem take_append_of_le {left right : List α} (short : left.length ≤ limit) :
    (left ++ right).take limit = left ++ right.take (limit - left.length) := by
  rw [List.take_append, List.take_of_length_le short]

omit [LinearOrder α] in
theorem take_take_append {left right : List α} :
    (left.take limit ++ right).take limit = (left ++ right).take limit := by
  have same : limit - min limit left.length = limit - left.length := by omega
  rw [List.take_append, List.take_append, List.take_take, Nat.min_self, List.length_take, same]

omit [LinearOrder α] in
/-- A batch selects the first rows that pass. -/
theorem scanBatch_eq {rows selected : List α} (answers : ∀ row ∈ rows, test row = .ok (passes row))
    (room : selected.length < limit) :
    scanBatch test limit selected rows = .ok ((selected ++ rows.filter passes).take limit) := by
  induction rows generalizing selected with
  | nil => simp [scanBatch, List.take_of_length_le (Nat.le_of_lt room)]
  | cons row rest ih =>
      have answersRest : ∀ other ∈ rest, test other = .ok (passes other) :=
        fun other member => answers other (List.mem_cons_of_mem _ member)
      rw [scanBatch, answers row (by simp)]
      cases found : passes row with
      | false =>
          rw [List.filter_cons_of_neg (by simp [found])]
          exact ih answersRest room
      | true =>
          rw [List.filter_cons_of_pos found,
            List.append_cons selected row (rest.filter passes)]
          by_cases full : limit ≤ (selected ++ [row]).length
          · have filled : (selected ++ [row]).length = limit := by
              rw [List.length_append, List.length_singleton] at full ⊢
              omega
            have result : ((selected ++ [row]) ++ rest.filter passes).take limit =
                selected ++ [row] := by
              rw [take_append_of_le (Nat.le_of_eq filled), filled, Nat.sub_self, List.take_zero,
                List.append_nil]
            rw [result]
            simp only [bind, Except.bind, pure, Except.pure, full, if_true]
          · have more := ih answersRest (Nat.not_le.1 full)
            simp only [bind, Except.bind, full, if_true, if_false]
            exact more

/-- The batches after a key select the first rows after it that pass. -/
theorem scan_eq (ordered : table.Pairwise (· < ·))
    (answers : ∀ row ∈ table, test row = .ok (passes row)) (positive : 0 < size)
    {rounds : Nat} {key : α} {selected : List α} (room : selected.length ≤ limit)
    (enough : (rowsAfter table key).length < rounds) :
    scan table test limit size rounds key selected =
      .ok ((selected ++ (rowsAfter table key).filter passes).take limit) := by
  induction rounds generalizing key selected with
  | zero => exact absurd enough (Nat.not_lt_zero _)
  | succ rounds ih =>
      rw [scan]
      by_cases full : limit ≤ selected.length
      · rw [if_pos full, take_append_of_le room, Nat.sub_eq_zero_of_le full, List.take_zero,
          List.append_nil]
      rw [if_neg full]
      have split := List.take_append_drop size (rowsAfter table key)
      cases isLast : ((rowsAfter table key).take size).getLast? with
      | none =>
          rw [List.getLast?_eq_none_iff, List.take_eq_nil_iff] at isLast
          have nothing := isLast.resolve_left (Nat.ne_of_gt positive)
          rw [nothing, List.filter_nil, List.append_nil, List.take_of_length_le room]
      | some last =>
          have answersBatch : ∀ row ∈ (rowsAfter table key).take size,
              test row = .ok (passes row) := by
            intro row member
            exact answers row (List.mem_filter.1 (List.mem_of_mem_take member)).1
          rw [scanBatch_eq answersBatch (Nat.not_le.1 full)]
          by_cases short : ((rowsAfter table key).take size).length < size
          · have all : (rowsAfter table key).take size = rowsAfter table key := by
              rw [List.length_take] at short
              exact List.take_of_length_le (by omega)
            rw [all] at short ⊢
            simp [bind, Except.bind, pure, Except.pure, short]
          · have next := rowsAfter_last ordered split.symm isLast
            have fewer : (rowsAfter table last).length < rounds := by
              have nonempty : 0 < (rowsAfter table key).length := by
                rw [List.length_take] at short
                omega
              rw [next, List.length_drop]
              omega
            have roomAfter :
                ((selected ++ ((rowsAfter table key).take size).filter passes).take
                  limit).length ≤ limit := List.length_take_le _ _
            have more := ih roomAfter fewer
            rw [next] at more
            simp only [bind, Except.bind, short, if_false]
            rw [more]
            rw [take_take_append, List.append_assoc, ← List.filter_append, split]

/-- One page lists the first rows after the key that pass. -/
theorem readPage_eq (ordered : table.Pairwise (· < ·))
    (answers : ∀ row ∈ table, test row = .ok (passes row)) (positive : 0 < size) (key : α) :
    readPage table test limit size key =
      .ok (((rowsAfter table key).filter passes).take limit) := by
  have enough : (rowsAfter table key).length < table.length + 1 :=
    Nat.lt_succ_of_le (List.length_filter_le _ _)
  exact scan_eq ordered answers positive (Nat.zero_le _) enough

/-- All pages after a key list every later row that passes, in order. -/
theorem readPages_eq {page : α → Except ε (List α)} (ordered : table.Pairwise (· < ·))
    (pages : ∀ key, page key = .ok (((rowsAfter table key).filter passes).take limit))
    (positive : 0 < limit) {rounds : Nat} {key : α}
    (enough : ((rowsAfter table key).filter passes).length < rounds) :
    readPages page rounds key = .ok ((rowsAfter table key).filter passes) := by
  induction rounds generalizing key with
  | zero => exact absurd enough (Nat.not_lt_zero _)
  | succ rounds ih =>
      rw [readPages, pages]
      have split := List.take_append_drop limit ((rowsAfter table key).filter passes)
      cases isLast : (((rowsAfter table key).filter passes).take limit).getLast? with
      | none =>
          rw [List.getLast?_eq_none_iff, List.take_eq_nil_iff] at isLast
          have nothing := isLast.resolve_left (Nat.ne_of_gt positive)
          simp [bind, Except.bind, pure, Except.pure, nothing]
      | some last =>
          have next : (rowsAfter table last).filter passes =
              ((rowsAfter table key).filter passes).drop limit := by
            rw [filter_rowsAfter] at isLast split ⊢
            rw [filter_rowsAfter]
            exact rowsAfter_last (ordered.filter passes) split.symm isLast
          have fewer : ((rowsAfter table last).filter passes).length < rounds := by
            have nonempty : 0 < ((rowsAfter table key).filter passes).length := by
              apply List.length_pos_of_mem
              exact List.mem_of_mem_take (List.mem_of_getLast? isLast)
            rw [next, List.length_drop]
            omega
          have rest := ih fewer
          simp only [bind, Except.bind, isLast, rest, pure, Except.pure]
          rw [next, split]

end Pages

end Sastsimi.Lib
