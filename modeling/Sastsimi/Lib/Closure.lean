import Mathlib.Data.List.Basic
import Mathlib.Logic.Relation

/-!
# Descendants in a graph of parents

The breadth-first loop over a graph that lists the parents of every node.  Each round adds the
children of the last round that were not found before; the start is never added.  The loop ends
on every graph, cyclic ones included, with exactly the nodes that descend from the start.
-/

namespace Sastsimi.Lib

variable {α : Type}

/-- One node is listed as a parent of another. -/
def ParentOf (graph : List (α × List α)) (parent child : α) : Prop :=
  ∃ entry ∈ graph, entry.1 = child ∧ parent ∈ entry.2

/-- A node that other nodes lead to, through one parent or more. -/
def DescendsFrom (graph : List (α × List α)) (start : α) : α → Prop :=
  Relation.TransGen (ParentOf graph) start

variable [DecidableEq α]

/-- The children of the last round that were not found before. -/
def nextFrontier (graph : List (α × List α)) (start : α) (found frontier : List α) : List α :=
  (graph.filter fun entry => entry.1 ∉ found ∧ entry.1 ≠ start
    ∧ ∃ parent ∈ entry.2, parent ∈ frontier).map Prod.fst

/-- The loop, for at most a given number of rounds. -/
def descend (graph : List (α × List α)) (start : α) :
    Nat → List α → List α → Option (List α)
  | 0, _, _ => none
  | _ + 1, found, [] => some found
  | rounds + 1, found, frontier =>
      descend graph start rounds (found ++ nextFrontier graph start found frontier)
        (nextFrontier graph start found frontier)

/-- Enough rounds for every graph. -/
def enoughRounds (graph : List (α × List α)) : Nat := graph.length + 2

/-- The descendants of a node, as the loop finds them from the node alone. -/
def descendants (graph : List (α × List α)) (start : α) (rounds : Nat) : Option (List α) :=
  descend graph start rounds [] [start]

variable {graph : List (α × List α)} {start child : α} {found frontier result : List α}
  {rounds : Nat}

theorem mem_nextFrontier :
    child ∈ nextFrontier graph start found frontier ↔
      child ∉ found ∧ child ≠ start ∧ ∃ parent ∈ frontier, ParentOf graph parent child := by
  simp only [nextFrontier, List.mem_map, List.mem_filter, decide_eq_true_eq, ParentOf]
  constructor
  · rintro ⟨entry, ⟨listed, fresh, other, parent, above, member⟩, rfl⟩
    exact ⟨fresh, other, parent, member, entry, listed, rfl, above⟩
  · rintro ⟨fresh, other, parent, member, entry, listed, rfl, above⟩
    exact ⟨entry, ⟨listed, fresh, other, parent, above, member⟩, rfl⟩

/-! ## The loop ends -/

/-- The entries whose node is not found yet. -/
def unexplored (graph : List (α × List α)) (found : List α) : Nat :=
  graph.countP fun entry => entry.1 ∉ found

/-- A round that finds a node leaves fewer nodes to find. -/
theorem unexplored_lt (finds : nextFrontier graph start found frontier ≠ []) :
    unexplored graph (found ++ nextFrontier graph start found frontier)
      < unexplored graph found := by
  obtain ⟨child, member⟩ := List.exists_mem_of_ne_nil _ finds
  obtain ⟨fresh, -, parent, -, entry, listed, rfl, -⟩ := mem_nextFrontier.1 member
  obtain ⟨before, behind, split⟩ := List.append_of_mem listed
  have less : ∀ entries : List (α × List α),
      (entries.countP fun entry => entry.1 ∉ found ++ nextFrontier graph start found frontier)
        ≤ entries.countP fun entry => entry.1 ∉ found := by
    intro entries
    apply List.countP_mono_left
    intro other _ unfound
    simp only [List.mem_append, not_or, decide_eq_true_eq] at unfound ⊢
    exact unfound.1
  have counted : (entry :: behind).countP (fun entry =>
        entry.1 ∉ found ++ nextFrontier graph start found frontier)
      < (entry :: behind).countP fun entry => entry.1 ∉ found := by
    rw [List.countP_cons_of_neg (by simp [member]), List.countP_cons_of_pos (by simp [fresh])]
    exact Nat.lt_succ_of_le (less behind)
  have summed : ∀ selects : α × List α → Bool, graph.countP selects
      = before.countP selects + (entry :: behind).countP selects := by
    intro selects
    rw [split, List.countP_append]
  rw [unexplored, unexplored, summed, summed]
  exact Nat.add_lt_add_of_le_of_lt (less before) counted

/-- The loop ends when it has two rounds more than there are nodes to find. -/
theorem descend_ends (enough : unexplored graph found + 2 ≤ rounds) :
    ∃ result, descend graph start rounds found frontier = some result := by
  induction rounds generalizing found frontier with
  | zero => omega
  | succ rounds ih =>
      cases frontier with
      | nil => exact ⟨found, rfl⟩
      | cons first rest =>
          rw [descend]
          · by_cases last : nextFrontier graph start found (first :: rest) = []
            · obtain ⟨rounds, rfl⟩ : ∃ fewer, rounds = fewer + 1 := ⟨rounds - 1, by omega⟩
              rw [last]
              exact ⟨found ++ [], rfl⟩
            · apply ih
              have fewer := unexplored_lt last
              omega
          · exact fun absent => absurd absent (List.cons_ne_nil first rest)

/-- More rounds do not change the result. -/
theorem descend_more (ended : descend graph start rounds found frontier = some result)
    (extra : Nat) : descend graph start (rounds + extra) found frontier = some result := by
  induction rounds generalizing found frontier with
  | zero => cases ended
  | succ rounds ih =>
      rw [Nat.add_right_comm]
      cases frontier with
      | nil => exact ended
      | cons first rest => exact ih ended

/-- On every graph the loop ends, with one result however many rounds it may take. -/
theorem descendants_ends (graph : List (α × List α)) (start : α) :
    ∃ result, ∀ extra, descendants graph start (enoughRounds graph + extra) = some result := by
  have enough : unexplored graph [] + 2 ≤ enoughRounds graph :=
    Nat.add_le_add_right List.countP_le_length 2
  obtain ⟨result, ended⟩ := @descend_ends α _ graph start [] [start] _ enough
  exact ⟨result, descend_more ended⟩

/-! ## What it finds -/

/-- What is found descends from the start, and every child of a node of an earlier round is
found. -/
structure Explored (graph : List (α × List α)) (start : α) (found frontier : List α) : Prop where
  descends : ∀ node ∈ found, node ≠ start ∧ DescendsFrom graph start node
  reached : ∀ node ∈ frontier, node = start ∨ node ∈ found
  closed : ∀ parent child, parent = start ∨ parent ∈ found → parent ∉ frontier →
    ParentOf graph parent child → child = start ∨ child ∈ found

omit [DecidableEq α] in
/-- A node that is the start or found leads only to descendants. -/
theorem Explored.leads (explored : Explored graph start found frontier) {parent : α}
    (known : parent = start ∨ parent ∈ found) (above : ParentOf graph parent child) :
    DescendsFrom graph start child := by
  rcases known with rfl | member
  · exact .single above
  · exact (explored.descends parent member).2.tail above

/-- A round keeps what the loop knows. -/
theorem Explored.round (explored : Explored graph start found frontier) :
    Explored graph start (found ++ nextFrontier graph start found frontier)
      (nextFrontier graph start found frontier) where
  descends := by
    intro node member
    rcases List.mem_append.1 member with old | new
    · exact explored.descends node old
    · obtain ⟨-, other, parent, last, above⟩ := mem_nextFrontier.1 new
      exact ⟨other, explored.leads (explored.reached parent last) above⟩
  reached := fun node member => .inr (List.mem_append_right found member)
  closed := by
    intro parent child known earlier above
    have known : parent = start ∨ parent ∈ found := by
      rcases known with same | member
      · exact .inl same
      · rcases List.mem_append.1 member with old | new
        · exact .inr old
        · exact absurd new earlier
    by_cases last : parent ∈ frontier
    · by_cases unfound : child ≠ start ∧ child ∉ found
      · exact .inr (List.mem_append_right found
          (mem_nextFrontier.2 ⟨unfound.2, unfound.1, parent, last, above⟩))
      · rw [not_and_or, not_not, not_not] at unfound
        exact unfound.imp_right (List.mem_append_left _)
    · exact (explored.closed parent child known last above).imp_right (List.mem_append_left _)

/-- The loop ends with every child of what it found. -/
theorem Explored.ended (explored : Explored graph start found frontier)
    (ended : descend graph start rounds found frontier = some result) :
    Explored graph start result [] := by
  induction rounds generalizing found frontier with
  | zero => cases ended
  | succ rounds ih =>
      cases frontier with
      | nil =>
          cases ended
          exact explored
      | cons first rest => exact ih explored.round ended

/-- The loop finds exactly the descendants other than the start. -/
theorem mem_descendants (ended : descendants graph start rounds = some result) :
    child ∈ result ↔ child ≠ start ∧ DescendsFrom graph start child := by
  have begun : Explored graph start [] [start] :=
    { descends := fun node member => absurd member List.not_mem_nil
      reached := fun node member => .inl (List.mem_singleton.1 member)
      closed := by
        intro parent child known earlier
        simp at known earlier
        exact absurd known earlier }
  have explored := begun.ended ended
  have closed : ∀ parent child, parent = start ∨ parent ∈ result → ParentOf graph parent child →
      child = start ∨ child ∈ result :=
    fun parent child known => explored.closed parent child known List.not_mem_nil
  have found : ∀ node, DescendsFrom graph start node → node = start ∨ node ∈ result := by
    intro node descends
    induction descends with
    | single above => exact closed start _ (.inl rfl) above
    | tail _ above ih => exact closed _ _ ih above
  constructor
  · exact explored.descends child
  · rintro ⟨other, descends⟩
    exact (found child descends).resolve_left other

end Sastsimi.Lib
