import Sastsimi.Lib.Dedup
import Sastsimi.Lib.Table

/-!
# First and latest writes

A table that inserts a new key behind the others and updates a known key in place lists its keys
by their first writes.  Within a group of keys this is the order of the latest writes exactly as
long as no write updates a key behind which another key of its group stands.
-/

namespace Sastsimi.Lib

/-! ## Insert or update -/

namespace Table

variable {ρ κ : Type} [DecidableEq κ] {key : ρ → κ}

/-- Insert a row, or merge it into the row of its key. -/
def upsert (table : Table key) (row : ρ) (merge : ρ → ρ)
    (keeps : ∀ old, key (merge old) = key old) : Table key :=
  match table.insert row with
  | some inserted => inserted
  | none => table.update (fun old => decide (key old = key row)) merge keeps

/-- A known key keeps its place and a new one comes last. -/
theorem keys_upsert {table : Table key} {row : ρ} {merge : ρ → ρ}
    {keeps : ∀ old, key (merge old) = key old} :
    (table.upsert row merge keeps).rows.map key =
      if key row ∈ table.rows.map key then table.rows.map key
      else table.rows.map key ++ [key row] := by
  rw [upsert]
  split
  · rename_i inserted found
    obtain ⟨fresh, rows⟩ := insert_eq_some.1 found
    have missing : key row ∉ table.rows.map key := by
      rw [List.mem_map]
      intro ⟨other, member, same⟩
      exact find_eq_none.1 fresh other member same
    rw [rows, if_neg missing, List.map_append, List.map_singleton]
  · rename_i taken
    obtain ⟨other, found⟩ := Option.ne_none_iff_exists'.1 (insert_eq_none.1 taken)
    obtain ⟨member, same⟩ := find_eq_some.1 found
    have known : key row ∈ table.rows.map key := List.mem_map.2 ⟨other, member, same⟩
    rw [if_pos known, map_update keeps fun old _ _ => keeps old]

/-- A row of the changed table is an old row, the inserted one or the merged one. -/
theorem mem_upsert {table : Table key} {row other : ρ} {merge : ρ → ρ}
    {keeps : ∀ old, key (merge old) = key old}
    (member : other ∈ (table.upsert row merge keeps).rows) :
    other ∈ table.rows ∨ other = row ∨
      ∃ old ∈ table.rows, key old = key row ∧ other = merge old := by
  rw [upsert] at member
  split at member
  · rename_i inserted found
    rw [(insert_eq_some.1 found).2, List.mem_append, List.mem_singleton] at member
    exact member.imp_right .inl
  · obtain ⟨old, stored, rfl⟩ := List.mem_map.1 member
    split
    · rename_i same
      exact .inr (.inr ⟨old, stored, of_decide_eq_true same, rfl⟩)
    · exact .inl stored

end Table

/-! ## Histories of writes -/

section Histories

variable {κ γ : Type} [DecidableEq κ] {group : κ → γ} {history earlier : List κ}
  {key other : κ}

/-- The number of the latest write of a key, counted from one; zero for a key that was not
written. -/
def lastWrite (history : List κ) (key : κ) : Nat :=
  history.length - history.reverse.idxOf key

@[simp] theorem lastWrite_self : lastWrite (history ++ [key]) key = history.length + 1 := by
  simp [lastWrite]

theorem lastWrite_other (differs : other ≠ key) :
    lastWrite (history ++ [key]) other = lastWrite history other := by
  have skipped : (key :: history.reverse).idxOf other = history.reverse.idxOf other + 1 := by
    rw [List.idxOf_cons_ne _ differs.symm]
  rw [lastWrite, List.reverse_append, List.reverse_singleton, List.singleton_append, skipped,
    List.length_append, List.length_singleton, lastWrite]
  omega

theorem lastWrite_le (history : List κ) (key : κ) : lastWrite history key ≤ history.length :=
  Nat.sub_le _ _

/-- The keys of a history after one more write. -/
theorem eraseDups_concat :
    (history ++ [key]).eraseDups =
      if key ∈ history.eraseDups then history.eraseDups else history.eraseDups ++ [key] := by
  rw [List.eraseDups_append]
  by_cases known : key ∈ history
  · simp [List.removeAll, known]
  · simp [List.removeAll, known, List.eraseDups_cons]

/-- Behind a key of a list stands another key of its group. -/
def Overtaken (group : κ → γ) (keys : List κ) (key : κ) : Prop :=
  ∃ other, [key, other].Sublist keys ∧ group other = group key

/-- Within a group the keys of a list stand in the order of their latest writes. -/
def LatestLast (group : κ → γ) (history keys : List κ) : Prop :=
  keys.Pairwise fun first second =>
    group first = group second → lastWrite history first < lastWrite history second

/-- A write keeps the order when no key of its group stands behind its key. -/
theorem LatestLast.write (ordered : LatestLast group history history.eraseDups)
    (inOrder : ¬ Overtaken group history.eraseDups key) :
    LatestLast group (history ++ [key]) (history ++ [key]).eraseDups := by
  have kept : LatestLast group (history ++ [key]) history.eraseDups := by
    have distinct : history.eraseDups.Nodup := nodup_eraseDups
    apply List.pairwise_iff_forall_sublist.2
    intro first second placed together
    have before := List.pairwise_iff_forall_sublist.1 ordered placed together
    have apart : first ≠ second := List.pairwise_iff_forall_sublist.1 distinct placed
    by_cases rewritten : first = key
    · subst rewritten
      exact absurd ⟨second, placed, together.symm⟩ inOrder
    · rw [lastWrite_other rewritten]
      by_cases last : second = key
      · rw [last, lastWrite_self]
        exact Nat.lt_succ_of_le (lastWrite_le _ _)
      · rwa [lastWrite_other last]
  rw [eraseDups_concat]
  split
  · exact kept
  · rename_i new
    apply List.pairwise_append.2
    refine ⟨kept, List.pairwise_singleton _ _, ?_⟩
    intro first member second isLast _
    rw [List.mem_singleton] at isLast
    have apart : first ≠ key := by
      rintro rfl
      exact new member
    rw [isLast, lastWrite_self, lastWrite_other apart]
    exact Nat.lt_succ_of_le (lastWrite_le _ _)

/-- A write of a key behind which a key of its group stands breaks the order. -/
theorem LatestLast.not_overtaken
    (ordered : LatestLast group (history ++ [key]) (history ++ [key]).eraseDups) :
    ¬ Overtaken group history.eraseDups key := by
  rintro ⟨other, placed, together⟩
  have known : key ∈ history.eraseDups := placed.subset List.mem_cons_self
  rw [eraseDups_concat, if_pos known] at ordered
  have less := List.pairwise_iff_forall_sublist.1 ordered placed together.symm
  have most : lastWrite (history ++ [key]) other ≤ history.length + 1 := by
    simpa using lastWrite_le (history ++ [key]) other
  rw [lastWrite_self] at less
  omega

end Histories

end Sastsimi.Lib
