import Mathlib.Logic.Relation

/-!
# Rankings of marked steps

A system alternates quiet steps, of which there may be any number, with marked ones.  When no
quiet step raises the rank of a state and every marked step lowers it, the rank bounds the
number of marked steps.
-/

namespace Sastsimi.Lib

variable {σ : Type} {quiet marked : σ → σ → Prop} {ranked : σ → Nat → Prop}

/-- States with ranks: a quiet step never raises the rank, and a marked step lowers it. -/
structure Ranking (quiet marked : σ → σ → Prop) (ranked : σ → Nat → Prop) : Prop where
  stays : ∀ {before after : σ} {rank : Nat}, ranked before rank → quiet before after →
    ∃ lower, lower ≤ rank ∧ ranked after lower
  drops : ∀ {before after : σ} {rank : Nat}, ranked before rank → marked before after →
    ∃ lower, lower < rank ∧ ranked after lower

/-- Rounds of quiet steps that each end by a marked one. -/
inductive Rounds (quiet marked : σ → σ → Prop) : Nat → σ → σ → Prop where
  | nil {state : σ} : Rounds quiet marked 0 state state
  | cons {rounds : Nat} {before middle between after : σ}
      (steps : Relation.ReflTransGen quiet before middle) (mark : marked middle between)
      (rest : Rounds quiet marked rounds between after) :
      Rounds quiet marked (rounds + 1) before after

/-- Any number of quiet steps never raises the rank. -/
theorem Ranking.quiet_steps (ranking : Ranking quiet marked ranked) {before after : σ}
    {rank : Nat} (holds : ranked before rank)
    (steps : Relation.ReflTransGen quiet before after) :
    ∃ lower, lower ≤ rank ∧ ranked after lower := by
  induction steps with
  | refl => exact ⟨rank, Nat.le_refl _, holds⟩
  | tail _ step ih =>
      obtain ⟨middle, below, middleRanked⟩ := ih
      obtain ⟨lower, further, lowerRanked⟩ := ranking.stays middleRanked step
      exact ⟨lower, Nat.le_trans further below, lowerRanked⟩

/-- The rank bounds the number of rounds. -/
theorem Ranking.rounds_le (ranking : Ranking quiet marked ranked) {rounds rank : Nat}
    {before after : σ} (holds : ranked before rank)
    (run : Rounds quiet marked rounds before after) : rounds ≤ rank := by
  induction run generalizing rank with
  | nil => exact Nat.zero_le _
  | cons steps mark _ ih =>
      obtain ⟨middle, below, middleRanked⟩ := ranking.quiet_steps holds steps
      obtain ⟨lower, further, lowerRanked⟩ := ranking.drops middleRanked mark
      have tail := ih lowerRanked
      omega

end Sastsimi.Lib
