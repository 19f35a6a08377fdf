import Sastsimi.Lib.Raising

/-!
# Greedy packing

A sieve drops the items that are too large beside what was dropped before, and keeps the others.

A packing has closed chunks and the one that is being filled.  A turn fills the current chunk
further, or closes it and begins another one when the fuller chunk would be too large.  What every
chunk holds and what the chunks hold together follow from one turn.
-/

namespace Sastsimi.Lib

/-! ## Sieves -/

/-- The items that are kept, and what is left of the others. -/
structure Sieve (α μ : Type) where
  kept : List α
  left : μ

namespace Sieve

variable {α μ ε : Type} {tooLarge : μ → α → Except ε Bool} {drop : μ → α → μ} {start : μ}
variable {items done : List α} {item : α} {sieve next : Sieve α μ} {dropped : List α}

/-- Keep an item or drop it. -/
def sift (tooLarge : μ → α → Except ε Bool) (drop : μ → α → μ) (sieve : Sieve α μ) (item : α) :
    Except ε (Sieve α μ) := do
  let large ← tooLarge sieve.left item
  if large then pure { sieve with left := drop sieve.left item }
  else pure { sieve with kept := sieve.kept ++ [item] }

theorem raisesWithin_sift {allowed : ε → Prop}
    (check : RaisesWithin allowed (tooLarge sieve.left item)) :
    RaisesWithin allowed (sieve.sift tooLarge drop item) := by
  apply check.bind
  intro large _
  cases large
  · exact .ok _
  · exact .ok _

/-- A pass over the items keeps some of them in order and drops the rest: each of them was too
large when its turn came, and none of the others was. -/
structure Sifted (tooLarge : μ → α → Except ε Bool) (drop : μ → α → μ) (start : μ)
    (items : List α) (sieve : Sieve α μ) (dropped : List α) : Prop where
  left : sieve.left = dropped.foldl drop start
  ordered : sieve.kept.Sublist items
  exhausts : (sieve.kept ++ dropped).Perm items
  kept : ∀ item ∈ sieve.kept, ∃ earlier, earlier <+: dropped ∧
    tooLarge (earlier.foldl drop start) item = .ok false
  dropped : ∀ item ∈ dropped, ∃ earlier, earlier <+: dropped ∧
    tooLarge (earlier.foldl drop start) item = .ok true

theorem sifted_nil : Sifted tooLarge drop start [] ⟨[], start⟩ [] where
  left := rfl
  ordered := List.Sublist.refl _
  exhausts := List.Perm.refl _
  kept := by simp
  dropped := by simp

/-- The next item is kept. -/
theorem Sifted.keeps (sifted : Sifted tooLarge drop start done sieve dropped)
    (small : tooLarge sieve.left item = .ok false) :
    Sifted tooLarge drop start (done ++ [item]) { sieve with kept := sieve.kept ++ [item] }
      dropped where
  left := sifted.left
  ordered := sifted.ordered.append (List.Sublist.refl _)
  exhausts := by
    have swapped : (sieve.kept ++ ([item] ++ dropped)).Perm (sieve.kept ++ (dropped ++ [item])) :=
      (List.perm_append_comm).append_left _
    rw [List.append_assoc]
    apply swapped.trans
    rw [← List.append_assoc]
    exact sifted.exhausts.append_right _
  kept := by
    intro other member
    rcases List.mem_append.1 member with earlier | last
    · exact sifted.kept other earlier
    · rw [List.mem_singleton.1 last]
      exact ⟨dropped, List.prefix_rfl, sifted.left ▸ small⟩
  dropped := sifted.dropped

/-- The next item is dropped. -/
theorem Sifted.drops (sifted : Sifted tooLarge drop start done sieve dropped)
    (large : tooLarge sieve.left item = .ok true) :
    Sifted tooLarge drop start (done ++ [item]) { sieve with left := drop sieve.left item }
      (dropped ++ [item]) where
  left := by simp [sifted.left]
  ordered := sifted.ordered.trans (List.sublist_append_left _ _)
  exhausts := by
    rw [← List.append_assoc]
    exact sifted.exhausts.append_right _
  kept := by
    intro other member
    obtain ⟨earlier, before, small⟩ := sifted.kept other member
    exact ⟨earlier, before.trans (List.prefix_append _ _), small⟩
  dropped := by
    intro other member
    rcases List.mem_append.1 member with already | last
    · obtain ⟨earlier, before, found⟩ := sifted.dropped other already
      exact ⟨earlier, before.trans (List.prefix_append _ _), found⟩
    · rw [List.mem_singleton.1 last]
      exact ⟨dropped, List.prefix_append _ _, sifted.left ▸ large⟩

theorem Sifted.turn (sifted : Sifted tooLarge drop start done sieve dropped)
    (turned : sieve.sift tooLarge drop item = .ok next) :
    ∃ dropped, Sifted tooLarge drop start (done ++ [item]) next dropped := by
  unfold sift at turned
  cases found : tooLarge sieve.left item with
  | error reason => simp [found, bind, Except.bind] at turned
  | ok large =>
      cases large with
      | false =>
          have same : next = { sieve with kept := sieve.kept ++ [item] } := by
            simpa [found, bind, Except.bind, pure, Except.pure, eq_comm] using turned
          exact ⟨dropped, same ▸ sifted.keeps found⟩
      | true =>
          have same : next = { sieve with left := drop sieve.left item } := by
            simpa [found, bind, Except.bind, pure, Except.pure, eq_comm] using turned
          exact ⟨dropped ++ [item], same ▸ sifted.drops found⟩

theorem Sifted.run (sifted : Sifted tooLarge drop start done sieve dropped)
    (looped : items.foldlM (sift tooLarge drop) sieve = .ok next) :
    ∃ dropped, Sifted tooLarge drop start (done ++ items) next dropped := by
  induction items generalizing done sieve dropped with
  | nil =>
      have unchanged : sieve = next := by simpa [pure, Except.pure] using looped
      rw [List.append_nil, ← unchanged]
      exact ⟨dropped, sifted⟩
  | cons item rest ih =>
      obtain ⟨middle, turned, continued⟩ := foldlM_cons_ok looped
      obtain ⟨more, turn⟩ := sifted.turn turned
      have whole := ih turn continued
      rwa [List.append_assoc, List.singleton_append] at whole

/-- A whole pass. -/
theorem sifted_pass (looped : items.foldlM (sift tooLarge drop) ⟨[], start⟩ = .ok next) :
    ∃ dropped, Sifted tooLarge drop start items next dropped := sifted_nil.run looped

/-- A pass that drops nothing keeps every item, and none is too large beside what was left
before. -/
theorem Sifted.all_kept (sifted : Sifted tooLarge drop start items sieve [])  :
    sieve = ⟨items, start⟩ ∧ ∀ item ∈ items, tooLarge start item = .ok false := by
  have same : sieve.kept = items := by
    apply sifted.ordered.eq_of_length
    simpa using sifted.exhausts.length_eq
  constructor
  · rw [← same, show start = sieve.left from sifted.left.symm]
  · intro item member
    obtain ⟨earlier, before, small⟩ := sifted.kept item (same ▸ member)
    rwa [List.prefix_nil.1 before] at small

end Sieve

/-! ## Packings -/

/-- The closed chunks, and the current one. -/
structure Packing (κ : Type) where
  chunks : List κ
  current : κ

namespace Packing

variable {κ ε : Type} {tooLarge : κ → Except ε Bool} {packing next : Packing κ}
variable {fuller fresh : κ}

/-- Every chunk, the current one last. -/
def all (packing : Packing κ) : List κ := packing.chunks ++ [packing.current]

/-- Go on with the fuller chunk, or close the current one and begin a fresh one. -/
def put (tooLarge : κ → Except ε Bool) (packing : Packing κ) (fuller fresh : κ) :
    Except ε (Packing κ) := do
  let large ← tooLarge fuller
  if large then pure ⟨packing.chunks ++ [packing.current], fresh⟩
  else pure ⟨packing.chunks, fuller⟩

/-- A turn goes on with a chunk that is small enough, or leaves it for a fresh one. -/
theorem put_cases (turned : packing.put tooLarge fuller fresh = .ok next) :
    (tooLarge fuller = .ok false ∧ next = ⟨packing.chunks, fuller⟩) ∨
      (tooLarge fuller = .ok true ∧ next = ⟨packing.all, fresh⟩) := by
  unfold put at turned
  cases found : tooLarge fuller with
  | error reason => simp [found, bind, Except.bind] at turned
  | ok large =>
      cases large with
      | false =>
          left
          simpa [found, bind, Except.bind, pure, Except.pure, eq_comm] using turned
      | true =>
          right
          simpa [found, bind, Except.bind, pure, Except.pure, all, eq_comm] using turned

theorem raisesWithin_put {allowed : ε → Prop} (check : RaisesWithin allowed (tooLarge fuller)) :
    RaisesWithin allowed (packing.put tooLarge fuller fresh) := by
  apply check.bind
  intro large _
  cases large
  · exact .ok _
  · exact .ok _

/-- What holds of every chunk holds after a turn, when it holds of a fresh chunk and of a fuller
one that is not too large. -/
theorem put_keeps (holds : κ → Prop) (turned : packing.put tooLarge fuller fresh = .ok next)
    (filled : tooLarge fuller = .ok false → holds packing.current → holds fuller)
    (begun : tooLarge fuller = .ok true → holds fresh)
    (kept : ∀ chunk ∈ packing.all, holds chunk) : ∀ chunk ∈ next.all, holds chunk := by
  have current : holds packing.current := kept _ (by simp [all])
  have closed : ∀ chunk ∈ packing.chunks, holds chunk := fun chunk member =>
    kept chunk (by simp [all, member])
  rcases put_cases turned with ⟨small, same⟩ | ⟨large, same⟩
  · subst same
    simp only [all, List.mem_append, List.mem_singleton]
    rintro chunk (member | here)
    · exact closed chunk member
    · exact here ▸ filled small current
  · subst same
    simp only [all, List.mem_append, List.mem_singleton]
    rintro chunk ((member | here) | here)
    · exact closed chunk member
    · exact here ▸ current
    · exact here ▸ begun large

/-- What holds of some chunk holds of one after a turn, when it goes on to a fuller chunk. -/
theorem put_exists (holds : κ → Prop) (turned : packing.put tooLarge fuller fresh = .ok next)
    (filled : holds packing.current → holds fuller)
    (found : ∃ chunk ∈ packing.all, holds chunk) : ∃ chunk ∈ next.all, holds chunk := by
  obtain ⟨chunk, member, kept⟩ := found
  rcases put_cases turned with ⟨-, same⟩ | ⟨-, same⟩
  · subst same
    rcases List.mem_append.1 member with closed | last
    · exact ⟨chunk, List.mem_append_left _ closed, kept⟩
    · rw [List.mem_singleton.1 last] at kept
      exact ⟨fuller, by simp [all], filled kept⟩
  · subst same
    exact ⟨chunk, List.mem_append_left _ member, kept⟩

theorem put_current (holds : κ → Prop) (turned : packing.put tooLarge fuller fresh = .ok next)
    (filled : holds fuller) (begun : holds fresh) : holds next.current := by
  rcases put_cases turned with ⟨-, same⟩ | ⟨-, same⟩
  · exact same ▸ filled
  · exact same ▸ begun

/-- When both the fuller and the fresh chunk show one share more, so do the chunks together. -/
theorem put_shows {β : Type} {shows : κ → List β} {share : List β}
    (turned : packing.put tooLarge fuller fresh = .ok next)
    (filled : shows fuller = shows packing.current ++ share) (begun : shows fresh = share) :
    next.all.flatMap shows = packing.all.flatMap shows ++ share := by
  rcases put_cases turned with ⟨-, same⟩ | ⟨-, same⟩
  · subst same
    simp [all, filled]
  · subst same
    simp [all, begun]

/-- When every turn shows its item's share, the loop shows the shares of all items in order. -/
theorem run_shows {α β : Type} {shows : κ → List β} {share : α → List β} {items : List α}
    {step : Packing κ → α → Except ε (Packing κ)} {after : Packing κ}
    (turn : ∀ {packing item next}, step packing item = .ok next →
      next.all.flatMap shows = packing.all.flatMap shows ++ share item)
    (looped : items.foldlM step packing = .ok after) :
    after.all.flatMap shows = packing.all.flatMap shows ++ items.flatMap share := by
  induction items generalizing packing with
  | nil =>
      have unchanged : packing = after := by simpa [pure, Except.pure] using looped
      simp [unchanged]
  | cons item rest ih =>
      obtain ⟨middle, turned, continued⟩ := foldlM_cons_ok looped
      rw [ih continued, turn turned, List.append_assoc, List.flatMap_cons]

end Packing

end Sastsimi.Lib
