import Sastsimi.Chaining.Pool
import Sastsimi.Lib.Transaction

/-!
# Pair coverage

A plan permits every pair of distinct primitives in exactly one batch, and every batch that
would be prompted fits the context limit.  A batch that is skipped for want of a material pair is
one whose children the validation would reject.
-/

namespace Sastsimi.Chaining

open Lib Sastsimi.Runtime

variable {world : Surroundings} {left right : List StoredDataRef} {sameBlock : Bool}

/-! ## The admitted pool -/

/-- A dictionary of references by their content hashes. -/
structure ByHash (refs : List (String × StoredDataRef)) : Prop where
  keyed : ∀ entry ∈ refs, entry.1 = entry.2.contentHash
  distinct : (refs.map Prod.fst).Nodup

theorem ByHash.assign {refs : List (String × StoredDataRef)} (byHash : ByHash refs)
    (ref : StoredDataRef) : ByHash (assign ref.contentHash ref refs) where
  keyed entry member := by
    rcases mem_assign member with rfl | old
    · rfl
    · exact byHash.keyed entry old
  distinct := keys_assign_nodup byHash.distinct

theorem admitRef_byHash {identity : CheckpointIdentity} {hypothesisId : String}
    {refs after : List (String × StoredDataRef)} {ref : StoredDataRef} (byHash : ByHash refs)
    (admitted : admitRef world identity hypothesisId refs ref = .ok after) : ByHash after := by
  obtain ⟨-, admitted⟩ := raiseIf_bind_ok.1 admitted
  obtain ⟨value, -, admitted⟩ := except_bind_ok admitted
  dsimp only at admitted
  split at admitted
  · cases admitted
    exact byHash
  · obtain ⟨-, admitted⟩ := raiseIf_bind_ok.1 admitted
    cases admitted
    exact byHash.assign ref

/-- The admitted primitives of an analysis are a pool. -/
theorem admittedPrimitiveRefs_distinct [Platform] {identity : CheckpointIdentity}
    {hasHypothesis : String → Bool} {checkpoints : List StageCheckpoint}
    {refs : List StoredDataRef}
    (admitted : admittedPrimitiveRefs world identity hasHypothesis checkpoints = .ok refs) :
    ∃ pool : Pool, pool.refs = refs := by
  obtain ⟨found, looped, returned⟩ := except_bind_ok admitted
  cases returned
  obtain ⟨-, looped⟩ := raiseIf_bind_ok.1 looped
  have byHash : ByHash found := by
    refine foldlM_keeps (fun _ turned kept => ?_) looped ⟨by simp, by simp⟩
    unfold admitCheckpoint at turned
    split at turned
    · cases turned
      exact kept
    · exact foldlM_keeps (fun _ admits stays => admitRef_byHash stays admits) turned kept
  refine ⟨⟨sortedValues found, ?_⟩, rfl⟩
  have sorted := List.mergeSort_perm found fun left right => left.1 ≤ right.1
  have keys : (sortedValues found).map (·.contentHash) =
      (found.mergeSort fun left right => left.1 ≤ right.1).map Prod.fst := by
    rw [sortedValues, List.map_map]
    exact List.map_congr_left fun entry member =>
      (byHash.keyed entry (sorted.mem_iff.1 member)).symm
  rw [keys]
  exact (sorted.map Prod.fst).nodup_iff.2 byHash.distinct

/-! ## Splitting -/

/-- The content hashes of references. -/
def hashes (refs : List StoredDataRef) : List String := refs.map (·.contentHash)

@[simp] theorem hashes_append {front back : List StoredDataRef} :
    hashes (front ++ back) = hashes front ++ hashes back :=
  List.map_append

/-- The content hashes of the two sides of a partition. -/
def Partition.sides (part : Partition) : List String × List String :=
  (hashes part.left, hashes part.right)

/-- A partition as the plan builds it: a block is paired with itself. -/
def block (refs : List StoredDataRef) : Partition := { left := refs, right := refs, sameBlock := true }

def crossing (left right : List StoredDataRef) : Partition :=
  { left, right, sameBlock := false }

@[simp] theorem considered_block (refs : List StoredDataRef) : (block refs).considered = refs := rfl

@[simp] theorem considered_crossing (left right : List StoredDataRef) :
    (crossing left right).considered = left ++ right := rfl

/-- The context check accepts a partition that would be prompted. -/
def Fits (world : Surroundings) (refs : List StoredDataRef) : Prop :=
  2 ≤ refs.length → ∃ context, completePoolContext world refs = .ok context

theorem completePoolContext_long {refs : List StoredDataRef} {context : List UInt8}
    (prompted : world.promptContext refs = .ok context)
    (long : maxContextBytes < context.length) :
    completePoolContext world refs = .error contextTooLarge := by
  rw [completePoolContext, prompted]
  show (raiseIf _ _ >>= _) = _
  rw [raiseIf, if_pos long]
  rfl

/-- What the splitting makes of a partition. -/
inductive Splits (world : Surroundings) : Partition → List Partition → Prop where
  | keep {part : Partition} (fits : Fits world part.considered) : Splits world part [part]
  | halves {refs front back : List StoredDataRef} {inFront across inBack : List Partition}
      (whole : front ++ back = refs) : Splits world (block front) inFront →
      Splits world (crossing front back) across → Splits world (block back) inBack →
      Splits world (block refs) (inFront ++ across ++ inBack)
  | left {refs front back right : List StoredDataRef} {inFront inBack : List Partition}
      (whole : front ++ back = refs) : Splits world (crossing front right) inFront →
      Splits world (crossing back right) inBack →
      Splits world (crossing refs right) (inFront ++ inBack)
  | right {left refs front back : List StoredDataRef} {inFront inBack : List Partition}
      (whole : front ++ back = refs) : Splits world (crossing left front) inFront →
      Splits world (crossing left back) inBack →
      Splits world (crossing left refs) (inFront ++ inBack)

/-- The partitions that `add` appends are a splitting of its arguments. -/
theorem add_splits {parts : List Partition} (paired : sameBlock = true → right = left)
    (added : add world left right sameBlock = .ok parts) :
    Splits world { left, right, sameBlock } parts := by
  fun_induction add world left right sameBlock generalizing parts
  case case1 short =>
    cases added
    exact .keep fun atLeastTwo => absurd short (Nat.not_lt.2 atLeastTwo)
  case case2 context checked =>
    cases added
    exact .keep fun _ => ⟨context, checked⟩
  case case3 => cases added
  case case4 same first second ihFirst ihAcross ihSecond =>
    obtain ⟨rfl, -⟩ := same
    cases paired rfl
    obtain ⟨inFirst, firstAdded, added⟩ := except_bind_ok added
    obtain ⟨across, acrossAdded, added⟩ := except_bind_ok added
    obtain ⟨inSecond, secondAdded, added⟩ := except_bind_ok added
    cases added
    exact .halves (List.take_append_drop _ _) (ihFirst (fun _ => rfl) firstAdded)
      (ihAcross (fun impossible => by cases impossible) acrossAdded)
      (ihSecond (fun _ => rfl) secondAdded)
  case case5 long ihFront ihBack =>
    obtain ⟨rfl, -⟩ := long
    obtain ⟨front, frontAdded, added⟩ := except_bind_ok added
    obtain ⟨back, backAdded, added⟩ := except_bind_ok added
    cases added
    exact .left (List.take_append_drop _ _)
      (ihFront (fun impossible => by cases impossible) frontAdded)
      (ihBack (fun impossible => by cases impossible) backAdded)
  case case6 long ihFront ihBack =>
    obtain ⟨rfl, -⟩ := long
    obtain ⟨front, frontAdded, added⟩ := except_bind_ok added
    obtain ⟨back, backAdded, added⟩ := except_bind_ok added
    cases added
    exact .right (List.take_append_drop _ _)
      (ihFront (fun impossible => by cases impossible) frontAdded)
      (ihBack (fun impossible => by cases impossible) backAdded)
  case case7 => cases added

variable {part : Partition} {parts : List Partition}

/-- Every part considers some of the primitives of the whole, in their order. -/
theorem Splits.considered (splits : Splits world part parts) :
    ∀ piece ∈ parts, piece.considered.Sublist part.considered := by
  induction splits with
  | keep =>
      intro piece member
      rw [List.mem_singleton.1 member]
  | halves whole _ _ _ ihFront ihAcross ihBack =>
      cases whole
      intro piece member
      rw [List.mem_append, List.mem_append] at member
      rcases member with (inFront | across) | inBack
      · exact (ihFront piece inFront).trans (List.sublist_append_left _ _)
      · exact ihAcross piece across
      · exact (ihBack piece inBack).trans (List.sublist_append_right _ _)
  | left whole _ _ ihFront ihBack =>
      cases whole
      intro piece member
      rcases List.mem_append.1 member with inFront | inBack
      · exact (ihFront piece inFront).trans ((List.sublist_append_left _ _).append_right _)
      · exact (ihBack piece inBack).trans ((List.sublist_append_right _ _).append_right _)
  | right whole _ _ ihFront ihBack =>
      cases whole
      intro piece member
      rcases List.mem_append.1 member with inFront | inBack
      · exact (ihFront piece inFront).trans ((List.sublist_append_left _ _).append_left _)
      · exact (ihBack piece inBack).trans ((List.sublist_append_right _ _).append_left _)

/-- Every part fits. -/
theorem Splits.fits (splits : Splits world part parts) :
    ∀ piece ∈ parts, Fits world piece.considered := by
  induction splits with
  | keep fits =>
      intro piece member
      rwa [List.mem_singleton.1 member]
  | halves _ _ _ _ ihFront ihAcross ihBack =>
      intro piece member
      rw [List.mem_append, List.mem_append] at member
      exact member.elim (Or.rec (ihFront piece) (ihAcross piece)) (ihBack piece)
  | left _ _ _ ihFront ihBack | right _ _ _ ihFront ihBack =>
      intro piece member
      exact (List.mem_append.1 member).elim (ihFront piece) (ihBack piece)

/-- How many partitions permit a pair of content hashes. -/
def permitCount (first second : String) (parts : List Partition) : Nat :=
  crossCount first second (parts.map Partition.sides)

theorem permitCount_append {first second : String} {front back : List Partition} :
    permitCount first second (front ++ back) =
      permitCount first second front + permitCount first second back := by
  rw [permitCount, List.map_append, crossCount_append]
  rfl

theorem permitCount_cons {first second : String} {rest : List Partition} :
    permitCount first second (part :: rest) =
      permitCount first second [part] + permitCount first second rest :=
  crossCount_cons

/-- Splitting keeps how often a pair is permitted. -/
theorem Splits.permitCount (splits : Splits world part parts)
    (distinct : (hashes part.considered).Nodup) (first second : String) :
    permitCount first second parts = permitCount first second [part] := by
  induction splits with
  | keep => rfl
  | @halves refs front back inFront across inBack whole _ _ _ ihFront ihAcross ihBack =>
      cases whole
      rw [considered_block, hashes_append] at distinct
      obtain ⟨frontDistinct, backDistinct, -⟩ := List.nodup_append.1 distinct
      have acrossDistinct : (hashes (crossing front back).considered).Nodup := by
        rwa [considered_crossing, hashes_append]
      rw [permitCount_append, permitCount_append, ihFront frontDistinct, ihAcross acrossDistinct,
        ihBack backDistinct, ← permitCount_append, ← permitCount_append]
      have halves := @crossCount_halves _ _ first second _ _
        (List.disjoint_of_nodup_append distinct)
      rwa [← hashes_append] at halves
  | @left refs front back right inFront inBack whole _ _ ihFront ihBack =>
      cases whole
      rw [considered_crossing, hashes_append, hashes_append] at distinct
      obtain ⟨leftDistinct, rightDistinct, -⟩ := List.nodup_append.1 distinct
      have sides := List.disjoint_of_nodup_append distinct
      have frontDistinct : (hashes (crossing front right).considered).Nodup := by
        rw [considered_crossing, hashes_append]
        exact distinct.sublist ((List.sublist_append_left _ _).append_right _)
      have backDistinct : (hashes (crossing back right).considered).Nodup := by
        rw [considered_crossing, hashes_append]
        exact distinct.sublist ((List.sublist_append_right _ _).append_right _)
      rw [permitCount_append, ihFront frontDistinct, ihBack backDistinct, ← permitCount_append]
      have split := @crossCount_left _ _ first second _ _ _
        (List.disjoint_of_nodup_append leftDistinct) sides
      rwa [← hashes_append] at split
  | @right left refs front back inFront inBack whole _ _ ihFront ihBack =>
      cases whole
      rw [considered_crossing, hashes_append, hashes_append] at distinct
      obtain ⟨leftDistinct, rightDistinct, -⟩ := List.nodup_append.1 distinct
      have sides := List.disjoint_of_nodup_append distinct
      have frontDistinct : (hashes (crossing left front).considered).Nodup := by
        rw [considered_crossing, hashes_append]
        exact distinct.sublist ((List.sublist_append_left _ _).append_left _)
      have backDistinct : (hashes (crossing left back).considered).Nodup := by
        rw [considered_crossing, hashes_append]
        exact distinct.sublist ((List.sublist_append_right _ _).append_left _)
      rw [permitCount_append, ihFront frontDistinct, ihBack backDistinct, ← permitCount_append]
      have split := @crossCount_right _ _ first second _ _ _
        (List.disjoint_of_nodup_append rightDistinct) sides
      rwa [← hashes_append] at split

/-! ## Blocks -/

/-- A partition of a plan: it fits, considers primitives of the pool in their order, and not more
than a limit. -/
structure Bounded (world : Surroundings) (pool : List StoredDataRef) (limit : Nat)
    (piece : Partition) : Prop where
  fits : Fits world piece.considered
  within : piece.considered.Sublist pool
  bounded : piece.considered.length ≤ limit

variable {pool refs : List StoredDataRef} {blocks : List (List StoredDataRef)} {limit : Nat}

theorem Bounded.mono {larger : List StoredDataRef} {piece : Partition}
    (bounded : Bounded world pool limit piece) (included : pool.Sublist larger) :
    Bounded world larger limit piece :=
  ⟨bounded.fits, bounded.within.trans included, bounded.bounded⟩

theorem Splits.bounded (splits : Splits world part parts)
    (within : part.considered.Sublist pool) (short : part.considered.length ≤ limit) :
    ∀ piece ∈ parts, Bounded world pool limit piece := fun piece member =>
  have smaller := splits.considered piece member
  ⟨splits.fits piece member, smaller.trans within, Nat.le_trans smaller.length_le short⟩

theorem addRow_bounded (added : addRow world refs blocks = .ok parts)
    (short : ∀ later ∈ blocks, (refs ++ later).length ≤ limit) :
    ∀ piece ∈ parts, Bounded world (refs ++ blocks.flatten) limit piece := by
  induction blocks generalizing parts with
  | nil =>
      cases added
      simp
  | cons later rest ih =>
      obtain ⟨first, firstAdded, added⟩ := except_bind_ok added
      obtain ⟨others, othersAdded, added⟩ := except_bind_ok added
      cases added
      have splits := add_splits (fun impossible => by cases impossible) firstAdded
      intro piece member
      rw [List.flatten_cons]
      rcases List.mem_append.1 member with inFirst | inOthers
      · refine splits.bounded ?_ ?_ piece inFirst
        · exact (List.sublist_append_left later _).append_left refs
        · exact short later List.mem_cons_self
      · have bounded := ih othersAdded (fun other inRest => short other (List.mem_cons_of_mem _ inRest))
          piece inOthers
        exact bounded.mono ((List.sublist_append_right later _).append_left refs)

theorem addRow_permitCount (added : addRow world refs blocks = .ok parts)
    (distinct : (hashes (refs ++ blocks.flatten)).Nodup) (first second : String) :
    permitCount first second parts =
      crossCount first second ((blocks.map hashes).map fun later => (hashes refs, later)) := by
  induction blocks generalizing parts with
  | nil =>
      cases added
      rfl
  | cons later rest ih =>
      obtain ⟨front, frontAdded, added⟩ := except_bind_ok added
      obtain ⟨others, othersAdded, added⟩ := except_bind_ok added
      cases added
      have splits := add_splits (fun impossible => by cases impossible) frontAdded
      rw [List.flatten_cons] at distinct
      have here : (hashes (crossing refs later).considered).Nodup :=
        distinct.sublist (((List.sublist_append_left later _).append_left refs).map _)
      have there : (hashes (refs ++ rest.flatten)).Nodup :=
        distinct.sublist (((List.sublist_append_right later _).append_left refs).map _)
      rw [permitCount_append, splits.permitCount here, ih othersAdded there, List.map_cons,
        List.map_cons, @crossCount_cons _ _ first second (hashes refs, hashes later)]
      rfl

theorem addBlocks_bounded (added : addBlocks world blocks = .ok parts)
    (short : ∀ refs ∈ blocks, 2 * refs.length ≤ 2 * limit) :
    ∀ piece ∈ parts, Bounded world blocks.flatten (2 * limit) piece := by
  induction blocks generalizing parts with
  | nil =>
      cases added
      simp
  | cons refs rest ih =>
      obtain ⟨own, ownAdded, added⟩ := except_bind_ok added
      obtain ⟨row, rowAdded, added⟩ := except_bind_ok added
      obtain ⟨later, laterAdded, added⟩ := except_bind_ok added
      cases added
      have splits := add_splits (fun _ => rfl) ownAdded
      have inRest := fun other member => short other (List.mem_cons_of_mem refs member)
      have here := short refs List.mem_cons_self
      intro piece member
      rw [List.flatten_cons]
      rw [List.mem_append, List.mem_append] at member
      rcases member with (inOwn | inRow) | inLater
      · refine splits.bounded ?_ ?_ piece inOwn
        · exact List.sublist_append_left refs _
        · exact Nat.le_trans (Nat.le_mul_of_pos_left _ Nat.two_pos) here
      · refine addRow_bounded rowAdded (fun other member => ?_) piece inRow
        have there := inRest other member
        rw [List.length_append]
        omega
      · exact (ih laterAdded inRest piece inLater).mono (List.sublist_append_right refs _)

theorem addBlocks_permitCount (added : addBlocks world blocks = .ok parts)
    (distinct : (hashes blocks.flatten).Nodup) (first second : String) :
    permitCount first second parts = crossCount first second (blockPairs (blocks.map hashes)) := by
  induction blocks generalizing parts with
  | nil =>
      cases added
      rfl
  | cons refs rest ih =>
      obtain ⟨own, ownAdded, added⟩ := except_bind_ok added
      obtain ⟨row, rowAdded, added⟩ := except_bind_ok added
      obtain ⟨later, laterAdded, added⟩ := except_bind_ok added
      cases added
      have splits := add_splits (fun _ => rfl) ownAdded
      rw [List.flatten_cons] at distinct
      have here : (hashes (block refs).considered).Nodup :=
        distinct.sublist ((List.sublist_append_left refs _).map _)
      have there : (hashes rest.flatten).Nodup :=
        distinct.sublist ((List.sublist_append_right refs _).map _)
      rw [permitCount_append, permitCount_append, splits.permitCount here,
        addRow_permitCount rowAdded distinct, ih laterAdded there, List.map_cons, blockPairs,
        List.cons_append, @crossCount_cons _ _ first second (hashes refs, hashes refs),
        crossCount_append, Nat.add_assoc]
      rfl

/-! ## Errors -/

/-- Why a plan is not built: some pair of the primitives does not fit on its own, or the context
check raised another error, which is passed on. -/
def Unplannable (world : Surroundings) (pool : List StoredDataRef) (reason : Raised) : Prop :=
  (reason = .valueError "CHAINING_PAIR_CONTEXT_TOO_LARGE" ∧ ∃ first second,
    [first, second].Sublist pool ∧
      completePoolContext world [first, second] = .error contextTooLarge) ∨
  ∃ refs, completePoolContext world refs = .error reason ∧ reason ≠ contextTooLarge

theorem Unplannable.mono {larger : List StoredDataRef} {reason : Raised}
    (unplannable : Unplannable world pool reason) (included : pool.Sublist larger) :
    Unplannable world larger reason := by
  rcases unplannable with ⟨raised, first, second, pair, tooLarge⟩ | other
  · exact .inl ⟨raised, first, second, pair.trans included, tooLarge⟩
  · exact .inr other

theorem add_error {reason : Raised} (paired : sameBlock = true → right = left)
    (raised : add world left right sameBlock = .error reason) :
    Unplannable world (Partition.mk left right sameBlock).considered reason := by
  fun_induction add world left right sameBlock generalizing reason
  case case1 => cases raised
  case case2 => cases raised
  case case3 checked other =>
    cases raised
    exact .inr ⟨_, checked, other⟩
  case case4 left right _ _ _ _ _ _ same first second ihFirst ihAcross ihSecond =>
    obtain ⟨rfl, -⟩ := same
    have whole : first ++ second = left := List.take_append_drop _ _
    have inFirst : first.Sublist left := List.take_sublist _ _
    have inSecond : second.Sublist left := List.drop_sublist _ _
    rcases except_bind_error raised with failed | ⟨_, -, raised⟩
    · exact (ihFirst (fun _ => rfl) failed).mono inFirst
    rcases except_bind_error raised with failed | ⟨_, -, raised⟩
    · have across := ihAcross (fun impossible => by cases impossible) failed
      exact across.mono (whole ▸ List.Sublist.refl _)
    rcases except_bind_error raised with failed | ⟨_, -, raised⟩
    · exact (ihSecond (fun _ => rfl) failed).mono inSecond
    cases raised
  case case5 left right _ _ _ _ _ _ _ long ihFront ihBack =>
    obtain ⟨rfl, -⟩ := long
    rcases except_bind_error raised with failed | ⟨_, -, raised⟩
    · have front := ihFront (fun impossible => by cases impossible) failed
      exact front.mono ((List.take_sublist _ _).append_right right)
    rcases except_bind_error raised with failed | ⟨_, -, raised⟩
    · have back := ihBack (fun impossible => by cases impossible) failed
      exact back.mono ((List.drop_sublist _ _).append_right right)
    cases raised
  case case6 left right _ _ _ _ _ _ _ _ long ihFront ihBack =>
    obtain ⟨rfl, -⟩ := long
    rcases except_bind_error raised with failed | ⟨_, -, raised⟩
    · have front := ihFront (fun impossible => by cases impossible) failed
      exact front.mono ((List.take_sublist _ _).append_left left)
    rcases except_bind_error raised with failed | ⟨_, -, raised⟩
    · have back := ihBack (fun impossible => by cases impossible) failed
      exact back.mono ((List.drop_sublist _ _).append_left left)
    cases raised
  case case7 left right sameBlock _ notShort _ checked tooLarge notBlock notLong notShorter =>
    cases raised
    cases not_not.1 tooLarge
    cases sameBlock with
    | true =>
        have long : ¬ left.length < 2 := notShort
        exact absurd ⟨rfl, by omega⟩ notBlock
    | false =>
        have long : ¬ (left ++ right).length < 2 := notShort
        rw [List.length_append] at long
        simp only [true_and] at notLong notShorter
        obtain ⟨first, rfl⟩ := List.length_eq_one_iff.1 (show left.length = 1 by omega)
        obtain ⟨second, rfl⟩ := List.length_eq_one_iff.1 (show right.length = 1 by omega)
        exact .inl ⟨rfl, first, second, List.Sublist.refl _, checked⟩

theorem addRow_error {reason : Raised} (raised : addRow world refs blocks = .error reason) :
    Unplannable world (refs ++ blocks.flatten) reason := by
  induction blocks with
  | nil => cases raised
  | cons later rest ih =>
      rw [List.flatten_cons]
      rcases except_bind_error raised with failed | ⟨_, -, raised⟩
      · have here := add_error (fun impossible => by cases impossible) failed
        exact here.mono ((List.sublist_append_left later _).append_left refs)
      rcases except_bind_error raised with failed | ⟨_, -, raised⟩
      · exact (ih failed).mono ((List.sublist_append_right later _).append_left refs)
      cases raised

theorem addBlocks_error {reason : Raised} (raised : addBlocks world blocks = .error reason) :
    Unplannable world blocks.flatten reason := by
  induction blocks with
  | nil => cases raised
  | cons refs rest ih =>
      rw [List.flatten_cons]
      rcases except_bind_error raised with failed | ⟨_, -, raised⟩
      · exact (add_error (fun _ => rfl) failed).mono (List.sublist_append_left refs _)
      rcases except_bind_error raised with failed | ⟨_, -, raised⟩
      · exact addRow_error failed
      rcases except_bind_error raised with failed | ⟨_, -, raised⟩
      · exact (ih failed).mono (List.sublist_append_right refs _)
      cases raised

/-! ## The partitions of a pool -/

theorem flatten_map_hashes (blocks : List (List StoredDataRef)) :
    (blocks.map hashes).flatten = hashes blocks.flatten := by
  exact List.map_flatten.symm

/-- The blocks of a pool hold its primitives. -/
theorem flatten_blocks (refs : List StoredDataRef) :
    (chunks (maxPrimitives / 2) refs).flatten = refs :=
  flatten_chunks (by decide) refs

/-- What the partitions of a pool are. -/
structure Planned (world : Surroundings) (pool : Pool) (parts : List Partition) : Prop where
  bounded : ∀ piece ∈ parts, Bounded world pool.refs maxPrimitives piece
  once : ∀ first ∈ pool.refs, ∀ second ∈ pool.refs,
    permitCount first.contentHash second.contentHash parts = 1

theorem boundedPairPartitions_ok {pool : Pool} {parts : List Partition}
    (returned : boundedPairPartitions world pool.refs = .ok parts) : Planned world pool parts := by
  have whole := flatten_blocks pool.refs
  unfold boundedPairPartitions at returned
  dsimp only at returned
  split at returned
  · rename_i noBlocks
    rw [List.isEmpty_iff.1 noBlocks] at whole
    have empty : pool.refs = [] := whole.symm
    have splits := add_splits (fun _ => rfl) returned
    constructor
    · exact splits.bounded (List.nil_sublist _) (Nat.zero_le _)
    · simp [empty]
  · have short : ∀ refs ∈ chunks (maxPrimitives / 2) pool.refs,
        2 * refs.length ≤ 2 * (maxPrimitives / 2) := fun refs member =>
      Nat.mul_le_mul_left 2 (length_of_mem_chunks member)
    have distinct : (hashes (chunks (maxPrimitives / 2) pool.refs).flatten).Nodup := by
      rw [whole]
      exact pool.distinct
    constructor
    · intro piece member
      have bounded := addBlocks_bounded returned short piece member
      rwa [whole] at bounded
    · intro first firstIn second secondIn
      rw [addBlocks_permitCount returned distinct]
      apply crossCount_blockPairs
      · rwa [flatten_map_hashes]
      · rw [flatten_map_hashes, whole]
        exact List.mem_map_of_mem firstIn
      · rw [flatten_map_hashes, whole]
        exact List.mem_map_of_mem secondIn

theorem boundedPairPartitions_error {refs : List StoredDataRef} {reason : Raised}
    (raised : boundedPairPartitions world refs = .error reason) :
    Unplannable world refs reason := by
  unfold boundedPairPartitions at raised
  dsimp only at raised
  split at raised
  · exact (add_error (fun _ => rfl) raised).mono (List.nil_sublist _)
  · have failed := addBlocks_error raised
    rwa [flatten_blocks] at failed

/-! ## Material pairs -/

/-- The values of the primitives and their capabilities agree on every hash. -/
def SameTexts (capabilities : List (String × List String × List String))
    (primitives : List (String × StoredDataRef × Json)) : Prop :=
  ∀ hash primitive, primitives.lookup hash = some primitive → ∃ provided required,
    capabilities.lookup hash = some (provided, required) ∧
    (primitive.2.get? "provided_capabilities").bind texts? = some provided ∧
    (primitive.2.get? "required_capabilities").bind texts? = some required

theorem readCapabilities_sameTexts {refs : List StoredDataRef}
    {capabilities found : List (String × List String × List String)}
    {primitives read : List (String × StoredDataRef × Json)}
    (agree : SameTexts capabilities primitives)
    (exact : readCapabilities world refs capabilities = .ok (some found))
    (decoded : readPrimitives world refs primitives = .ok read) : SameTexts found read := by
  induction refs generalizing capabilities primitives with
  | nil =>
      cases exact
      cases decoded
      exact agree
  | cons ref rest ih =>
      obtain ⟨value, loaded, exact⟩ := except_bind_ok exact
      obtain ⟨same, reloaded, decoded⟩ := except_bind_ok decoded
      cases Except.ok.inj (loaded.symm.trans reloaded)
      split at exact
      · rename_i provided required providedTexts requiredTexts
        refine ih ?_ exact decoded
        intro hash primitive found
        by_cases here : hash = ref.contentHash
        · subst here
          rw [lookup_assign_same] at found ⊢
          cases found
          exact ⟨provided, required, rfl, providedTexts, requiredTexts⟩
        · rw [lookup_assign_other here] at found ⊢
          exact agree hash primitive found
      · cases exact

/-- Two primitives that list their capabilities as texts meet when a provided one is required. -/
theorem overlap_texts {upstream downstream : Json} {provided required : List String}
    (provides : (upstream.get? "provided_capabilities").bind texts? = some provided)
    (requires : (downstream.get? "required_capabilities").bind texts? = some required) :
    overlap world upstream downstream = .ok (provided.any (· ∈ required)) := by
  obtain ⟨providedValue, providedFound, providedTexts⟩ := Option.bind_eq_some_iff.1 provides
  obtain ⟨requiredValue, requiredFound, requiredTexts⟩ := Option.bind_eq_some_iff.1 requires
  have shapes : ¬ (upstream.isObj = false ∨ downstream.isObj = false) := by
    rintro (shape | shape)
    · cases upstream <;> cases shape <;> cases providedFound
    · cases downstream <;> cases shape <;> cases requiredFound
  simp only [overlap, Json.getD, providedFound, requiredFound, Option.getD_some, providedTexts,
    requiredTexts, raiseIf, if_neg shapes]
  rfl

theorem rejectChild_some {groups : List String × List String} {state after : ChildState} :
    rejectChild (some groups) state ≠ .ok after := by
  simp [rejectChild]

/-- No permitted pair of capabilities meets. -/
def NoMaterial (groups : List String × List String)
    (capabilities : List (String × List String × List String)) : Prop :=
  ∀ upstream ∈ capabilities, ∀ downstream ∈ capabilities, upstream.1 ≠ downstream.1 →
    permits groups upstream.1 downstream.1 = true → upstream.2.1.any (· ∈ downstream.2.2) = false

/-- Without a material pair, every proposed child is rejected. -/
theorem validateChild_rejects {capabilities : List (String × List String × List String)}
    {primitives : List (String × StoredDataRef × Json)} {groups : List String × List String}
    (agree : SameTexts capabilities primitives) (noMaterial : NoMaterial groups capabilities)
    (state after : ChildState) (child : Json) :
    validateChild world primitives (some groups) state child ≠ .ok after := by
  intro validated
  obtain ⟨upstreamValue, -, validated⟩ := except_bind_ok validated
  obtain ⟨downstreamValue, -, validated⟩ := except_bind_ok validated
  dsimp only at validated
  split at validated
  · rename_i upstream downstream upstreamFound downstreamFound
    split at validated
    · exact rejectChild_some validated
    · rename_i different
      obtain ⟨permitted, validated⟩ := raiseIf_bind_ok.1 validated
      obtain ⟨provided, _, upstreamStored, provides, -⟩ := agree _ _ upstreamFound
      obtain ⟨_, required, downstreamStored, -, requires⟩ := agree _ _ downstreamFound
      obtain ⟨meets, met, validated⟩ := except_bind_ok validated
      rw [overlap_texts provides requires, noMaterial _ (mem_of_lookup upstreamStored) _
        (mem_of_lookup downstreamStored) different (by simpa using permitted)] at met
      cases met
      rw [if_pos rfl] at validated
      exact rejectChild_some validated
  · exact rejectChild_some validated

/-- The validation keeps no child of any response to a batch. -/
def RejectsChildren (world : Surroundings) (batch : ChainingPoolBatch) : Prop :=
  ∀ raw children,
    validatedChainingChildren world batch.considered raw (some batch.groups) = .ok children →
      children = []

/-- A batch that is skipped for want of a material pair is one whose children are rejected. -/
theorem hasMaterialPair_false {batch : ChainingPoolBatch}
    (skipped : hasMaterialPair world batch = .ok false) : RejectsChildren world batch := by
  obtain ⟨capabilities, exact, skipped⟩ := except_bind_ok skipped
  cases capabilities with
  | none => cases skipped
  | some capabilities =>
      have noMaterial : NoMaterial batch.groups capabilities := by
        intro upstream upstreamIn downstream downstreamIn different permitted
        have nowhere := List.any_eq_false.1
          (Bool.eq_false_iff.2 (List.any_eq_false.1 (Except.ok.inj skipped) upstream upstreamIn))
          downstream downstreamIn
        simpa [different, permitted] using nowhere
      intro raw children validated
      obtain ⟨-, validated⟩ := raiseIf_bind_ok.1 validated
      obtain ⟨primitives, decoded, validated⟩ := except_bind_ok validated
      obtain ⟨state, looped, validated⟩ := except_bind_ok validated
      cases validated
      have empty : SameTexts [] [] := fun hash primitive found => by cases found
      have agree := readCapabilities_sameTexts empty exact decoded
      cases raw with
      | nil =>
          cases looped
          rfl
      | cons child rest =>
          obtain ⟨after, validated, -⟩ := foldlM_cons_ok looped
          exact absurd validated (validateChild_rejects agree noMaterial _ after child)

/-! ## The plan -/

/-- How a batch permits a pair: one content hash in each of its groups. -/
def ChainingPoolBatch.Permits (first second : StoredDataRef) (batch : ChainingPoolBatch) : Bool :=
  permits batch.groups first.contentHash second.contentHash

/-- The batches cover every pair of primitives of a pool. -/
structure Covers (world : Surroundings) (pool : Pool) (batches : List ChainingPoolBatch) :
    Prop where
  /-- Exactly one batch permits a pair of distinct primitives. -/
  once : ∀ first ∈ pool.refs, ∀ second ∈ pool.refs, first ≠ second →
    batches.countP (ChainingPoolBatch.Permits first second) = 1
  short : ∀ batch ∈ batches, batch.considered.length ≤ maxPrimitives
  /-- A batch that would be prompted fits the context limit. -/
  fits : ∀ batch ∈ batches, 2 ≤ batch.considered.length →
    ∃ context, completePoolContext world batch.considered = .ok context
  /-- Considered and unconsidered primitives partition the pool. -/
  partitions : ∀ batch ∈ batches, (batch.considered ++ batch.unconsidered).Perm pool.refs
  /-- A batch that is skipped is one whose children would be rejected. -/
  skipped : ∀ batch ∈ batches, hasMaterialPair world batch = .ok false →
    RejectsChildren world batch

/-- The batches of a list of partitions. -/
def batchesOf (parts : List Partition) (admitted : List StoredDataRef) (fingerprint : String) :
    List ChainingPoolBatch :=
  parts.zipIdx.map fun entry => entry.1.batch admitted fingerprint parts.length entry.2

theorem mem_batchesOf {fingerprint : String} {batch : ChainingPoolBatch}
    (member : batch ∈ batchesOf parts refs fingerprint) :
    ∃ piece ∈ parts, ∃ index, batch = piece.batch refs fingerprint parts.length index := by
  obtain ⟨entry, inParts, rfl⟩ := List.mem_map.1 member
  exact ⟨entry.1, List.fst_mem_of_mem_zipIdx inParts, entry.2, rfl⟩

theorem countP_batchesOf {fingerprint : String} (first second : StoredDataRef) :
    (batchesOf parts refs fingerprint).countP (ChainingPoolBatch.Permits first second) =
      permitCount first.contentHash second.contentHash parts := by
  have sides : parts.map Partition.sides =
      (batchesOf parts refs fingerprint).map ChainingPoolBatch.groups := by
    rw [batchesOf, List.map_map, ← List.zipIdx_map_fst 0 parts, List.map_map, List.zipIdx_map_fst]
    rfl
  rw [permitCount, sides, crossCount, List.countP_map]
  rfl

/-- A part of a pool and the rest of the pool make up the pool. -/
theorem considered_perm {pool : Pool} {considered : List StoredDataRef}
    (within : considered.Sublist pool.refs) :
    (considered ++ pool.refs.filter fun ref => ref.contentHash ∉ hashes considered).Perm
      pool.refs := by
  have distinct : pool.refs.Nodup := List.Nodup.of_map _ pool.distinct
  have kept : (pool.refs.filter fun ref => ref.contentHash ∈ hashes considered).Perm
      considered := by
    apply (List.perm_ext_iff_of_nodup (distinct.filter _) (distinct.sublist within)).2
    intro ref
    simp only [List.mem_filter, decide_eq_true_eq]
    constructor
    · rintro ⟨inPool, sameHash⟩
      obtain ⟨other, inConsidered, equalHash⟩ := List.mem_map.1 sameHash
      have same := List.inj_on_of_nodup_map pool.distinct (within.subset inConsidered) inPool
        equalHash
      exact same ▸ inConsidered
    · exact fun inConsidered => ⟨within.subset inConsidered, List.mem_map_of_mem inConsidered⟩
  have split := List.filter_append_perm
    (fun ref : StoredDataRef => decide (ref.contentHash ∈ hashes considered)) pool.refs
  simp only [← decide_not] at split
  exact (kept.symm.append_right _).trans split

theorem Planned.covers {pool : Pool} (planned : Planned world pool parts) (fingerprint : String) :
    Covers world pool (batchesOf parts pool.refs fingerprint) := by
  constructor
  · intro first firstIn second secondIn _
    rw [countP_batchesOf]
    exact planned.once first firstIn second secondIn
  · intro batch member
    obtain ⟨piece, inParts, _, rfl⟩ := mem_batchesOf member
    exact (planned.bounded piece inParts).bounded
  · intro batch member
    obtain ⟨piece, inParts, _, rfl⟩ := mem_batchesOf member
    exact (planned.bounded piece inParts).fits
  · intro batch member
    obtain ⟨piece, inParts, _, rfl⟩ := mem_batchesOf member
    exact considered_perm (planned.bounded piece inParts).within
  · exact fun batch _ skipped => hasMaterialPair_false skipped

/-- A call of `plan_chaining_for_pool` for the pool that is admitted at that time. -/
structure PlanCall where
  pool : Pool
  poolFingerprint : String

/-- The call, with the plan that the stage keeps. -/
def PlanCall.perform (world : Surroundings) (poolFingerprintOf : List StoredDataRef → String)
    (cache : PlanCache) (call : PlanCall) : PlanCache × Except Raised (List ChainingPoolBatch) :=
  planChainingForPool world poolFingerprintOf cache call.pool.refs call.poolFingerprint

/-- The kept plan is the plan of its pool. -/
def CacheSound (world : Surroundings) (cache : PlanCache) : Prop :=
  ∀ fingerprint refs batches, cache = some (fingerprint, refs, batches) → ∃ parts,
    boundedPairPartitions world refs = .ok parts ∧ batches = batchesOf parts refs fingerprint

variable {poolFingerprintOf : List StoredDataRef → String} {cache : PlanCache}

theorem PlanCall.perform_sound (sound : CacheSound world cache) (call : PlanCall) :
    CacheSound world (call.perform world poolFingerprintOf cache).1 := by
  unfold PlanCall.perform planChainingForPool
  split
  · exact sound
  · split
    · exact sound
    · split
      · exact sound
      · rename_i parts returned
        intro fingerprint refs batches kept
        cases kept
        exact ⟨parts, returned, rfl⟩

/-- What a call answers, given that the kept plan is sound. -/
def Answered (world : Surroundings) (poolFingerprintOf : List StoredDataRef → String)
    (call : PlanCall) : Except Raised (List ChainingPoolBatch) → Prop
  | .ok batches => Covers world call.pool batches
  | .error reason =>
      (reason = .valueError "CHAINING_POOL_FINGERPRINT_STALE" ∧
        call.poolFingerprint ≠ poolFingerprintOf call.pool.refs) ∨
      Unplannable world call.pool.refs reason

theorem PlanCall.perform_answered (sound : CacheSound world cache) (call : PlanCall) :
    Answered world poolFingerprintOf call (call.perform world poolFingerprintOf cache).2 := by
  unfold PlanCall.perform planChainingForPool
  split
  · rename_i stale
    exact .inl ⟨rfl, stale⟩
  · split
    · rename_i cached found
      obtain ⟨kept, matching⟩ := Option.filter_eq_some_iff.1 found
      obtain ⟨-, samePool⟩ := of_decide_eq_true matching
      obtain ⟨parts, returned, plan⟩ := sound _ _ _ kept
      rw [samePool] at returned plan
      rw [Answered, plan]
      exact (boundedPairPartitions_ok returned).covers _
    · split
      · rename_i raised
        exact .inr (boundedPairPartitions_error raised)
      · rename_i returned
        exact (boundedPairPartitions_ok returned).covers _

/-- After any calls for any pools, a call covers every pair of its pool exactly once, or says why
it cannot. -/
theorem planChainingForPool_covers (world : Surroundings)
    (poolFingerprintOf : List StoredDataRef → String) (calls : List PlanCall) (call : PlanCall) :
    Answered world poolFingerprintOf call (call.perform world poolFingerprintOf
      (runCalls (PlanCall.perform world poolFingerprintOf) none calls)).2 := by
  apply PlanCall.perform_answered
  apply runCalls_keeps
  · exact fun cache earlier sound => PlanCall.perform_sound sound earlier
  · intro fingerprint refs batches kept
    cases kept

namespace Concrete

def primitive : StoredDataRef where
  storedDataId := "primitive"
  dataKind := "artifact"
  contentHash := "a1"
  workspaceId := "workspace"
  commitId := "commit"
  recordId := none

/-- Every context is one byte longer than the limit. -/
def wideWorld : Surroundings where
  identity := { analysisId := "analysis", workspaceId := "workspace", commitId := "commit", hypothesisId := none }
  read _ := .ok []
  promptContext _ := .ok (List.replicate (maxContextBytes + 1) 0)
  loads _ := .ok .null
  redact raw := .ok raw
  canonicalBytes _ := .ok []
  dump _ := .null
  isDump _ _ := false
  textOf _ := ""
  otherOverlap _ _ := .ok false

/-- A batch of one primitive is planned without a look at its context, which may be too large. -/
theorem lonePrimitive_exceeds : ∃ batch,
    (planChainingForPool wideWorld (fun _ => "pool") none [primitive] "pool").2 = .ok [batch] ∧
      batch.considered = [primitive] ∧
      completePoolContext wideWorld batch.considered = .error contextTooLarge := by
  have blocks : chunks (maxPrimitives / 2) [primitive] = [[primitive]] := by decide
  have alone : add wideWorld [primitive] [primitive] true = .ok [block [primitive]] := by
    rw [add]
    rfl
  have partitions : boundedPairPartitions wideWorld [primitive] = .ok [block [primitive]] := by
    rw [boundedPairPartitions, blocks]
    simp only [List.isEmpty_cons, Bool.false_eq_true, if_false, addBlocks, addRow, alone]
    rfl
  refine ⟨(block [primitive]).batch [primitive] "pool" 1 0, ?_, rfl, ?_⟩
  · simp only [planChainingForPool, partitions]
    rfl
  · refine completePoolContext_long rfl ?_
    rw [List.length_replicate]
    exact Nat.lt_succ_self _

end Concrete

end Sastsimi.Chaining
