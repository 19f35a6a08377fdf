import Sastsimi.Lib.Json
import Sastsimi.Lib.PairCover
import Sastsimi.Lib.Raising
import Sastsimi.Runtime.Checkpoint

/-!
# The chaining pool

The admitted primitives of an analysis, the plan that covers their pairs in bounded batches, and
the validation of what the chaining agent proposes for one batch.

The artifact repository, the JSON codec and the redaction are parameters, with what Python does
for values that are not texts.
-/

namespace Sastsimi.Chaining

open Lib Sastsimi.Runtime SimpleStage

/-- The exceptions that `chaining.py` tells apart. -/
inductive Raised where
  | valueError (message : String)
  | other (kind : String)
  deriving DecidableEq

/-- What the chaining stage uses of its surroundings. -/
structure Surroundings where
  identity : CheckpointIdentity
  /-- `artifacts.read`. -/
  read : StoredDataRef → Except Raised (List UInt8)
  /-- `artifacts.prompt_context`. -/
  promptContext : List StoredDataRef → Except Raised (List UInt8)
  /-- `json.loads`. -/
  loads : List UInt8 → Except Raised Json
  /-- `redact_projected_json(raw).data`. -/
  redact : List UInt8 → Except Raised (List UInt8)
  canonicalBytes : Json → Except Raised (List UInt8)
  /-- `ref.model_dump(mode="json")`. -/
  dump : StoredDataRef → Json
  /-- Whether a value equals the dump of a reference. -/
  isDump : Json → StoredDataRef → Bool
  /-- `str` of a value that is not a text. -/
  textOf : Json → String
  /-- Whether the sets of two capability values meet, when one is not a list of texts. -/
  otherOverlap : Json → Json → Except Raised Bool

/-- `_MAX_PRIMITIVES`. -/
def maxPrimitives : Nat := 64

/-- `_MAX_CHILDREN`. -/
def maxChildren : Nat := 4

/-- `_MAX_CONTEXT_BYTES`. -/
def maxContextBytes : Nat := 256 * 1024

/-- The error that says that primitives do not fit in one prompt. -/
def contextTooLarge : Raised := .valueError "SIMPLE_RUNTIME_CONTEXT_TOO_LARGE"

/-- `json.loads(artifacts.read(ref))`. -/
def readJson (world : Surroundings) (ref : StoredDataRef) : Except Raised Json := do
  let raw ← world.read ref
  world.loads raw

/-! ## The admitted pool -/

/-- Primitives with distinct content hashes. -/
structure Pool where
  refs : List StoredDataRef
  distinct : (refs.map (·.contentHash)).Nodup

/-- One turn of the loop over the outputs of an admission. -/
def admitRef (world : Surroundings) (identity : CheckpointIdentity) (hypothesisId : String)
    (refs : List (String × StoredDataRef)) (ref : StoredDataRef) :
    Except Raised (List (String × StoredDataRef)) := do
  raiseIf (ref.workspaceId ≠ identity.workspaceId ∨ ref.commitId ≠ identity.commitId)
    (.valueError "CHAINING_PRIMITIVE_SCOPE_INVALID")
  let value ← readJson world ref
  let text := fun key => (value.get? key).bind Json.str?
  if value.isObj = false ∨ text "kind" ≠ some "simple_primitive" then return refs
  else do
    raiseIf (text "analysis_id" ≠ some identity.analysisId ∨
        text "workspace_id" ≠ some identity.workspaceId ∨
        text "commit_id" ≠ some identity.commitId ∨
        text "source_hypothesis_id" ≠ some hypothesisId)
      (.valueError "CHAINING_PRIMITIVE_EVIDENCE_INVALID")
    return assign ref.contentHash ref refs

section

variable [Platform]

/-- The hypothesis whose admission a checkpoint completes, in the scope of an analysis. -/
def admissionOwner (identity : CheckpointIdentity) (hasHypothesis : String → Bool)
    (checkpoint : StageCheckpoint) : Option String :=
  match checkpoint.identity.hypothesisId with
  | none => none
  | some hypothesisId =>
      if checkpoint.stage = primitiveAdmissionDone ∧
          checkpoint.stageVersion = checkpoint.stage.stageVersion ∧
          checkpoint.status = .succeeded ∧
          checkpoint.identity.analysisId = identity.analysisId ∧
          checkpoint.identity.workspaceId = identity.workspaceId ∧
          checkpoint.identity.commitId = identity.commitId ∧ hasHypothesis hypothesisId then
        some hypothesisId
      else none

/-- One turn of the loop over the checkpoints of the analysis. -/
def admitCheckpoint (world : Surroundings) (identity : CheckpointIdentity)
    (hasHypothesis : String → Bool) (refs : List (String × StoredDataRef))
    (checkpoint : StageCheckpoint) : Except Raised (List (String × StoredDataRef)) :=
  match admissionOwner identity hasHypothesis checkpoint with
  | none => .ok refs
  | some hypothesisId => checkpoint.outputRefs.foldlM (admitRef world identity hypothesisId) refs

/-- The dictionary of `admitted_primitive_refs`, by content hash. -/
def admittedByHash (world : Surroundings) (identity : CheckpointIdentity)
    (hasHypothesis : String → Bool) (checkpoints : List StageCheckpoint) :
    Except Raised (List (String × StoredDataRef)) := do
  raiseIf (identity.hypothesisId ≠ none ∨ identity ≠ world.identity)
    (.valueError "CHAINING_POOL_IDENTITY_MISMATCH")
  checkpoints.foldlM (admitCheckpoint world identity hasHypothesis) []

/-- The values of a dictionary in the order of their keys. -/
def sortedValues (refs : List (String × StoredDataRef)) : List StoredDataRef :=
  (refs.mergeSort fun left right => left.1 ≤ right.1).map Prod.snd

/-- `admitted_primitive_refs`. -/
def admittedPrimitiveRefs (world : Surroundings) (identity : CheckpointIdentity)
    (hasHypothesis : String → Bool) (checkpoints : List StageCheckpoint) :
    Except Raised (List StoredDataRef) := do
  let refs ← admittedByHash world identity hasHypothesis checkpoints
  return sortedValues refs

end

/-! ## The context of a batch -/

/-- The check of one item of a context against the reference it stands for. -/
def checkItem (world : Surroundings) (entry : Json × StoredDataRef) : Except Raised Unit := do
  raiseIf (entry.1.isObj = false ∨
      world.isDump ((entry.1.get? "reference").getD .null) entry.2 = false)
    (.valueError "CHAINING_CONTEXT_INVALID")
  let raw ← world.read entry.2
  let expected ← world.redact raw
  let data ← world.canonicalBytes ((entry.1.get? "data").getD .null)
  raiseIf (data ≠ expected) contextTooLarge

/-- `_complete_pool_context`. -/
def completePoolContext (world : Surroundings) (refs : List StoredDataRef) :
    Except Raised (List UInt8) := do
  let context ← world.promptContext refs
  raiseIf (context.length > maxContextBytes) contextTooLarge
  let envelope ← world.loads context
  let items ← required ((envelope.get? "exact_inputs").bind Json.arr?) contextTooLarge
  raiseIf (items.length ≠ refs.length) contextTooLarge
  forM (items.zip refs) (checkItem world)
  return context

/-! ## The plan -/

/-- One unit of pair coverage: `(left, right, same_block)`. -/
structure Partition where
  left : List StoredDataRef
  right : List StoredDataRef
  sameBlock : Bool

/-- The primitives that a partition considers. -/
def Partition.considered (part : Partition) : List StoredDataRef :=
  if part.sameBlock then part.left else part.left ++ part.right

/-- `add` in `_bounded_pair_partitions`: the partitions that it appends. -/
def add (world : Surroundings) (left right : List StoredDataRef) (sameBlock : Bool) :
    Except Raised (List Partition) :=
  let part : Partition := { left, right, sameBlock }
  if part.considered.length < 2 then .ok [part]
  else
    match completePoolContext world part.considered with
    | .ok _ => .ok [part]
    | .error reason =>
        if reason ≠ contextTooLarge then .error reason
        else if _same : sameBlock = true ∧ 1 < left.length then do
          let first := left.take (left.length / 2)
          let second := left.drop (left.length / 2)
          let inFirst ← add world first first true
          let across ← add world first second false
          let inSecond ← add world second second true
          return inFirst ++ across ++ inSecond
        else if _long : sameBlock = false ∧ 1 < left.length ∧ right.length ≤ left.length then do
          let front ← add world (left.take (left.length / 2)) right false
          let back ← add world (left.drop (left.length / 2)) right false
          return front ++ back
        else if _short : sameBlock = false ∧ 1 < right.length then do
          let front ← add world left (right.take (right.length / 2)) false
          let back ← add world left (right.drop (right.length / 2)) false
          return front ++ back
        else .error (.valueError "CHAINING_PAIR_CONTEXT_TOO_LARGE")
termination_by if sameBlock then 2 * left.length else left.length + right.length
decreasing_by
  all_goals
    simp only [List.length_take, List.length_drop, if_true, if_false, Bool.false_eq_true, *]
    omega

/-- The inner loop: a block with every later block. -/
def addRow (world : Surroundings) (block : List StoredDataRef) :
    List (List StoredDataRef) → Except Raised (List Partition)
  | [] => .ok []
  | later :: rest => do
      let first ← add world block later false
      let others ← addRow world block rest
      return first ++ others

/-- The outer loop: every block with itself and with every later block. -/
def addBlocks (world : Surroundings) :
    List (List StoredDataRef) → Except Raised (List Partition)
  | [] => .ok []
  | block :: rest => do
      let own ← add world block block true
      let row ← addRow world block rest
      let later ← addBlocks world rest
      return own ++ row ++ later

/-- `_bounded_pair_partitions`. -/
def boundedPairPartitions (world : Surroundings) (admitted : List StoredDataRef) :
    Except Raised (List Partition) := do
  let blocks := chunks (maxPrimitives / 2) admitted
  if blocks.isEmpty then add world [] [] true else addBlocks world blocks

/-- `ChainingPoolBatch`. -/
structure ChainingPoolBatch where
  poolFingerprint : String
  batchIndex : Nat
  batchCount : Nat
  considered : List StoredDataRef
  unconsidered : List StoredDataRef
  left : List StoredDataRef
  right : List StoredDataRef
  sameBlock : Bool

/-- The batch of a partition. -/
def Partition.batch (part : Partition) (admitted : List StoredDataRef) (fingerprint : String)
    (count index : Nat) : ChainingPoolBatch where
  poolFingerprint := fingerprint
  batchIndex := index
  batchCount := count
  considered := part.considered
  unconsidered := admitted.filter fun ref =>
    ref.contentHash ∉ part.considered.map (·.contentHash)
  left := part.left
  right := part.right
  sameBlock := part.sameBlock

/-- The plan that the chaining stage keeps: its fingerprint, its pool and its batches. -/
abbrev PlanCache : Type := Option (String × List StoredDataRef × List ChainingPoolBatch)

/-- `plan_chaining_for_pool`, for the refs that `admitted_primitive_refs` returned. -/
def planChainingForPool (world : Surroundings) (poolFingerprintOf : List StoredDataRef → String)
    (cache : PlanCache) (admitted : List StoredDataRef) (poolFingerprint : String) :
    PlanCache × Except Raised (List ChainingPoolBatch) :=
  if poolFingerprint ≠ poolFingerprintOf admitted then
    (cache, .error (.valueError "CHAINING_POOL_FINGERPRINT_STALE"))
  else
    match cache.filter fun cached => cached.1 = poolFingerprint ∧ cached.2.1 = admitted with
    | some cached => (cache, .ok cached.2.2)
    | none =>
        match boundedPairPartitions world admitted with
        | .error reason => (cache, .error reason)
        | .ok partitions =>
            let plan := partitions.zipIdx.map fun entry =>
              entry.1.batch admitted poolFingerprint partitions.length entry.2
            (some (poolFingerprint, admitted, plan), .ok plan)

/-! ## The children of a batch -/

/-- The texts of a list of texts. -/
def texts? (value : Json) : Option (List String) :=
  value.arr?.bind fun items => items.mapM Json.str?

/-- Provided and required capabilities by content hash; nothing when some primitive does not
list its capabilities as texts. -/
def readCapabilities (world : Surroundings) :
    List StoredDataRef → List (String × List String × List String) →
      Except Raised (Option (List (String × List String × List String)))
  | [], capabilities => .ok (some capabilities)
  | ref :: rest, capabilities => do
      let value ← readJson world ref
      match (value.get? "provided_capabilities").bind texts?,
          (value.get? "required_capabilities").bind texts? with
      | some provided, some required =>
          readCapabilities world rest (assign ref.contentHash (provided, required) capabilities)
      | _, _ => return none

/-- One of two hashes is on each side of a pair of groups. -/
def permits (groups : List String × List String) (upstream downstream : String) : Bool :=
  decide (upstream ∈ groups.1 ∧ downstream ∈ groups.2 ∨
    upstream ∈ groups.2 ∧ downstream ∈ groups.1)

/-- The content hashes of the two sides of a batch. -/
def ChainingPoolBatch.groups (batch : ChainingPoolBatch) : List String × List String :=
  (batch.left.map (·.contentHash), batch.right.map (·.contentHash))

/-- `_has_material_pair`. -/
def hasMaterialPair (world : Surroundings) (batch : ChainingPoolBatch) : Except Raised Bool := do
  let capabilities ← readCapabilities world batch.considered []
  match capabilities with
  | none => return true
  | some capabilities =>
      return capabilities.any fun upstream => capabilities.any fun downstream =>
        upstream.1 ≠ downstream.1 && permits batch.groups upstream.1 downstream.1 &&
          upstream.2.1.any (· ∈ downstream.2.2)

/-- `str(value)`. -/
def pyStr (world : Surroundings) (value : Json) : String :=
  value.str?.getD (world.textOf value)

/-- Whether the provided capabilities of one primitive meet the required ones of another. -/
def overlap (world : Surroundings) (upstream downstream : Json) : Except Raised Bool := do
  raiseIf (upstream.isObj = false ∨ downstream.isObj = false) (.other "AttributeError")
  let provided := upstream.getD "provided_capabilities" (.arr [])
  let required := downstream.getD "required_capabilities" (.arr [])
  match texts? provided, texts? required with
  | some provided, some required => .ok (provided.any (· ∈ required))
  | _, _ => world.otherOverlap provided required

/-- `sorted({first, second})`. -/
def sortedPair (first second : String) : List String :=
  if first = second then [first] else if first < second then [first, second] else [second, first]

/-- The primitives of a batch by content hash: the reference and the decoded value. -/
def readPrimitives (world : Surroundings) :
    List StoredDataRef → List (String × StoredDataRef × Json) →
      Except Raised (List (String × StoredDataRef × Json))
  | [], primitives => .ok primitives
  | ref :: rest, primitives => do
      let value ← readJson world ref
      readPrimitives world rest (assign ref.contentHash (ref, value) primitives)

/-- The children that were kept, and the canonical bytes of each. -/
structure ChildState where
  output : List Json := []
  seen : List (List UInt8) := []

/-- Raise for a batch, go on without the child otherwise. -/
def rejectChild (pairPartition : Option (List String × List String)) (state : ChildState) :
    Except Raised ChildState :=
  if pairPartition.isSome then .error (.valueError "CHAINING_BATCH_RESPONSE_INVALID")
  else .ok state

/-- One turn of the loop over the proposed children. -/
def validateChild (world : Surroundings) (primitives : List (String × StoredDataRef × Json))
    (pairPartition : Option (List String × List String)) (state : ChildState) (child : Json) :
    Except Raised ChildState := do
  let upstreamValue ← required (child.get? "upstream_primitive_hash") (.other "KeyError")
  let downstreamValue ← required (child.get? "downstream_primitive_hash") (.other "KeyError")
  let upstreamHash := pyStr world upstreamValue
  let downstreamHash := pyStr world downstreamValue
  match primitives.lookup upstreamHash, primitives.lookup downstreamHash with
  | some upstream, some downstream =>
      if upstreamHash = downstreamHash then rejectChild pairPartition state
      else do
        raiseIf (pairPartition.any fun groups => !permits groups upstreamHash downstreamHash)
          (.valueError "CHAINING_BATCH_RESPONSE_INVALID")
        let meets ← overlap world upstream.2 downstream.2
        if meets = false then rejectChild pairPartition state
        else do
          let upstreamSource ←
            required (upstream.2.get? "source_hypothesis_id") (.other "KeyError")
          let downstreamSource ←
            required (downstream.2.get? "source_hypothesis_id") (.other "KeyError")
          let parents :=
            sortedPair (pyStr world upstreamSource) (pyStr world downstreamSource)
          let normalized :=
            (child.set "parent_hypothesis_ids" (.arr (parents.map .str))).set
              "parent_primitive_refs" (.arr [world.dump upstream.1, world.dump downstream.1])
          let key ← world.canonicalBytes normalized
          if key ∈ state.seen then return state
          else return { output := state.output ++ [normalized], seen := key :: state.seen }
  | _, _ => rejectChild pairPartition state

/-- `validated_chaining_children`. -/
def validatedChainingChildren (world : Surroundings) (considered : List StoredDataRef)
    (raw : List Json) (pairPartition : Option (List String × List String)) :
    Except Raised (List Json) := do
  raiseIf (raw.length > maxChildren) (.valueError "CHAINING_CHILD_LIMIT_EXCEEDED")
  let primitives ← readPrimitives world considered []
  let state ← raw.foldlM (validateChild world primitives pairPartition) {}
  return state.output

end Sastsimi.Chaining
