import Sastsimi.Lib.Raising
import Sastsimi.Lib.Transaction
import Sastsimi.Runtime.Catalogue
import Sastsimi.Runtime.Store

/-!
# Content-addressed files

`LocalArtifactStore` writes bytes under their digest into a staging directory, moves them into
`sha256` and reads them back verified; `verify` moves the files that no record names into
quarantine.  Calls come one after the other, and a process may die inside any of them: a staged
file then has some of its bytes, and a sweep has moved some of its files.
-/

namespace Sastsimi.Storage

open Lib Sastsimi.Runtime

/-- The bytes of a file. -/
abbrev Bytes := List UInt8

/-- The regular files of a directory by their names. -/
abbrev Directory := String → Option Bytes

/-- The directories of `RuntimePaths` in which `LocalArtifactStore` keeps files; a file of `sha256`
has the name of its two path components together. -/
structure ArtifactDirs where
  staging : Directory := fun _ => none
  sha256 : Directory := fun _ => none
  quarantine : Directory := fun _ => none

/-- `StagedArtifact`. -/
structure StagedArtifact where
  data : Bytes
  mediaType : String
  deriving DecidableEq

/-- `RunStoredDataRef`. -/
structure RunStoredDataRef where
  storedDataId : String
  dataKind : String
  contentHash : String
  analysisId : String
  recordId : Option String
  deriving DecidableEq

/-- `StoredDataRef | RunStoredDataRef`. -/
inductive ArtifactRef where
  | stored (ref : StoredDataRef)
  | run (ref : RunStoredDataRef)
  deriving DecidableEq

namespace ArtifactRef

/-- `content_hash`. -/
def contentHash : ArtifactRef → String
  | stored ref => ref.contentHash
  | run ref => ref.contentHash

/-- The reference names an artifact by its digest, and no record. -/
def isArtifact : ArtifactRef → Bool
  | stored ref =>
      ref.recordId.isNone && decide (ref.dataKind = "artifact")
        && decide (ref.storedDataId = ref.contentHash)
  | run ref =>
      ref.recordId.isNone && decide (ref.dataKind = "artifact")
        && decide (ref.storedDataId = ref.contentHash)

end ArtifactRef

/-- The workspace and the commit that a `LocalArtifactStore` is bound to, if it is. -/
structure Binding where
  workspaceId : Option String
  commitId : Option String
  deriving DecidableEq

/-- A reference of a workspace names the workspace and the commit of the store. -/
def ArtifactRef.belongs (binding : Binding) : ArtifactRef → Bool
  | stored ref => decide (binding = ⟨some ref.workspaceId, some ref.commitId⟩)
  | run _ => true

/-- `re.fullmatch(r"[0-9a-f]{64}", digest)`. -/
def isDigest (digest : String) : Bool :=
  decide (digest.toList.length = 64) && digest.toList.all fun char =>
    decide ('0' ≤ char ∧ char ≤ '9') || decide ('a' ≤ char ∧ char ≤ 'f')

/-- `path_for`, up to the place of the directory. -/
def pathFor (digest : String) : Except PyError String := do
  raiseIf (isDigest digest = false) (.valueError "Invalid SHA-256 path")
  pure digest

/-- `read_bytes`. -/
def readBytes (directory : Directory) (name : String) : Except PyError Bytes :=
  required (directory name) .osError

namespace ArtifactDirs

variable (hexdigest : Bytes → String) (dirs : ArtifactDirs)

/-! ## Writing -/

/-- `stage_bytes`. -/
def stageBytes (data : Bytes) (mediaType : String) :
    Except PyError (StagedArtifact × ArtifactDirs) := do
  raiseIf (isBlank mediaType = true) (.valueError "Artifact media type is required")
  match dirs.staging (hexdigest data) with
  | some found =>
      raiseIf (found ≠ data) (.valueError "HASH_MISMATCH: staged artifact")
      pure (⟨data, mediaType⟩, dirs)
  | none =>
      pure (⟨data, mediaType⟩,
        { dirs with staging := Function.update dirs.staging (hexdigest data) (some data) })

/-- `stage_bytes`, when its process dies or its disk fills up after it created the file. -/
def tornStage (data : Bytes) (mediaType : String) (written : Nat) : ArtifactDirs :=
  if isBlank mediaType = true ∨ (dirs.staging (hexdigest data)).isSome = true then dirs
  else
    { dirs with
      staging := Function.update dirs.staging (hexdigest data) (some (data.take written)) }

/-- `promote`. -/
def promote (staged : StagedArtifact) : Except PyError (String × ArtifactDirs) := do
  let digest := hexdigest staged.data
  let path ← pathFor digest
  match dirs.sha256 path with
  | some found =>
      raiseIf (hexdigest found ≠ digest) (.valueError "HASH_MISMATCH: immutable artifact")
      pure (digest, dirs)
  | none =>
      raiseIf (dirs.staging digest ≠ some staged.data)
        (.valueError "HASH_MISMATCH: missing or corrupt staging")
      pure (digest,
        { dirs with
          staging := Function.update dirs.staging digest none
          sha256 := Function.update dirs.sha256 path (some staged.data) })

/-- `commit`. -/
def commit (binding : Binding) (staged : StagedArtifact) :
    Except PyError (StoredDataRef × ArtifactDirs) :=
  match binding.workspaceId, binding.commitId with
  | some workspaceId, some commitId => do
      let (digest, after) ← dirs.promote hexdigest staged
      pure (⟨digest, "artifact", digest, workspaceId, commitId, none⟩, after)
  | _, _ => .error (.valueError "Artifact reference requires a bound workspace")

/-- `commit_run`. -/
def commitRun (staged : StagedArtifact) (analysisId : String) :
    Except PyError (RunStoredDataRef × ArtifactDirs) := do
  let (digest, after) ← dirs.promote hexdigest staged
  pure (⟨digest, "artifact", digest, analysisId, none⟩, after)

/-! ## Reading -/

/-- The checks on a reference before its file is opened. -/
def checkRef (binding : Binding) (ref : ArtifactRef) : Except PyError Unit := do
  raiseIf (ref.belongs binding = false) (.valueError "WORKSPACE_MISMATCH")
  raiseIf (ref.isArtifact = false) (.valueError "Artifact reference mismatch")

/-- `open_verified`. -/
def openVerified (binding : Binding) (ref : ArtifactRef) : Except PyError Bytes := do
  checkRef binding ref
  let path ← pathFor ref.contentHash
  let data ← readBytes dirs.sha256 path
  raiseIf (hexdigest data ≠ ref.contentHash) (.valueError "HASH_MISMATCH")
  pure data

/-- `open_verified_bounded`, of a regular file under the root that nothing replaces meanwhile. -/
def openVerifiedBounded (binding : Binding) (ref : ArtifactRef) (maxBytes : Int) :
    Except PyError Bytes := do
  raiseIf (maxBytes < 0) (.valueError "ARTIFACT_SIZE_LIMIT_INVALID")
  checkRef binding ref
  let path ← pathFor ref.contentHash
  let data ← readBytes dirs.sha256 path
  raiseIf (maxBytes < data.length) (.valueError "ARTIFACT_SIZE_OR_TYPE_INVALID")
  raiseIf (hexdigest data ≠ ref.contentHash) (.valueError "HASH_MISMATCH")
  pure data

/-! ## Verification -/

/-- A file that must exist and have the digest of its name. -/
def checkFile (message : String) (digest : String) : Except PyError Unit := do
  let path ← pathFor digest
  let data ← readBytes dirs.sha256 path
  raiseIf (hexdigest data ≠ digest) (.valueError message)

/-- A protected reference must name an artifact whose file exists and verifies. -/
def checkProtected (ref : ArtifactRef) : Except PyError Unit := do
  raiseIf (ref.isArtifact = false) (.valueError "PROTECTED_ARTIFACT_REFERENCE_MISMATCH")
  dirs.checkFile hexdigest "HASH_MISMATCH: protected artifact" ref.contentHash

/-- Run a check for every item until one raises. -/
def checkAll {α : Type} (check : α → Except PyError Unit) : List α → Except PyError Unit
  | [] => .ok ()
  | item :: rest => do
      check item
      checkAll check rest

/-- One file of the sweep: it goes to quarantine unless its digest is one of those. -/
def quarantineFile (digests : List String) (name : String) : Except PyError ArtifactDirs :=
  match dirs.sha256 name with
  | none => .ok dirs
  | some found =>
      if name ∈ digests then .ok dirs
      else
        let actual := hexdigest found
        let destination := if actual = name then name else name ++ "-" ++ actual
        let removed := { dirs with sha256 := Function.update dirs.sha256 name none }
        match dirs.quarantine destination with
        | some kept => do
            raiseIf (kept ≠ found) (.valueError "Conflicting quarantined artifact")
            pure removed
        | none =>
            .ok { removed with
              quarantine := Function.update dirs.quarantine destination (some found) }

/-- What the database tells `verify`: the digests of the artifact rows, those that records name, and
the references that must be kept. -/
structure Named where
  rows : List String
  protectedRefs : List ArtifactRef
  nested : List String

/-- `digests`, once `verify` collected them. -/
def Named.digests (named : Named) : List String :=
  named.rows ++ named.protectedRefs.map ArtifactRef.contentHash ++ named.nested

/-- The files that `verify` reads before its sweep. -/
def checkNamed (named : Named) : Except PyError Unit := do
  checkAll (dirs.checkFile hexdigest "HASH_MISMATCH") named.rows
  checkAll (dirs.checkProtected hexdigest) named.protectedRefs
  checkAll (dirs.checkFile hexdigest "HASH_MISMATCH: nested artifact reference") named.nested

/-- `verify`, as far as it is about artifacts: the sweep visits the files in any order, and not all
of them when its process dies. -/
def verify (named : Named) (quarantine : Bool) (visited : List String) :
    ArtifactDirs × Except PyError Unit :=
  match dirs.checkNamed hexdigest named with
  | .error reason => (dirs, .error reason)
  | .ok () =>
      if quarantine then
        runAll (fun dirs name => dirs.quarantineFile hexdigest named.digests name) dirs visited
      else (dirs, .ok ())

end ArtifactDirs

/-! ## Runs -/

/-- The calls that write. -/
inductive ArtifactCall where
  | stage (data : Bytes) (mediaType : String)
  | tear (data : Bytes) (mediaType : String) (written : Nat)
  | promote (staged : StagedArtifact)
  | verify (named : ArtifactDirs.Named) (quarantine : Bool) (visited : List String)

/-- The files after a call that may raise. -/
def ArtifactDirs.keeping {α : Type} (dirs : ArtifactDirs) :
    Except PyError (α × ArtifactDirs) → ArtifactDirs × Except PyError Unit
  | .ok (_, after) => (after, .ok ())
  | .error reason => (dirs, .error reason)

/-- The files after a call, and whether it raised. -/
def ArtifactCall.perform (hexdigest : Bytes → String) (dirs : ArtifactDirs) :
    ArtifactCall → ArtifactDirs × Except PyError Unit
  | .stage data mediaType => dirs.keeping (dirs.stageBytes hexdigest data mediaType)
  | .tear data mediaType written =>
      (dirs.tornStage hexdigest data mediaType written, .error .osError)
  | .promote staged => dirs.keeping (dirs.promote hexdigest staged)
  | .verify named quarantine visited => dirs.verify hexdigest named quarantine visited

/-- The files after a run of calls. -/
def artifactRun (hexdigest : Bytes → String) (dirs : ArtifactDirs) (calls : List ArtifactCall) :
    ArtifactDirs :=
  runCalls (ArtifactCall.perform hexdigest) dirs calls

end Sastsimi.Storage
