import Sastsimi.Storage.ArtifactStore

/-!
# Safety of the content-addressed files

A call writes under `sha256` only what has the digest of its name, and takes a file away only into
quarantine.  So a promoted content stays what it is in every run, wherever its calls die.
-/

namespace Sastsimi.Storage

open Lib Sastsimi.Runtime

variable {hexdigest : Bytes → String} {dirs before after : ArtifactDirs} {name : String}
  {found : Bytes}

/-! ## What a call keeps -/

/-- The files of `sha256` have the digests of their names, and the staged ones are what a content of
their digest begins with. -/
structure FilesSound (hexdigest : Bytes → String) (dirs : ArtifactDirs) : Prop where
  promoted : ∀ name found, dirs.sha256 name = some found →
    hexdigest found = name ∧ isDigest name = true
  staged : ∀ name found, dirs.staging name = some found →
    ∃ data, hexdigest data = name ∧ found <+: data

/-- What later files keep of earlier ones. -/
structure Keeps (hexdigest : Bytes → String) (before after : ArtifactDirs) : Prop where
  promoted : ∀ name found, hexdigest found = name → before.sha256 name = some found →
    after.sha256 name = some found ∨ after.quarantine name = some found
  quarantined : ∀ name found, before.quarantine name = some found →
    after.quarantine name = some found
  staged : ∀ name found, hexdigest found ≠ name → before.staging name = some found →
    after.staging name = some found

theorem Keeps.refl (dirs : ArtifactDirs) : Keeps hexdigest dirs dirs :=
  ⟨fun _ _ _ stored => .inl stored, fun _ _ kept => kept, fun _ _ _ staged => staged⟩

theorem Keeps.trans {middle : ArtifactDirs} (first : Keeps hexdigest before middle)
    (second : Keeps hexdigest middle after) : Keeps hexdigest before after := by
  constructor
  · intro name found same stored
    obtain stored | kept := first.promoted name found same stored
    · exact second.promoted name found same stored
    · exact .inr (second.quarantined name found kept)
  · intro name found kept
    exact second.quarantined name found (first.quarantined name found kept)
  · intro name found torn staged
    exact second.staged name found torn (first.staged name found torn staged)

/-! ## Staging -/

/-- A call of `stage_bytes` that returned found its content or wrote it. -/
theorem stageBytes_ok {data : Bytes} {mediaType : String} {staged : StagedArtifact}
    (returned : dirs.stageBytes hexdigest data mediaType = .ok (staged, after)) :
    staged.data = data ∧ after.staging (hexdigest data) = some data
      ∧ (after = dirs ∨ dirs.staging (hexdigest data) = none
        ∧ after = { dirs with
            staging := Function.update dirs.staging (hexdigest data) (some data) }) := by
  obtain ⟨-, returned⟩ := raiseIf_bind_ok.1 returned
  split at returned
  · rename_i kept stored
    obtain ⟨same, returned⟩ := raiseIf_bind_ok.1 returned
    cases returned
    rw [not_not.1 same] at stored
    exact ⟨rfl, stored, .inl rfl⟩
  · rename_i free
    cases returned
    exact ⟨rfl, Function.update_self .., .inr ⟨free, rfl⟩⟩

/-- Writing what a content begins with under its digest, where nothing was staged. -/
theorem FilesSound.writes {data written : Bytes} (sound : FilesSound hexdigest dirs)
    (begins : written <+: data) :
    FilesSound hexdigest
      { dirs with staging := Function.update dirs.staging (hexdigest data) (some written) } := by
  constructor
  · exact sound.promoted
  · intro name found staged
    simp only [Function.update_apply] at staged
    split at staged
    · rename_i same
      cases staged
      exact ⟨data, same.symm, begins⟩
    · exact sound.staged name found staged

theorem Keeps.writes {data written : Bytes} (free : dirs.staging (hexdigest data) = none) :
    Keeps hexdigest dirs
      { dirs with staging := Function.update dirs.staging (hexdigest data) (some written) } := by
  constructor
  · exact fun _ _ _ stored => .inl stored
  · exact fun _ _ kept => kept
  · intro name found _ staged
    have other : name ≠ hexdigest data := by
      rintro rfl
      rw [free] at staged
      cases staged
    exact (Function.update_of_ne other _ _).trans staged

/-! ## Promotion -/

/-- A call of `promote` that returned found a verified file or moved the staged one. -/
theorem promote_ok {staged : StagedArtifact} {digest : String}
    (returned : dirs.promote hexdigest staged = .ok (digest, after)) :
    digest = hexdigest staged.data ∧ isDigest digest = true
      ∧ ((∃ found, dirs.sha256 digest = some found ∧ hexdigest found = digest ∧ after = dirs)
        ∨ dirs.sha256 digest = none ∧ dirs.staging digest = some staged.data
          ∧ after = { dirs with
              staging := Function.update dirs.staging digest none
              sha256 := Function.update dirs.sha256 digest (some staged.data) }) := by
  obtain ⟨path, named, returned⟩ := except_bind_ok returned
  obtain ⟨valid, named⟩ := raiseIf_bind_ok.1 named
  cases named
  split at returned
  · rename_i found stored
    obtain ⟨same, returned⟩ := raiseIf_bind_ok.1 returned
    cases returned
    exact ⟨rfl, by simpa using valid, .inl ⟨found, stored, not_not.1 same, rfl⟩⟩
  · rename_i free
    obtain ⟨same, returned⟩ := raiseIf_bind_ok.1 returned
    cases returned
    exact ⟨rfl, by simpa using valid, .inr ⟨free, not_not.1 same, rfl⟩⟩

/-- Moving a staged content of its digest to its place. -/
theorem FilesSound.moves {data : Bytes} (sound : FilesSound hexdigest dirs)
    (valid : isDigest (hexdigest data) = true) :
    FilesSound hexdigest
      { dirs with
        staging := Function.update dirs.staging (hexdigest data) none
        sha256 := Function.update dirs.sha256 (hexdigest data) (some data) } := by
  constructor
  · intro name found stored
    simp only [Function.update_apply] at stored
    split at stored
    · rename_i same
      cases stored
      exact ⟨same.symm, same ▸ valid⟩
    · exact sound.promoted name found stored
  · intro name found staged
    simp only [Function.update_apply] at staged
    split at staged
    · cases staged
    · exact sound.staged name found staged

theorem Keeps.moves {data : Bytes} (free : dirs.sha256 (hexdigest data) = none)
    (staged : dirs.staging (hexdigest data) = some data) :
    Keeps hexdigest dirs
      { dirs with
        staging := Function.update dirs.staging (hexdigest data) none
        sha256 := Function.update dirs.sha256 (hexdigest data) (some data) } := by
  constructor
  · intro name found _ stored
    have other : name ≠ hexdigest data := by
      rintro rfl
      rw [free] at stored
      cases stored
    left
    exact (Function.update_of_ne other _ _).trans stored
  · exact fun _ _ kept => kept
  · intro name found torn kept
    have other : name ≠ hexdigest data := by
      rintro rfl
      rw [staged] at kept
      cases kept
      exact torn rfl
    exact (Function.update_of_ne other _ _).trans kept

/-! ## Sweeps -/

/-- A file of the sweep stays, or goes into quarantine. -/
theorem quarantineFile_ok {digests : List String}
    (returned : dirs.quarantineFile hexdigest digests name = .ok after)
    (sound : FilesSound hexdigest dirs) :
    after = dirs
      ∨ name ∉ digests ∧ ∃ found, dirs.sha256 name = some found
        ∧ (dirs.quarantine name = none ∨ dirs.quarantine name = some found)
        ∧ after = { dirs with
            sha256 := Function.update dirs.sha256 name none
            quarantine := Function.update dirs.quarantine name (some found) } := by
  rw [ArtifactDirs.quarantineFile] at returned
  split at returned
  · cases returned
    exact .inl rfl
  · rename_i found stored
    have same := (sound.promoted name found stored).1
    split at returned
    · cases returned
      exact .inl rfl
    · rename_i unnamed
      simp only [same, if_true] at returned
      right
      split at returned
      · rename_i kept quarantined
        obtain ⟨equal, returned⟩ := raiseIf_bind_ok.1 returned
        cases returned
        rw [not_not.1 equal] at quarantined
        refine ⟨unnamed, found, stored, .inr quarantined, ?_⟩
        rw [← quarantined, Function.update_eq_self]
      · rename_i free
        cases returned
        exact ⟨unnamed, found, stored, .inl free, rfl⟩

theorem FilesSound.sweeps (sound : FilesSound hexdigest dirs) (quarantine : Directory) :
    FilesSound hexdigest
      { dirs with sha256 := Function.update dirs.sha256 name none, quarantine } := by
  constructor
  · intro other found stored
    simp only [Function.update_apply] at stored
    split at stored
    · cases stored
    · exact sound.promoted other found stored
  · exact sound.staged

theorem Keeps.sweeps (stored : dirs.sha256 name = some found)
    (free : dirs.quarantine name = none ∨ dirs.quarantine name = some found) :
    Keeps hexdigest dirs
      { dirs with
        sha256 := Function.update dirs.sha256 name none
        quarantine := Function.update dirs.quarantine name (some found) } := by
  constructor
  · intro other kept _ held
    by_cases same : other = name
    · subst same
      rw [stored] at held
      cases held
      exact .inr (Function.update_self ..)
    · left
      exact (Function.update_of_ne same _ _).trans held
  · intro other kept held
    by_cases same : other = name
    · subst same
      obtain missing | present := free
      · rw [missing] at held
        cases held
      · rw [present] at held
        cases held
        exact Function.update_self ..
    · exact (Function.update_of_ne same _ _).trans held
  · exact fun _ _ _ staged => staged

/-- A sweep that stops anywhere keeps what each of its files keeps. -/
theorem sweep_keeps (digests : List String) (visited : List String)
    (sound : FilesSound hexdigest dirs) :
    FilesSound hexdigest
        (runAll (fun dirs name => dirs.quarantineFile hexdigest digests name) dirs visited).1
      ∧ Keeps hexdigest dirs
        (runAll (fun dirs name => dirs.quarantineFile hexdigest digests name) dirs visited).1
      ∧ ∀ name ∈ digests,
        (runAll (fun dirs name => dirs.quarantineFile hexdigest digests name) dirs visited).1.sha256
          name = dirs.sha256 name := by
  refine @runAll_keeps _ _ _ (fun dirs name => dirs.quarantineFile hexdigest digests name)
    (fun after => FilesSound hexdigest after ∧ Keeps hexdigest dirs after
      ∧ ∀ name ∈ digests, after.sha256 name = dirs.sha256 name) visited ?_ dirs
    ⟨sound, .refl dirs, fun _ _ => rfl⟩
  rintro state file next - returned ⟨sound, keeps, named⟩
  obtain rfl | ⟨unnamed, found, stored, free, rfl⟩ := quarantineFile_ok returned sound
  · exact ⟨sound, keeps, named⟩
  · refine ⟨sound.sweeps _, keeps.trans (.sweeps stored free), ?_⟩
    intro name member
    have other : name ≠ file := fun same => unnamed (same ▸ member)
    exact (Function.update_of_ne other _ _).trans (named name member)

/-! ## Runs -/

/-- A call that keeps the file of a digest where it is. -/
def ArtifactCall.requires (digest : String) : ArtifactCall → Prop
  | .verify named quarantine _ => quarantine = true → digest ∈ named.digests
  | _ => True

/-- What a call keeps, wherever it stops. -/
theorem perform_keeps (call : ArtifactCall) (sound : FilesSound hexdigest dirs) :
    FilesSound hexdigest (call.perform hexdigest dirs).1
      ∧ Keeps hexdigest dirs (call.perform hexdigest dirs).1
      ∧ ∀ name found, call.requires name → dirs.sha256 name = some found →
        (call.perform hexdigest dirs).1.sha256 name = some found := by
  cases call with
  | stage data mediaType =>
      simp only [ArtifactCall.perform]
      cases returned : dirs.stageBytes hexdigest data mediaType with
      | error reason => exact ⟨sound, .refl dirs, fun _ _ _ stored => stored⟩
      | ok result =>
          obtain ⟨staged, after⟩ := result
          obtain ⟨-, -, rfl | ⟨free, rfl⟩⟩ := stageBytes_ok returned
          · exact ⟨sound, .refl after, fun _ _ _ stored => stored⟩
          · exact ⟨sound.writes List.prefix_rfl, .writes free, fun _ _ _ stored => stored⟩
  | tear data mediaType written =>
      simp only [ArtifactCall.perform, ArtifactDirs.tornStage]
      split
      · exact ⟨sound, .refl dirs, fun _ _ _ stored => stored⟩
      · rename_i free
        have unstaged : dirs.staging (hexdigest data) = none := by
          rw [not_or] at free
          simpa using free.2
        exact ⟨sound.writes (List.take_prefix _ _), .writes unstaged, fun _ _ _ stored => stored⟩
  | promote staged =>
      simp only [ArtifactCall.perform]
      cases returned : dirs.promote hexdigest staged with
      | error reason => exact ⟨sound, .refl dirs, fun _ _ _ stored => stored⟩
      | ok result =>
          obtain ⟨digest, after⟩ := result
          obtain ⟨rfl, valid, ⟨_, -, -, rfl⟩ | ⟨free, kept, rfl⟩⟩ := promote_ok returned
          · exact ⟨sound, .refl after, fun _ _ _ stored => stored⟩
          · refine ⟨sound.moves valid, .moves free kept, ?_⟩
            intro name found _ stored
            have other : name ≠ hexdigest staged.data := by
              rintro rfl
              rw [free] at stored
              cases stored
            exact (Function.update_of_ne other _ _).trans stored
  | verify named quarantine visited =>
      simp only [ArtifactCall.perform, ArtifactDirs.verify]
      split
      · exact ⟨sound, .refl dirs, fun _ _ _ stored => stored⟩
      · split
        · rename_i sweeps
          obtain ⟨swept, keeps, same⟩ := sweep_keeps named.digests visited sound
          refine ⟨swept, keeps, ?_⟩
          intro name found required stored
          rw [same name (required sweeps)]
          exact stored
        · exact ⟨sound, .refl dirs, fun _ _ _ stored => stored⟩

/-- What a run keeps. -/
theorem artifactRun_keeps (calls : List ArtifactCall) (sound : FilesSound hexdigest dirs) :
    FilesSound hexdigest (artifactRun hexdigest dirs calls)
      ∧ Keeps hexdigest dirs (artifactRun hexdigest dirs calls)
      ∧ ∀ name found, (∀ call ∈ calls, call.requires name) → dirs.sha256 name = some found →
        (artifactRun hexdigest dirs calls).sha256 name = some found := by
  induction calls generalizing dirs with
  | nil => exact ⟨sound, .refl dirs, fun _ _ _ stored => stored⟩
  | cons call rest ih =>
      obtain ⟨next, keeps, stays⟩ := perform_keeps call sound
      obtain ⟨last, later, remains⟩ := ih next
      refine ⟨last, keeps.trans later, ?_⟩
      intro name found required stored
      apply remains name found fun call member => required call (List.mem_cons_of_mem _ member)
      exact stays name found (required call List.mem_cons_self) stored

theorem artifactRun_sound (calls : List ArtifactCall) :
    FilesSound hexdigest (artifactRun hexdigest {} calls) := by
  have empty : FilesSound hexdigest {} := by
    constructor
    · intro name found stored
      cases stored
    · intro name found staged
      cases staged
  exact (artifactRun_keeps calls empty).1

theorem artifactRun_append (calls later : List ArtifactCall) :
    artifactRun hexdigest dirs (calls ++ later) =
      artifactRun hexdigest (artifactRun hexdigest dirs calls) later :=
  runCalls_append

/-! ## Reading -/

/-- A file that has the digest of its name opens verified. -/
theorem openVerified_ok {binding : Binding} {ref : ArtifactRef}
    (checked : ArtifactDirs.checkRef binding ref = .ok ())
    (stored : dirs.sha256 ref.contentHash = some found) (same : hexdigest found = ref.contentHash)
    (valid : isDigest ref.contentHash = true) :
    dirs.openVerified hexdigest binding ref = .ok found := by
  simp [ArtifactDirs.openVerified, checked, pathFor, readBytes, raiseIf, required, stored, same,
    valid, bind, Except.bind, pure, Except.pure]

/-- A bounded read returns what an unbounded one does, when that fits. -/
theorem openVerifiedBounded_ok {binding : Binding} {ref : ArtifactRef} {maxBytes : Int}
    {data : Bytes} :
    dirs.openVerifiedBounded hexdigest binding ref maxBytes = .ok data ↔
      dirs.openVerified hexdigest binding ref = .ok data ∧ (data.length : Int) ≤ maxBytes := by
  constructor
  · intro returned
    obtain ⟨-, returned⟩ := raiseIf_bind_ok.1 returned
    obtain ⟨⟨⟩, checked, returned⟩ := except_bind_ok returned
    obtain ⟨path, named, returned⟩ := except_bind_ok returned
    obtain ⟨found, stored, returned⟩ := except_bind_ok returned
    obtain ⟨fits, returned⟩ := raiseIf_bind_ok.1 returned
    obtain ⟨same, returned⟩ := raiseIf_bind_ok.1 returned
    cases returned
    refine ⟨?_, Int.not_lt.1 fits⟩
    simp [ArtifactDirs.openVerified, checked, named, stored, raiseIf, not_not.1 same, bind,
      Except.bind, pure, Except.pure]
  · rintro ⟨returned, fits⟩
    obtain ⟨⟨⟩, checked, returned⟩ := except_bind_ok returned
    obtain ⟨path, named, returned⟩ := except_bind_ok returned
    obtain ⟨found, stored, returned⟩ := except_bind_ok returned
    obtain ⟨same, returned⟩ := raiseIf_bind_ok.1 returned
    cases returned
    have positive : ¬ maxBytes < 0 := by omega
    simp [ArtifactDirs.openVerifiedBounded, checked, named, stored, raiseIf, not_not.1 same,
      positive, Int.not_lt.2 fits, bind, Except.bind, pure, Except.pure]

/-! ## Safety -/

/-- What holds of the files in every run that begins without any. -/
structure ArtifactsSafe (hexdigest : Bytes → String) : Prop where
  /-- Every file of `sha256` has the digest of its name. -/
  sound : ∀ calls name found, (artifactRun hexdigest {} calls).sha256 name = some found →
    hexdigest found = name
  /-- A promoted content is never altered and never lost: it stays, or is in quarantine. -/
  kept : ∀ calls later name found, (artifactRun hexdigest {} calls).sha256 name = some found →
    (artifactRun hexdigest {} (calls ++ later)).sha256 name = some found
      ∨ (artifactRun hexdigest {} (calls ++ later)).quarantine name = some found
  /-- What was staged can be promoted. -/
  promotes : ∀ calls data mediaType staged after, isDigest (hexdigest data) = true →
    (artifactRun hexdigest {} calls).stageBytes hexdigest data mediaType = .ok (staged, after) →
    ∃ done, after.promote hexdigest staged = .ok (hexdigest data, done)
  /-- A committed content opens verified as long as the sweeps are told of it: as it was committed,
  or as the content of its digest that was there before. -/
  reads : ∀ calls later binding staged ref after,
    (artifactRun hexdigest {} calls).commit hexdigest binding staged = .ok (ref, after) →
    (∀ call ∈ later, call.requires ref.contentHash) →
    ∃ data, ((artifactRun hexdigest {} calls).sha256 ref.contentHash).getD staged.data = data
      ∧ hexdigest data = hexdigest staged.data
      ∧ (artifactRun hexdigest {} (calls ++ .promote staged :: later)).openVerified hexdigest
        binding (.stored ref) = .ok data
      ∧ ∀ maxBytes : Int, data.length ≤ maxBytes →
        (artifactRun hexdigest {} (calls ++ .promote staged :: later)).openVerifiedBounded hexdigest
          binding (.stored ref) maxBytes = .ok data
  /-- A content whose staging was torn is never staged again. -/
  torn : ∀ calls later data mediaType written otherType,
    isBlank mediaType = false → isBlank otherType = false →
    (artifactRun hexdigest {} calls).staging (hexdigest data) = none → written < data.length →
    hexdigest (data.take written) ≠ hexdigest data →
    (artifactRun hexdigest {} (calls ++ .tear data mediaType written :: later)).stageBytes hexdigest
      data otherType = .error (.valueError "HASH_MISMATCH: staged artifact")

theorem promote_of_staged {data : Bytes} {staged : StagedArtifact}
    (sound : FilesSound hexdigest dirs) (valid : isDigest (hexdigest data) = true)
    (same : staged.data = data) (kept : dirs.staging (hexdigest data) = some data) :
    ∃ done, dirs.promote hexdigest staged = .ok (hexdigest data, done) := by
  subst same
  cases stored : dirs.sha256 (hexdigest staged.data) with
  | none =>
      simp [ArtifactDirs.promote, pathFor, raiseIf, valid, stored, kept, bind, Except.bind, pure,
        Except.pure]
  | some found =>
      have digest := (sound.promoted _ found stored).1
      simp [ArtifactDirs.promote, pathFor, raiseIf, valid, stored, digest, bind, Except.bind, pure,
        Except.pure]

theorem commit_ok {binding : Binding} {staged : StagedArtifact} {ref : StoredDataRef}
    (returned : dirs.commit hexdigest binding staged = .ok (ref, after)) :
    dirs.promote hexdigest staged = .ok (ref.contentHash, after)
      ∧ ArtifactDirs.checkRef binding (.stored ref) = .ok () := by
  rw [ArtifactDirs.commit] at returned
  split at returned
  · rename_i workspaceId commitId workspace commit
    obtain ⟨⟨digest, done⟩, promoted, returned⟩ := except_bind_ok returned
    cases returned
    refine ⟨promoted, ?_⟩
    obtain ⟨workspaceId, commitId⟩ := binding
    cases workspace
    cases commit
    simp [ArtifactDirs.checkRef, ArtifactRef.belongs, ArtifactRef.isArtifact, raiseIf, bind,
      Except.bind]
  · cases returned

/-- A promoted content is the one that was there, or else the staged one. -/
theorem promoted_stored {staged : StagedArtifact} {digest : String}
    (sound : FilesSound hexdigest dirs)
    (returned : dirs.promote hexdigest staged = .ok (digest, after)) :
    after.sha256 digest = some ((dirs.sha256 digest).getD staged.data)
      ∧ hexdigest ((dirs.sha256 digest).getD staged.data) = hexdigest staged.data := by
  obtain ⟨rfl, -, ⟨found, stored, same, rfl⟩ | ⟨free, -, rfl⟩⟩ := promote_ok returned
  · simp [stored, same]
  · simp [free]

/-- A torn file stays where it is: its bytes do not have its digest. -/
theorem tear_stays {data : Bytes} {mediaType : String} {written : Nat} (later : List ArtifactCall)
    (sound : FilesSound hexdigest dirs) (blank : isBlank mediaType = false)
    (free : dirs.staging (hexdigest data) = none)
    (torn : hexdigest (data.take written) ≠ hexdigest data) :
    (artifactRun hexdigest dirs (.tear data mediaType written :: later)).staging (hexdigest data) =
      some (data.take written) := by
  have step := (perform_keeps (.tear data mediaType written) sound).1
  apply (artifactRun_keeps later step).2.1.staged _ _ torn
  simp [ArtifactCall.perform, ArtifactDirs.tornStage, blank, free]

/-- In every run, wherever its calls die, the files are safe. -/
theorem artifacts_safe (hexdigest : Bytes → String) : ArtifactsSafe hexdigest := by
  constructor
  · intro calls name found stored
    exact ((artifactRun_sound calls).promoted name found stored).1
  · intro calls later name found stored
    have sound := @artifactRun_sound hexdigest calls
    rw [artifactRun_append]
    exact (artifactRun_keeps later sound).2.1.promoted name found
      (sound.promoted name found stored).1 stored
  · intro calls data mediaType staged after valid returned
    have sound := (perform_keeps (.stage data mediaType)
      (@artifactRun_sound hexdigest calls)).1
    simp only [ArtifactCall.perform, returned, ArtifactDirs.keeping] at sound
    obtain ⟨same, kept, -⟩ := stageBytes_ok returned
    exact promote_of_staged sound valid same kept
  · intro calls later binding staged ref after returned required
    rw [artifactRun_append]
    have sound := @artifactRun_sound hexdigest calls
    generalize artifactRun hexdigest {} calls = dirs at returned sound ⊢
    obtain ⟨promoted, checked⟩ := commit_ok returned
    obtain ⟨digest, valid, -⟩ := promote_ok promoted
    obtain ⟨stored, same⟩ := promoted_stored sound promoted
    have performed : (ArtifactCall.perform hexdigest dirs (.promote staged)).1 = after := by
      simp [ArtifactCall.perform, promoted, ArtifactDirs.keeping]
    have next := (perform_keeps (.promote staged) sound).1
    rw [performed] at next
    have remains := (artifactRun_keeps later next).2.2 _ _ required stored
    have opened : (artifactRun hexdigest after later).openVerified hexdigest binding (.stored ref) =
        .ok ((dirs.sha256 ref.contentHash).getD staged.data) :=
      openVerified_ok checked remains (same.trans digest.symm) valid
    have ran : artifactRun hexdigest dirs (.promote staged :: later) =
        artifactRun hexdigest after later := by
      rw [artifactRun, runCalls, performed, artifactRun]
    rw [ran]
    refine ⟨_, rfl, same, opened, ?_⟩
    intro maxBytes fits
    exact openVerifiedBounded_ok.2 ⟨opened, fits⟩
  · intro calls later data mediaType written otherType blank otherBlank free short torn
    rw [artifactRun_append]
    have sound := @artifactRun_sound hexdigest calls
    have staged := tear_stays later sound blank free torn
    have differs : data.take written ≠ data := by
      intro same
      have lengths := congrArg List.length same
      rw [List.length_take] at lengths
      omega
    simp [ArtifactDirs.stageBytes, raiseIf, otherBlank, staged, differs, bind, Except.bind]

end Sastsimi.Storage
