/-
Module: Wts.Proofs.GeneratedSession
Purpose: Sessions of generated files over whole runs.
Trusted boundary: none
Main exports: run_sessionKept
-/
import Wts.Proofs.GeneratedSnapshot

namespace Wts.Setup

open FileTree Interrupt List
open Interrupt.Proc

variable {α : Type} {path relative : PathBuf} {host : Host}

/-- The entries that a snapshot claims as its own are entries that were created. -/
structure Claims (snapshot : GeneratedFilesSnapshot) (created : List PathBuf) : Prop where
  directories : ∀ directory ∈ snapshot.directories, directory.owned = true → directory.path ∈ created
  files : ∀ file ∈ snapshot.files, file.temporaryPath ∈ created

/-- A path that the session owns is accounted for: it is not recorded yet, its rollback removes it, or
its rollback is incomplete. -/
def Accounted (session : GeneratedFiles) (unrecorded : List PathBuf) (path : PathBuf) : Prop :=
  path ∈ unrecorded ∨ (∃ file ∈ session.files, file.path = path) ∨
    (∃ directory ∈ session.directories, directory.path = path ∧ directory.owned = true) ∨
      session.cleanupIncomplete = true

structure Sound (host : Host) : Prop where
  offered : ∀ snapshot ∈ host.offered, snapshot.isValid = true
  known : ∀ path ∈ host.created, path ∈ host.session.snapshot.ownedPaths
  listed : ∀ path ∈ host.created, ∃ saved, host.saved = some saved ∧ path ∈ saved.ownedPaths
  claims : Claims host.session.snapshot host.created
  savedClaims : ∀ saved, host.saved = some saved → Claims saved host.created
  files : ∀ file ∈ host.session.files, file.path ∈ host.created
  directories : ∀ directory ∈ host.session.directories, directory.owned = true →
    directory.path ∈ host.created
  owned : ∀ path ∈ host.owned, path ∈ host.created
  accounted : ∀ path ∈ host.owned, Accounted host.session host.unrecorded path

variable {snapshot : GeneratedFilesSnapshot}

theorem mem_ownedPaths : path ∈ snapshot.ownedPaths ↔
      (∃ directory ∈ snapshot.directories, directory.owned = true ∧ directory.path = path) ∨
        (∃ file ∈ snapshot.files, path = file.path ∨ path = file.temporaryPath) ∨
          path ∈ snapshot.intents := by
  simp only [GeneratedFilesSnapshot.ownedPaths, mem_append, mem_map, mem_filter,
    mem_flatMap, mem_cons, not_mem_nil, or_false, and_assoc, or_assoc]

theorem mem_knownPaths_of_ownedPaths
    (member : path ∈ snapshot.ownedPaths) : path ∈ snapshot.knownPaths := by
  simp only [GeneratedFilesSnapshot.ownedPaths, GeneratedFilesSnapshot.knownPaths,
    mem_append] at member ⊢
  rcases member with (directory | file) | intent
  · obtain ⟨entry, inside, same⟩ := mem_map.1 directory
    exact .inl (.inl (mem_map.2 ⟨entry, (mem_filter.1 inside).1, same⟩))
  · exact .inl (.inr file)
  exact .inr intent

theorem Sound.disk (sound : Sound host) (disk : Disk) : Sound { host with disk := disk } :=
  ⟨sound.offered, sound.known, sound.listed, sound.claims, sound.savedClaims, sound.files,
    sound.directories, sound.owned, sound.accounted⟩

variable {created : List PathBuf}

theorem Claims.mono {more : List PathBuf}
    (claims : Claims snapshot created) (subset : created ⊆ more) : Claims snapshot more where
  directories := fun directory member owned => subset (claims.directories directory member owned)
  files := fun file member => subset (claims.files file member)

/-! ### Steps of the session -/

def GeneratedFilesSnapshot.intend (snapshot : GeneratedFilesSnapshot) (path : PathBuf) :
    GeneratedFilesSnapshot :=
  { snapshot with intents := snapshot.intents ++ [path] }

def Host.withSnapshot (host : Host) (snapshot : GeneratedFilesSnapshot) : Host :=
  { host with session := { host.session with snapshot := snapshot } }

theorem Sound.intend (sound : Sound host) (path : PathBuf) :
    Sound (host.withSnapshot (host.session.snapshot.intend path)) where
  __ := sound
  known := by
    intro other member
    have before := mem_ownedPaths.1 (sound.known other member)
    refine mem_ownedPaths.2 ?_
    rcases before with directory | file | intent
    · exact .inl directory
    · exact .inr (.inl file)
    exact .inr (.inr (mem_append_left _ intent))
  claims := ⟨sound.claims.directories, sound.claims.files⟩

theorem intend_ownedPaths : path ∈ (snapshot.intend path).ownedPaths :=
  mem_ownedPaths.2 (.inr (.inr (mem_append_right _ mem_cons_self)))

theorem notMem_of_valid_intend
    (valid : (snapshot.intend path).isValid = true) : path ∉ snapshot.ownedPaths := by
  intro member
  simp only [GeneratedFilesSnapshot.isValid, Bool.and_eq_true, decide_eq_true_eq] at valid
  have distinct := valid.1.2
  have known := mem_knownPaths_of_ownedPaths member
  have appended : (snapshot.intend path).knownPaths = snapshot.knownPaths ++ [path] := by
    simp [GeneratedFilesSnapshot.knownPaths, GeneratedFilesSnapshot.intend]
  rw [appended, nodup_append] at distinct
  exact distinct.2.2 path known path mem_cons_self rfl

def Host.observed (host : Host) : Host :=
  { host with
    offered := host.offered ++ [host.session.snapshot]
    saved := some host.session.snapshot }

theorem Sound.observed (sound : Sound host) (valid : host.session.snapshot.isValid = true) :
    Sound host.observed where
  offered := by
    intro snapshot member
    rcases mem_append.1 member with old | new
    · exact sound.offered snapshot old
    rw [mem_singleton.1 new]
    exact valid
  __ := sound
  listed := fun path member => ⟨_, rfl, sound.known path member⟩
  savedClaims := by
    rintro saved same
    rw [← Option.some.inj same]
    exact sound.claims

theorem Sound.offer (sound : Sound host) (valid : host.session.snapshot.isValid = true) :
    Sound { host with offered := host.offered ++ [host.session.snapshot] } where
  offered := (sound.observed valid).offered
  __ := sound

variable {fates : List Fate}

theorem observe_ends (sound : Sound host) : Ends observe fates host
      (fun _ _ after => after = host.observed ∧ host.session.snapshot.isValid = true)
      fun _ after => Sound after := by
  apply Ends.bind_read
  apply Ends.bind_ofExcept
  · exact fun _ _ => sound
  intro _ accepted
  have valid : host.session.snapshot.isValid = true := by
    simp only [GeneratedFilesSnapshot.validate] at accepted
    split at accepted
    · assumption
    cases accepted
  apply Ends.bind_note
  apply Ends.change
  · exact fun _ => ⟨rfl, valid⟩
  · exact fun _ => sound.offer valid
  exact fun _ => sound.observed valid

theorem Sound.addParent (sound : Sound host) (path : PathBuf) (metadata : Metadata) : Sound
      { host with
        session := host.session.addDirectory path metadata false host.session.snapshot.intents } where
  __ := sound
  known := by
    intro other member
    rcases mem_ownedPaths.1 (sound.known other member) with ⟨directory, inside, rest⟩ | others
    · exact mem_ownedPaths.2 (.inl ⟨directory, mem_append_left _ inside, rest⟩)
    exact mem_ownedPaths.2 (.inr others)
  claims := by
    refine ⟨?_, sound.claims.files⟩
    intro directory member owned
    rcases mem_append.1 member with old | new
    · exact sound.claims.directories directory old owned
    rw [mem_singleton.1 new] at owned
    cases owned
  directories := by
    intro directory member owned
    rcases mem_append.1 member with old | new
    · exact sound.directories directory old owned
    rw [mem_singleton.1 new] at owned
    cases owned
  accounted := by
    intro other member
    rcases sound.accounted other member with waiting | file | ⟨directory, inside, rest⟩ | incomplete
    · exact .inl waiting
    · exact .inr (.inl file)
    · exact .inr (.inr (.inl ⟨directory, mem_append_left _ inside, rest⟩))
    exact .inr (.inr (.inr incomplete))

theorem Sound.creation (sound : Sound host) (node : Node)
    (known : path ∈ host.session.snapshot.ownedPaths)
    (listed : ∃ saved, host.saved = some saved ∧ path ∈ saved.ownedPaths) :
    Sound (creation path node host) where
  offered := sound.offered
  known := by
    intro other member
    rcases mem_append.1 member with old | new
    · exact sound.known other old
    rw [mem_singleton.1 new]
    exact known
  listed := by
    intro other member
    rcases mem_append.1 member with old | new
    · exact sound.listed other old
    rw [mem_singleton.1 new]
    exact listed
  claims := sound.claims.mono (subset_append_left _ _)
  savedClaims := fun saved same => (sound.savedClaims saved same).mono (subset_append_left _ _)
  files := fun file member => mem_append_left _ (sound.files file member)
  directories := fun directory member owned =>
    mem_append_left _ (sound.directories directory member owned)
  owned := by
    intro other member
    rcases mem_append.1 member with old | new
    · exact mem_append_left _ (sound.owned other old)
    exact mem_append_right _ new
  accounted := by
    intro other member
    rcases mem_append.1 member with old | new
    · rcases sound.accounted other old with waiting | others
      · exact .inl (mem_append_left _ waiting)
      · exact .inr others
    exact .inl (mem_append_right _ new)

def Host.recorded (host : Host) (path : PathBuf) : Host :=
  { host with unrecorded := host.unrecorded.filter (· ≠ path) }

theorem Sound.recorded (sound : Sound host)
    (accounted : path ∈ host.owned → (∃ file ∈ host.session.files, file.path = path) ∨
      (∃ directory ∈ host.session.directories, directory.path = path ∧ directory.owned = true) ∨
        host.session.cleanupIncomplete = true) : Sound (host.recorded path) where
  __ := sound
  accounted := by
    intro other member
    by_cases same : other = path
    · subst same
      exact .inr (accounted member)
    rcases sound.accounted other member with waiting | others
    · exact .inl (mem_filter.2 ⟨waiting, by simpa using same⟩)
    exact .inr others

theorem Sound.addDirectory (sound : Sound host) (metadata : Metadata) {owned : Bool}
    (mine : owned = true → path ∈ host.created) (other : owned = false → path ∉ host.created) :
    Sound ({ host with
        session := host.session.addDirectory path metadata owned
          (host.session.snapshot.intents.filter (· ≠ path)) }.recorded path) := by
  have added : Sound { host with
        session := host.session.addDirectory path metadata owned
          (host.session.snapshot.intents.filter (· ≠ path)) } := by
    refine ⟨sound.offered, ?_, sound.listed, ⟨?_, sound.claims.files⟩, sound.savedClaims,
      sound.files, ?_, sound.owned, ?_⟩
    · intro one member
      rcases mem_ownedPaths.1 (sound.known one member) with ⟨directory, inside, rest⟩ | file | intent
      · exact mem_ownedPaths.2 (.inl ⟨directory, mem_append_left _ inside, rest⟩)
      · exact mem_ownedPaths.2 (.inr (.inl file))
      by_cases same : one = path
      · subst same
        cases isOwned : owned with
        | true =>
          exact mem_ownedPaths.2 (.inl ⟨_, mem_append_right _ mem_cons_self, rfl, rfl⟩)
        | false => exact absurd member (other isOwned)
      exact mem_ownedPaths.2 (.inr (.inr (mem_filter.2 ⟨intent, by simpa using same⟩)))
    · intro directory member isOwned
      rcases mem_append.1 member with old | new
      · exact sound.claims.directories directory old isOwned
      rw [mem_singleton.1 new] at isOwned ⊢
      exact mine isOwned
    · intro directory member isOwned
      rcases mem_append.1 member with old | new
      · exact sound.directories directory old isOwned
      rw [mem_singleton.1 new] at isOwned ⊢
      exact mine isOwned
    intro one member
    rcases sound.accounted one member with waiting | file | ⟨directory, inside, rest⟩ | incomplete
    · exact .inl waiting
    · exact .inr (.inl file)
    · exact .inr (.inr (.inl ⟨directory, mem_append_left _ inside, rest⟩))
    exact .inr (.inr (.inr incomplete))
  apply added.recorded
  intro isMine
  cases isOwned : owned with
  | true => exact .inr (.inl ⟨_, mem_append_right _ mem_cons_self, rfl, rfl⟩)
  | false => exact absurd (sound.owned path isMine) (other isOwned)

/-! ### Calls -/

theorem onDisk_reads {program : DiskM α} {holds : α → Disk → Prop} (reads : Reads program holds) :
    Reads (onDisk program) fun result host => holds result host.disk :=
  Reads.zoom (fun _ => rfl) reads

theorem requireHost_reads {condition : Prop} [Decidable condition] {message : String} :
    Reads (require condition message : HostM Unit) fun _ _ => condition := by
  unfold require
  apply Reads.ite
  · exact fun met => Reads.pure fun _ => met
  exact fun _ => Reads.fail

theorem checkRecorded_reads (above : PathBuf) (directories : List RecordedDirectory) :
    Reads (checkRecorded above directories) fun _ _ => True := by
  induction directories with
  | nil => exact .pure fun _ => trivial
  | cons recorded rest ih =>
    unfold checkRecorded
    apply Reads.ite
    · intro _
      apply Reads.bind existing_reads
      intro current
      apply Reads.bind require_reads
      intro _
      exact .mono ih fun _ _ _ _ _ => trivial
    exact fun _ => ih

theorem sessionCheckedPath_reads (session : GeneratedFiles) (relative : PathBuf) :
    Reads (session.checkedPath relative) fun _ _ => True := by
  apply Reads.bind require_reads
  intro _
  apply Reads.bind existing_reads
  intro root
  apply Reads.bind require_reads
  intro _
  apply Reads.bind isCanonical_reads
  intro rootCanonical
  apply Reads.bind require_reads
  intro _
  apply Reads.bind isCanonical_reads
  intro canonical
  apply Reads.bind require_reads
  intro _
  exact .mono (checkRecorded_reads _ _) fun _ _ _ _ _ _ _ _ _ _ => trivial

theorem hostCheckedPath_reads (relative : PathBuf) :
    Reads (checkedPath relative) fun _ _ => True := by
  apply Reads.bind Reads.read
  intro host
  exact .mono (onDisk_reads (sessionCheckedPath_reads host.session relative)) fun _ _ _ _ => trivial

theorem ownState_reads (relative : PathBuf) (expected : SavedFile) :
    Reads (ownState relative expected) fun _ _ => True := by
  apply Reads.bind Reads.read
  intro host
  exact .mono (onDisk_reads GeneratedFilesSnapshot.fileState_reads) fun _ _ _ _ => trivial

theorem verifyNamedFile_reads (path : PathBuf) (recorded : Metadata) :
    Reads (verifyNamedFile path recorded) fun _ _ => True := by
  apply Reads.bind existing_reads
  intro current
  exact .mono require_reads fun _ _ _ _ => trivial

/-- What a call that succeeds has done to the snapshot: nothing, or it was accepted as it is now. -/
def Settled (host after : Host) : Prop :=
  after.session.snapshot = host.session.snapshot ∧ after.saved = host.saved ∨
    after.saved = some after.session.snapshot ∧ after.session.snapshot.isValid = true

variable {after before : Host}

theorem Settled.trans {middle : Host} (first : Settled host middle)
    (second : Settled middle after) : Settled host after := by
  rcases second with ⟨same, saved⟩ | accepted
  · rcases first with ⟨before, savedBefore⟩ | ⟨accepted, valid⟩
    · exact .inl ⟨same.trans before, saved.trans savedBefore⟩
    · refine .inr ⟨?_, ?_⟩
      · rw [saved, accepted, same]
      · rwa [same]
  exact .inr accepted

theorem Settled.refl : Settled host host :=
  .inl ⟨rfl, rfl⟩

/-- Wherever it ends the program keeps the invariant, and if it succeeds it leaves no snapshot that is
not accepted. -/
def Acts (program : HostM α) : Prop :=
  ∀ fates host, Sound host → Ends program fates host
    (fun _ _ after => Sound after ∧ Settled host after) fun _ after => Sound after

theorem Reads.acts {program : HostM α} {holds : α → Host → Prop} (reads : Reads program holds) :
    Acts program := by
  intro fates host sound
  apply Ends.mono (reads fates host)
  · rintro result left after ⟨rfl, _⟩
    exact ⟨sound, .refl⟩
  rintro error after rfl
  exact sound

theorem Acts.pure {result : α} : Acts (pure result : HostM α) :=
  fun _ _ sound => ⟨sound, .refl⟩

theorem Acts.fail {error : IoError} : Acts (fail error : HostM α) :=
  fun _ _ sound => sound

theorem Acts.bind {β : Type} {first : HostM α} {next : α → HostM β} (acts : Acts first)
    (continues : ∀ a, Acts (next a)) : Acts (first >>= next) := by
  intro fates host sound
  apply Ends.bind_mono (acts fates host sound)
  · exact fun _ _ soundAfter => soundAfter
  intro a left middle ⟨soundMiddle, settled⟩
  apply Ends.mono (continues a left middle soundMiddle)
  · exact fun _ _ after ⟨soundAfter, further⟩ => ⟨soundAfter, settled.trans further⟩
  exact fun _ _ soundAfter => soundAfter

theorem settled_observed (valid : host.session.snapshot.isValid = true) :
    Settled before host.observed :=
  .inr ⟨rfl, valid⟩

theorem recordParent_acts (path : PathBuf) : Acts (recordParent path) := by
  intro fates host sound
  apply Ends.bind_read
  apply Ends.ite
  · exact fun _ => ⟨sound, .refl⟩
  intro _
  apply Reads.then (hostCheckedPath_reads path)
  · exact fun _ => sound
  intro _ _ _
  apply Reads.then (onDisk_reads existing_reads)
  · exact fun _ => sound
  intro metadata _ _
  apply Reads.then requireHost_reads
  · exact fun _ => sound
  intro _ _ _
  apply Reads.then (onDisk_reads isCanonical_reads)
  · exact fun _ => sound
  intro canonical _ _
  apply Reads.then requireHost_reads
  · exact fun _ => sound
  intro _ left _
  apply Ends.bind_note
  have added := sound.addParent path metadata
  apply Ends.mono (observe_ends added)
  · rintro _ _ after ⟨rfl, valid⟩
    exact ⟨added.observed valid, settled_observed valid⟩
  exact fun _ _ soundAfter => soundAfter

theorem recordParentsFrom_acts (above names : List String) :
    Acts (recordParentsFrom above names) := by
  induction names generalizing above with
  | nil => exact .pure
  | cons name rest ih =>
    apply Acts.bind (Reads.acts requireHost_reads)
    intro _
    apply Acts.bind (recordParent_acts _)
    intro _
    exact ih _

theorem recordParents_acts (relative : PathBuf) : Acts (recordParents relative) := by
  unfold recordParents
  split
  · exact .fail
  split
  · exact .fail
  exact recordParentsFrom_acts _ _

variable {env : CallEnv}

theorem createDir_ends (sound : Sound host) (known : path ∈ host.session.snapshot.ownedPaths)
    (listed : ∃ saved, host.saved = some saved ∧ path ∈ saved.ownedPaths) :
    Ends (createDir env path) fates host
      (fun new _ after => if new then ∃ node, after = creation path node host else after = host)
      fun _ after => Sound after := by
  apply Ends.bind_read
  apply Ends.ite
  · intro _
    apply Ends.mono (onDisk_reads (ask_reads fun _ => false) fates host)
    · rintro new left after ⟨rfl, rfl⟩
      rfl
    rintro error after rfl
    exact sound
  intro _
  apply Ends.ite
  · intro _
    apply Ends.bind_change
    · exact fun _ => sound
    · exact fun _ => sound.creation _ known listed
    exact fun _ => ⟨_, rfl⟩
  exact fun _ => sound

theorem createUnrecorded_acts (env : CallEnv) (relative : PathBuf) :
    Acts (createUnrecorded env relative) := by
  intro fates before soundBefore
  apply Ends.bind_note
  have intended := soundBefore.intend relative
  apply Ends.bind_mono (observe_ends intended)
  · exact fun _ _ soundAfter => soundAfter
  rintro _ left host ⟨isHost, valid⟩
  have sound : Sound host := by
    rw [isHost]
    exact intended.observed valid
  have known : relative ∈ host.session.snapshot.ownedPaths := by
    rw [isHost]
    exact intend_ownedPaths
  have listed : ∃ saved, host.saved = some saved ∧ relative ∈ saved.ownedPaths := by
    rw [isHost]
    exact ⟨_, rfl, intend_ownedPaths⟩
  have new : relative ∉ host.created := by
    rw [isHost]
    exact fun member => notMem_of_valid_intend valid (soundBefore.known relative member)
  apply Reads.then (hostCheckedPath_reads relative)
  · exact fun _ => sound
  intro _ _ _
  apply Ends.bind_mono (createDir_ends sound known listed)
  · exact fun _ _ soundAfter => soundAfter
  intro owned left middle outcome
  have soundMiddle : Sound middle ∧ (owned = true → relative ∈ middle.created) ∧
      (owned = false → relative ∉ middle.created) := by
    cases owned with
    | true =>
      obtain ⟨node, rfl⟩ := outcome
      exact ⟨sound.creation node known listed, fun _ => mem_append_right _ mem_cons_self, nofun⟩
    | false =>
      obtain rfl : middle = host := outcome
      exact ⟨sound, nofun, fun _ => new⟩
  obtain ⟨soundMiddle, mine, other⟩ := soundMiddle
  apply Reads.then (onDisk_reads existing_reads)
  · exact fun _ => soundMiddle
  intro metadata _ _
  apply Reads.then requireHost_reads
  · exact fun _ => soundMiddle
  intro _ _ _
  apply Reads.then (onDisk_reads isCanonical_reads)
  · exact fun _ => soundMiddle
  intro canonical _ _
  apply Reads.then requireHost_reads
  · exact fun _ => soundMiddle
  intro _ left _
  apply Ends.bind_note
  apply Ends.bind_note
  have added := soundMiddle.addDirectory metadata mine other
  apply Ends.mono (observe_ends added)
  · rintro _ _ after ⟨rfl, valid⟩
    exact ⟨added.observed valid, settled_observed valid⟩
  exact fun _ _ soundAfter => soundAfter

theorem createDirectory_acts (env : CallEnv) (relative : PathBuf) :
    Acts (createDirectory env relative) := by
  apply Acts.bind (recordParents_acts relative)
  intro _
  apply Acts.bind (Reads.acts (hostCheckedPath_reads relative))
  intro _
  apply Acts.bind (Reads.acts Reads.read)
  intro host
  split
  · apply Acts.bind (Reads.acts (onDisk_reads existing_reads))
    intro metadata
    exact Reads.acts requireHost_reads
  exact createUnrecorded_acts env relative

/-! ### Writing a file -/

theorem openNew_ends (sound : Sound host) (known : path ∈ host.session.snapshot.ownedPaths)
    (listed : ∃ saved, host.saved = some saved ∧ path ∈ saved.ownedPaths) :
    Ends (openNew env path) fates host (fun _ _ after => ∃ node, after = creation path node host)
      fun _ after => Sound after := by
  apply Ends.bind_read
  apply Ends.ite
  · intro _
    apply Ends.change
    · exact fun _ => ⟨_, rfl⟩
    · exact fun _ => sound
    exact fun _ => sound.creation _ known listed
  exact fun _ => sound

theorem hardLink_ends {original : PathBuf} (sound : Sound host)
    (known : path ∈ host.session.snapshot.ownedPaths)
    (listed : ∃ saved, host.saved = some saved ∧ path ∈ saved.ownedPaths) :
    Ends (hardLink original path) fates host
      (fun _ _ after => ∃ node, after = creation path node host) fun _ after => Sound after := by
  apply Ends.bind_read
  split
  · apply Ends.ite
    · intro _
      apply Ends.change
      · exact fun _ => ⟨_, rfl⟩
      · exact fun _ => sound
      exact fun _ => sound.creation _ known listed
    · exact fun _ => sound
  exact sound

theorem written_eq (path : PathBuf) (bytes : List UInt8) (host : Host) :
    ∃ disk, written path bytes host = { host with disk := disk } := by
  unfold written
  split
  · exact ⟨_, rfl⟩
  exact ⟨host.disk, rfl⟩

def GeneratedFilesSnapshot.addFile (snapshot : GeneratedFilesSnapshot) (file : SavedFile)
    (temporary : PathBuf) : GeneratedFilesSnapshot :=
  { snapshot with
    files := snapshot.files ++ [file]
    intents := snapshot.intents.filter (· ≠ temporary) }

variable {expected : SavedFile}

theorem Sound.addFile (sound : Sound host) (mine : expected.temporaryPath ∈ host.created) :
    Sound (host.withSnapshot (host.session.snapshot.addFile expected expected.temporaryPath)) where
  __ := sound
  known := by
    intro other member
    rcases mem_ownedPaths.1 (sound.known other member) with directory | ⟨file, inside, name⟩ | intent
    · exact mem_ownedPaths.2 (.inl directory)
    · exact mem_ownedPaths.2 (.inr (.inl ⟨file, mem_append_left _ inside, name⟩))
    by_cases same : other = expected.temporaryPath
    · exact mem_ownedPaths.2 (.inr (.inl ⟨expected, mem_append_right _ mem_cons_self, .inr same⟩))
    exact mem_ownedPaths.2 (.inr (.inr (mem_filter.2 ⟨intent, by simpa using same⟩)))
  claims := by
    refine ⟨sound.claims.directories, ?_⟩
    intro file member
    rcases mem_append.1 member with old | new
    · exact sound.claims.files file old
    rw [mem_singleton.1 new]
    exact mine

theorem addFile_ownedPaths {file : SavedFile} :
    file.path ∈ (snapshot.addFile file file.temporaryPath).ownedPaths :=
  mem_ownedPaths.2 (.inr (.inl ⟨file, mem_append_right _ mem_cons_self, .inl rfl⟩))

theorem Sound.publish (sound : Sound host) (file : CreatedFile) (mine : file.path ∈ host.created) :
    Sound ({ host with
        session := { host.session with files := host.session.files ++ [file] } }.recorded
          file.path) := by
  have added : Sound
      { host with session := { host.session with files := host.session.files ++ [file] } } := by
    refine ⟨sound.offered, sound.known, sound.listed, sound.claims, sound.savedClaims, ?_,
      sound.directories, sound.owned, ?_⟩
    · intro other member
      rcases mem_append.1 member with old | new
      · exact sound.files other old
      rw [mem_singleton.1 new]
      exact mine
    intro other member
    rcases sound.accounted other member with waiting | ⟨one, inside, same⟩ | others
    · exact .inl waiting
    · exact .inr (.inl ⟨one, mem_append_left _ inside, same⟩)
    exact .inr (.inr others)
  exact added.recorded fun _ => .inl ⟨file, mem_append_right _ mem_cons_self, rfl⟩

/-- The snapshot of the host was accepted. -/
def Accepted (host : Host) : Prop :=
  host.saved = some host.session.snapshot ∧ host.session.snapshot.isValid = true

variable {bytes : List UInt8}

theorem publish_ends (sound : Sound host) (mine : expected.temporaryPath ∈ host.created) :
    Ends (publish expected.path expected.temporaryPath expected bytes) fates host
      (fun _ _ after => Sound after ∧ Accepted after) fun _ after => Sound after := by
  obtain ⟨disk, changed⟩ := written_eq expected.temporaryPath bytes host
  have soundWritten : Sound (written expected.temporaryPath bytes host) := by
    rw [changed]
    exact sound.disk disk
  apply Ends.bind_change
  · exact fun _ => sound
  · exact fun _ => soundWritten
  intro left
  have mine : expected.temporaryPath ∈ (written expected.temporaryPath bytes host).created := by
    rwa [changed]
  generalize written expected.temporaryPath bytes host = host at soundWritten mine
  apply Reads.then (onDisk_reads (ask_reads fun _ => ()))
  · exact fun _ => soundWritten
  intro _ _ _
  apply Reads.then (hostCheckedPath_reads _)
  · exact fun _ => soundWritten
  intro _ _ _
  apply Reads.then (onDisk_reads existing_reads)
  · exact fun _ => soundWritten
  intro metadata _ _
  apply Reads.then (hostCheckedPath_reads _)
  · exact fun _ => soundWritten
  intro _ _ _
  apply Reads.then (onDisk_reads (verifyNamedFile_reads _ _))
  · exact fun _ => soundWritten
  intro _ _ _
  apply Ends.bind_note
  have added := soundWritten.addFile mine
  apply Ends.bind_mono (observe_ends added)
  · exact fun _ _ soundAfter => soundAfter
  rintro _ left after ⟨isAfter, valid⟩
  have soundAfter : Sound after := by
    rw [isAfter]
    exact added.observed valid
  have accepted : Accepted after := by
    rw [isAfter]
    exact ⟨rfl, valid⟩
  have known : expected.path ∈ after.session.snapshot.ownedPaths := by
    rw [isAfter]
    exact addFile_ownedPaths
  apply Reads.then (hostCheckedPath_reads _)
  · exact fun _ => soundAfter
  intro _ _ _
  apply Reads.then (onDisk_reads (verifyNamedFile_reads _ _))
  · exact fun _ => soundAfter
  intro _ _ _
  apply Reads.then (ownState_reads _ _)
  · exact fun _ => soundAfter
  intro unchanged _ _
  apply Reads.then requireHost_reads
  · exact fun _ => soundAfter
  intro _ _ _
  have listed : ∃ saved, after.saved = some saved ∧ expected.path ∈ saved.ownedPaths :=
    ⟨_, accepted.1, known⟩
  apply Ends.bind_mono (hardLink_ends soundAfter known listed)
  · exact fun _ _ soundLinked => soundLinked
  rintro _ left linked ⟨node, isLinked⟩
  have soundLinked : Sound linked := by
    rw [isLinked]
    exact soundAfter.creation node known listed
  have acceptedLinked : Accepted linked := by
    rw [isLinked]
    exact accepted
  have created : expected.path ∈ linked.created := by
    rw [isLinked]
    exact mem_append_right _ mem_cons_self
  apply Ends.bind_note
  apply Ends.bind_note
  have published := soundLinked.publish
    { path := expected.path, metadata := metadata, bytes := bytes } created
  apply Reads.then (hostCheckedPath_reads _)
  · exact fun _ => published
  intro _ _ _
  apply Reads.then (onDisk_reads (verifyNamedFile_reads _ _))
  · exact fun _ => published
  intro _ _ _
  apply Reads.then (onDisk_reads (verifyNamedFile_reads _ _))
  · exact fun _ => published
  intro _ _ _
  apply Reads.then (ownState_reads _ _)
  · exact fun _ => published
  intro state left _
  apply Ends.mono (requireHost_reads left _)
  · rintro _ _ last ⟨rfl, _⟩
    exact ⟨published, acceptedLinked⟩
  rintro _ last rfl
  exact published

theorem Sound.released (sound : Sound host) (path : PathBuf) :
    Sound { host with owned := host.owned.filter (· ≠ path) } where
  __ := sound
  owned := fun other member => sound.owned other (mem_filter.1 member).1
  accounted := fun other member => sound.accounted other (mem_filter.1 member).1

variable {temporary : PathBuf}

theorem removeTemporary_ends (sound : Sound host) :
    Ends (removeTemporary relative temporary expected) fates host
      (fun _ _ after => Sound after ∧ temporary ∉ after.owned ∧ after.session = host.session ∧
        after.saved = host.saved) fun _ after => Sound after := by
  have gone : temporary ∉ host.owned.filter (· ≠ temporary) := by simp
  apply Reads.then (hostCheckedPath_reads relative)
  · exact fun _ => sound
  intro _ _ _
  apply Reads.then (ownState_reads temporary expected)
  · exact fun _ => sound
  intro state left _
  cases state with
  | missing =>
    apply Ends.note
    exact ⟨sound.released temporary, gone, rfl, rfl⟩
  | remove =>
    apply Ends.bind
    apply Ends.zoom
    apply Ends.always
    · intro _ left disk
      apply Ends.note
      exact ⟨(sound.disk disk).released temporary, gone, rfl, rfl⟩
    exact fun _ disk => sound.disk disk
  | preserve => exact sound
  | reuse => exact sound

theorem Sound.cleaned (sound : Sound host) {incomplete : Bool}
    (gone : incomplete = false → temporary ∉ host.owned) : Sound ({ host with session :=
          { host.session with
            cleanupIncomplete := host.session.cleanupIncomplete || incomplete } }.recorded
        temporary) := by
  have marked : Sound { host with
        session :=
          { host.session with
            cleanupIncomplete := host.session.cleanupIncomplete || incomplete } } := by
    refine ⟨sound.offered, sound.known, sound.listed, sound.claims, sound.savedClaims, sound.files,
      sound.directories, sound.owned, ?_⟩
    intro other member
    rcases sound.accounted other member with waiting | file | directory | isIncomplete
    · exact .inl waiting
    · exact .inr (.inl file)
    · exact .inr (.inr (.inl directory))
    exact .inr (.inr (.inr (by simp [isIncomplete])))
  apply marked.recorded
  intro mine
  cases isIncomplete : incomplete with
  | true => exact .inr (.inr (by simp))
  | false => exact absurd mine (gone isIncomplete)

theorem finish_ends (sound : Sound host) (mine : expected.temporaryPath ∈ host.created) :
    Ends (finish expected bytes) fates host
      (fun _ _ after => Sound after ∧ Settled before after) fun _ after => Sound after := by
  have published : Ends
      (attempt (publish expected.path expected.temporaryPath expected bytes) : HostM _) fates host
      (fun result _ after => Sound after ∧ (result = .ok () → Accepted after))
      fun _ after => Sound after := by
    apply Ends.attempt
    apply Ends.mono (publish_ends sound mine)
    · exact fun _ _ after ⟨soundAfter, accepted⟩ => ⟨soundAfter, fun _ => accepted⟩
    intro stopped after soundAfter
    cases stopped with
    | some error => exact fun _ => ⟨soundAfter, nofun⟩
    | none => exact soundAfter
  apply Ends.bind_mono published
  · exact fun _ _ soundAfter => soundAfter
  rintro result left middle ⟨soundMiddle, accepted⟩
  have removed : Ends (attempt (removeTemporary expected.path expected.temporaryPath expected) :
      HostM _) left middle
      (fun cleanup _ after => Sound after ∧ (cleanup = .ok () →
        expected.temporaryPath ∉ after.owned ∧ after.session = middle.session ∧
          after.saved = middle.saved)) fun _ after => Sound after := by
    apply Ends.attempt
    apply Ends.mono (removeTemporary_ends soundMiddle)
    · exact fun _ _ after ⟨soundAfter, gone⟩ => ⟨soundAfter, fun _ => gone⟩
    intro stopped after soundAfter
    cases stopped with
    | some error => exact fun _ => ⟨soundAfter, nofun⟩
    | none => exact soundAfter
  apply Ends.bind_mono removed
  · exact fun _ _ soundAfter => soundAfter
  rintro cleanup left after ⟨soundAfter, gone⟩
  apply Ends.bind_note
  apply Ends.bind_note
  have cleaned : Sound ({ after with
        session :=
          { after.session with
            cleanupIncomplete := after.session.cleanupIncomplete || !cleanup.isOk } }.recorded
        expected.temporaryPath) := by
    apply soundAfter.cleaned
    intro complete
    cases cleanup with
    | ok _ => exact (gone rfl).1
    | error _ => cases complete
  apply Ends.ofExcept
  · intro _ succeeded
    refine ⟨cleaned, .inr ?_⟩
    cases result with
    | error _ => cases succeeded
    | ok _ =>
      obtain rfl : cleanup = .ok () := succeeded
      obtain ⟨_, session, saved⟩ := gone rfl
      obtain ⟨isSaved, valid⟩ := accepted rfl
      refine ⟨?_, ?_⟩
      · show after.saved = some after.session.snapshot
        rw [saved, session, isSaved]
      show after.session.snapshot.isValid = true
      rwa [session]
  exact fun _ _ => cleaned

theorem write_acts (env : CallEnv) (relative : PathBuf) (bytes : List UInt8) :
    Acts (write env relative bytes) := by
  apply Acts.bind (recordParents_acts relative)
  intro _
  apply Acts.bind (Reads.acts (hostCheckedPath_reads relative))
  intro _ fates before soundBefore
  apply Ends.bind_note
  have intended := soundBefore.intend (temporaryPath env relative)
  apply Ends.bind_mono (observe_ends intended)
  · exact fun _ _ soundAfter => soundAfter
  rintro _ left host ⟨isHost, valid⟩
  have sound : Sound host := by
    rw [isHost]
    exact intended.observed valid
  have known : temporaryPath env relative ∈ host.session.snapshot.ownedPaths := by
    rw [isHost]
    exact intend_ownedPaths
  have listed : ∃ saved, host.saved = some saved ∧
      temporaryPath env relative ∈ saved.ownedPaths := by
    rw [isHost]
    exact ⟨_, rfl, intend_ownedPaths⟩
  apply Reads.then (hostCheckedPath_reads relative)
  · exact fun _ => sound
  intro _ _ _
  apply Ends.bind_mono (openNew_ends sound known listed)
  · exact fun _ _ soundAfter => soundAfter
  rintro _ left opened ⟨node, isOpened⟩
  have soundOpened : Sound opened := by
    rw [isOpened]
    exact sound.creation node known listed
  have mine : temporaryPath env relative ∈ opened.created := by
    rw [isOpened]
    exact mem_append_right _ mem_cons_self
  apply Reads.then (onDisk_reads existing_reads)
  · exact fun _ => soundOpened
  intro metadata left _
  exact finish_ends soundOpened mine

theorem perform_acts (env : CallEnv) (call : Call) : Acts (perform env call) := by
  cases call with
  | createDirectory relative => exact createDirectory_acts env relative
  | write relative bytes => exact write_acts env relative bytes

theorem sound_start (disk : Disk) : Sound (Host.start disk) where
  offered := fun _ member => absurd member not_mem_nil
  known := fun _ member => absurd member not_mem_nil
  listed := fun _ member => absurd member not_mem_nil
  claims := ⟨fun _ member => absurd member not_mem_nil, fun _ member => absurd member not_mem_nil⟩
  savedClaims := fun _ same => by cases same
  files := fun _ member => absurd member not_mem_nil
  directories := fun _ member => absurd member not_mem_nil
  owned := fun _ member => absurd member not_mem_nil
  accounted := fun _ member => absurd member not_mem_nil

theorem newObserved_ends (root : PathBuf) (fates : List Fate) (disk : Disk) :
    Ends (newObserved root) fates (Host.start disk) (fun _ _ after => Sound after)
      fun _ after => Sound after := by
  have sound := sound_start disk
  apply Reads.then (onDisk_reads existing_reads)
  · exact fun _ => sound
  intro metadata _ _
  apply Reads.then requireHost_reads
  · exact fun _ => sound
  intro _ _ _
  apply Reads.then (onDisk_reads isCanonical_reads)
  · exact fun _ => sound
  intro canonical _ _
  apply Reads.then requireHost_reads
  · exact fun _ => sound
  intro _ left _
  apply Ends.bind_note
  have opened : Sound { Host.start disk with
        session :=
          { root := root
            rootMetadata := metadata
            directories := []
            files := []
            cleanupIncomplete := false
            snapshot := newSnapshot root metadata } } :=
    ⟨sound.offered, sound.known, sound.listed, ⟨fun _ member => absurd member not_mem_nil,
        fun _ member => absurd member not_mem_nil⟩, sound.savedClaims,
      fun _ member => absurd member not_mem_nil,
      fun _ member => absurd member not_mem_nil, sound.owned, sound.accounted⟩
  apply Ends.mono (observe_ends opened)
  · rintro _ _ after ⟨rfl, valid⟩
    exact opened.observed valid
  exact fun _ _ soundAfter => soundAfter

theorem perform_sound (env : CallEnv) (call : Call) (fates : List Fate) (sound : Sound host) :
    Sound (perform env call fates host).store := by
  apply Ends.after
  apply Ends.mono (perform_acts env call fates host sound)
  · exact fun _ _ _ acted => acted.1
  exact fun _ _ soundAfter => soundAfter

theorem runCalls_sound (steps : List Step) (sound : Sound host) : Sound (runCalls steps host) := by
  induction steps generalizing host with
  | nil => exact sound
  | cons step rest ih =>
    have after := perform_sound step.env step.call step.fates sound
    cases ended : perform step.env step.call step.fates host with
    | mk outcome left store =>
      rw [ended] at after
      cases outcome with
      | value _ =>
        simp only [runCalls, ended]
        exact ih (after.disk _)
      | failed _ =>
        simp only [runCalls, ended]
        exact ih (after.disk _)
      | cut =>
        simp only [runCalls, ended]
        exact after

theorem run_sound (root : PathBuf) (fates : List Fate) (steps : List Step) (disk : Disk) :
    Sound (run root fates steps disk) := by
  have opened : Sound (newObserved root fates (Host.start disk)).store :=
    Ends.after Sound (newObserved_ends root fates disk)
  unfold run
  split
  · rename_i same
    rw [same] at opened
    exact runCalls_sound steps opened
  rename_i same
  rw [same] at opened
  exact opened

/-! ### The rollback of a session -/

/-- The node is the file that the session created, with its identity and its contents. -/
def CreatedFile.Records (created : CreatedFile) (node : Node) : Prop :=
  ∃ header, node = .file header created.bytes ∧ sameFile node.metadata created.metadata = true ∧
    sameMode node.metadata created.metadata = true

/-- The directory is the one that was opened, with the same mode. -/
def RecordedDirectory.Records (recorded : RecordedDirectory) (node : Node) : Prop :=
  node.metadata.kind = .directory ∧ sameFile node.metadata recorded.metadata = true ∧
    sameMode node.metadata recorded.metadata = true

/-- What the session may remove: the files it created and the directories it owns, as it recorded
them. -/
def GeneratedFiles.May (session : GeneratedFiles) (path : List String) (node : Node) : Prop :=
  (∃ created ∈ session.files, path = created.path.components ∧ created.Records node) ∨
    ∃ recorded ∈ session.directories, recorded.owned = true ∧ path = recorded.path.components ∧
      recorded.Records node

variable {session : GeneratedFiles}

variable {disk : Disk}

theorem exists_lookup_of_stat {metadata : Metadata} (found : disk.stat path = some metadata) :
    ∃ node, lookup path.components disk.tree = some node ∧ node.metadata = metadata := by
  rw [Disk.stat, FileTree.stat, Option.map_eq_some_iff] at found
  exact found

theorem removeCreated_ends {created : CreatedFile} (member : created ∈ session.files) :
    Ends (session.removeCreated created) fates disk
      (fun _ _ after => Removed session.May disk after ∧ after.stat created.path = none)
      fun _ after => Removed session.May disk after := by
  apply Reads.then (sessionCheckedPath_reads session created.path)
  · exact fun _ => .refl
  intro _ _ _
  apply Reads.then (ask_reads fun disk => disk.stat created.path)
  · exact fun _ => .refl
  intro found left isFound
  cases found with
  | none => exact ⟨.refl, isFound.symm⟩
  | some metadata =>
    apply Reads.then require_reads
    · exact fun _ => .refl
    intro _ _ ⟨_, file, mode, length⟩
    apply Reads.then existing_reads
    · exact fun _ => .refl
    intro opened _ _
    apply Reads.then require_reads
    · exact fun _ => .refl
    intro _ _ _
    apply Reads.then readToEnd_reads
    · exact fun _ => .refl
    intro bytes _ ⟨header, present⟩
    apply Reads.then require_reads
    · exact fun _ => .refl
    intro _ _ same
    apply Reads.then (verifyNamedFile_reads _ _)
    · exact fun _ => .refl
    intro _ left _
    obtain ⟨node, isNode, isMetadata⟩ := exists_lookup_of_stat isFound.symm
    obtain rfl : node = .file header bytes := Option.some.inj (isNode.symm.trans present)
    have whole : bytes = created.bytes := by
      have isLength : bytes.length = created.bytes.length := by
        rw [← length, ← isMetadata]
        rfl
      rwa [take_of_length_le (by omega)] at same
    refine removeFile_ends present (.inl ⟨created, member, rfl, header, ?_, ?_, ?_⟩)
    · rw [whole]
    · rwa [isMetadata]
    rwa [isMetadata]

theorem removeRecorded_ends {recorded : RecordedDirectory} (member : recorded ∈ session.directories)
    : Ends (session.removeRecorded recorded) fates disk
      (fun _ _ after => Removed session.May disk after ∧
        (recorded.owned = true → after.stat recorded.path = none))
      fun _ after => Removed session.May disk after := by
  apply Reads.then (sessionCheckedPath_reads session recorded.path)
  · exact fun _ => .refl
  intro _ _ _
  apply Reads.then (ask_reads fun disk => disk.stat recorded.path)
  · exact fun _ => .refl
  intro found left isFound
  cases found with
  | none => exact ⟨.refl, fun _ => isFound.symm⟩
  | some metadata =>
    apply Reads.then require_reads
    · exact fun _ => .refl
    intro _ _ ⟨same, directory⟩
    apply Ends.ite
    · intro owned
      apply Reads.then require_reads
      · exact fun _ => .refl
      intro _ left mode
      obtain ⟨node, isNode, isMetadata⟩ := exists_lookup_of_stat isFound.symm
      have allowed : session.May recorded.path.components node := by
        refine .inr ⟨recorded, member, owned, rfl, ?_⟩
        rw [RecordedDirectory.Records, isMetadata]
        exact ⟨directory, same, mode⟩
      apply Ends.mono (removeDir_ends isNode allowed)
      · exact fun _ _ after ⟨removed, gone⟩ => ⟨removed, fun _ => gone⟩
      exact fun _ _ removed => removed
    intro notOwned
    exact ⟨.refl, fun owned => absurd owned notOwned⟩

theorem session_rollback_removes :
    Removes session.May session.rollback fun complete after => complete = true →
      session.cleanupIncomplete = false ∧ (∀ file ∈ session.files, after.stat file.path = none) ∧
        ∀ directory ∈ session.directories, directory.owned = true →
          after.stat directory.path = none := by
  have files : Removes session.May
      (forAll (fun created => succeeds (session.removeCreated created)) session.files.reverse)
      fun done after => done = true → ∀ file ∈ session.files.reverse,
        after.stat file.path = none := by
    apply forAll_removes
    · intro created member fates disk
      exact succeeds_ends (removeCreated_ends (mem_reverse.1 member))
    exact fun file disk after removed absent => removed.absent absent
  have directories : Removes session.May
      (forAll (fun recorded => succeeds (session.removeRecorded recorded))
        session.directories.reverse)
      fun done after => done = true → ∀ directory ∈ session.directories.reverse,
        directory.owned = true → after.stat directory.path = none := by
    apply forAll_removes
    · intro recorded member fates disk
      exact succeeds_ends (removeRecorded_ends (mem_reverse.1 member))
    exact fun directory disk after removed absent owned => removed.absent (absent owned)
  apply Removes.bind files
  · exact fun _ _ _ removed gone done file member => removed.absent (gone done file member)
  intro filesDone
  apply Removes.bind directories
  · exact fun _ _ _ removed gone done directory member owned =>
      removed.absent (gone done directory member owned)
  intro directoriesDone
  apply Reads.removes
  apply Reads.pure
  intro disk goneDirectories goneFiles complete
  simp only [Bool.and_eq_true, Bool.not_eq_true'] at complete
  obtain ⟨⟨clean, first⟩, second⟩ := complete
  exact ⟨clean, fun file member => goneFiles first file (mem_reverse.2 member),
    fun directory member => goneDirectories second directory (mem_reverse.2 member)⟩

variable {components : List String} {node : Node}

theorem Sound.may_created (sound : Sound host) (may : host.session.May components node) :
    ∃ path ∈ host.created, components = path.components := by
  rcases may with ⟨file, member, rfl, _⟩ | ⟨directory, member, owned, rfl, _⟩
  · exact ⟨file.path, sound.files file member, rfl⟩
  exact ⟨directory.path, sound.directories directory member owned, rfl⟩

theorem Claims.directory_created (claims : Claims snapshot created)
    (may : snapshot.May components node) : (∃ file ∈ snapshot.files, file.temporaryPath ∈ created ∧
      (components = file.path.components ∨ components = file.temporaryPath.components) ∧
        file.Records node) ∨ ∃ path ∈ created, components = path.components := by
  rcases may with ⟨file, member, isName, records⟩ | ⟨directory, member, owned, rfl, _⟩
  · exact .inl ⟨file, member, claims.files file member, isName, records⟩
  exact .inr ⟨directory.path, claims.directories directory member owned, rfl⟩

theorem Sound.rollback_removes (sound : Sound host) :
    Removes host.session.May host.session.rollback fun complete after => complete = true →
      ∀ path ∈ host.owned, path ∉ host.unrecorded → after.stat path = none := by
  apply Removes.mono session_rollback_removes
  intro complete disk held isComplete path owned recorded
  obtain ⟨clean, files, directories⟩ := held isComplete
  rcases sound.accounted path owned with
    waiting | ⟨file, member, rfl⟩ | ⟨directory, member, rfl, isOwned⟩ | incomplete
  · exact absurd waiting recorded
  · exact files file member
  · exact directories directory member isOwned
  rw [clean] at incomplete
  cases incomplete

theorem perform_accepted {call : Call} {left : List Fate}
    (sound : Sound host) (accepted : Accepted host) (ended : perform env call fates host =
      { outcome := .value (), fates := left, store := after }) : Accepted after := by
  have settled := ((ends_iff.1 (perform_acts env call fates host sound)).1 _ _ _ ended).2
  rcases settled with ⟨same, saved⟩ | isAccepted
  · rw [Accepted, saved, same]
    exact accepted
  exact isAccepted

/-- What a session keeps in every state of a run. -/
structure SessionKept (host : Host) : Prop where
  /-- What was created is listed in the snapshot that was accepted last. -/
  listed : ∀ path ∈ host.created, ∃ saved, host.saved = some saved ∧ path ∈ saved.knownPaths
  /-- The observer is given valid snapshots only. -/
  offered : ∀ snapshot ∈ host.offered, snapshot.validate = .ok ()
  /-- A call that succeeds leaves no snapshot that a later save would refuse. -/
  accepted : ∀ env call fates left after, Accepted host → perform env call fates host =
    { outcome := .value (), fates := left, store := after } → Accepted after
  /-- The rollback of the session, on any disk and whatever becomes of its steps. -/
  live : Removes host.session.May host.session.rollback fun complete after => complete = true →
    ∀ path ∈ host.owned, path ∉ host.unrecorded → after.stat path = none
  mine : ∀ components node, host.session.May components node →
    ∃ path ∈ host.created, components = path.components
  /-- The rollback of the snapshot that was accepted last. -/
  saved : ∀ saved, host.saved = some saved →
    Removes saved.May saved.rollback fun complete after =>
      complete = true → ∀ path ∈ host.created, after.stat path = none
  savedMine : ∀ saved, host.saved = some saved → ∀ components node, saved.May components node →
    (∃ file ∈ saved.files, file.temporaryPath ∈ host.created ∧
      (components = file.path.components ∨ components = file.temporaryPath.components) ∧
        file.Records node) ∨
      ∃ path ∈ host.created, components = path.components

end Wts.Setup
