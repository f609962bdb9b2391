/-
Module: Wts.Proofs.GeneratedSnapshot
Purpose: What the checks of a snapshot establish about the disk, and what its rollback removes:
  entries with a recorded identity and recorded contents only.
Trusted boundary: none
Main exports: Verified, rollback_removes
-/
import Wts.App.GeneratedFiles

namespace Wts.Setup

open FileTree Interrupt List
open Interrupt.Proc

variable {α : Type} {path relative : PathBuf}

theorem ask_reads (question : Disk → α) :
    Reads (ask question) fun answer disk => answer = question disk := by
  apply Reads.bind (Reads.tryChange fun _ => rfl)
  intro answered
  apply Reads.bind Reads.read
  intro seen
  apply Reads.ite
  · intro _ fates disk
    refine ⟨rfl, ?_⟩
    intro same _
    rw [same]
  intro _
  exact .fail

theorem require_reads {condition : Prop} [Decidable condition] {message : String} :
    Reads (require condition message : DiskM Unit) fun _ _ => condition := by
  unfold require
  apply Reads.ite
  · exact fun met => Reads.pure fun _ => met
  exact fun _ => Reads.fail

theorem existing_reads :
    Reads (existing path) fun metadata disk => disk.stat path = some metadata := by
  apply Reads.bind (ask_reads fun disk => disk.stat path)
  intro found
  cases found with
  | none => exact .fail
  | some metadata =>
    apply Reads.pure
    intro disk same
    exact same.symm

theorem isCanonical_reads : Reads (isCanonical path) fun canonical disk =>
      canonical = true → disk.rootCanonical = true ∧ ∃ metadata, disk.stat path = some metadata := by
  apply Reads.bind (ask_reads fun disk => (disk.rootCanonical, disk.stat path))
  rintro ⟨rootCanonical, found⟩
  cases found with
  | none => exact .fail
  | some metadata =>
    apply Reads.pure
    intro disk same canonical
    obtain ⟨root, stat⟩ := Prod.mk.inj same
    rw [Bool.and_eq_true] at canonical
    exact ⟨root ▸ canonical.1, metadata, stat.symm⟩

theorem readToEnd_reads : Reads (readToEnd path) fun bytes disk =>
      ∃ header, lookup path.components disk.tree = some (.file header bytes) := by
  apply Reads.bind (ask_reads fun disk => (lookup path.components disk.tree).bind Node.contents)
  intro found
  cases found with
  | none => exact .fail
  | some bytes =>
    apply Reads.pure
    intro disk same
    match present : lookup path.components disk.tree with
    | none => simp [present] at same
    | some (.file header other) =>
      rw [present] at same
      cases same
      exact ⟨header, rfl⟩
    | some (.symlink _) => simp [present, Node.contents] at same
    | some (.directory _ _) => simp [present, Node.contents] at same

/-! ### Recorded entries -/

/-- The node is the recorded file, with its identity and its contents. -/
def SavedFile.Records (recorded : SavedFile) (node : Node) : Prop :=
  ∃ header bytes, node = .file header bytes ∧
    SavedIdentity.fromMetadata node.metadata = recorded.identity ∧ bytes.length = recorded.size ∧
      Sha256.hexEncode (Sha256.sha256 bytes) = recorded.sha256

/-- The directory has the identity that was saved. -/
def SavedDirectory.Records (recorded : SavedDirectory) (node : Node) : Prop :=
  ∃ header children, node = .directory header children ∧
    SavedIdentity.fromMetadata node.metadata = recorded.identity

namespace GeneratedFilesSnapshot

variable {snapshot : GeneratedFilesSnapshot}

theorem rootExists_reads : Reads snapshot.rootExists fun present disk =>
      if present then ∃ metadata, disk.stat empty = some metadata ∧ metadata.kind = .directory ∧
        SavedIdentity.fromMetadata metadata = snapshot.rootIdentity
      else disk.stat empty = none := by
  apply Reads.bind (ask_reads fun disk => disk.stat empty)
  intro found
  cases found with
  | none =>
    apply Reads.pure
    intro disk same
    simpa using same.symm
  | some metadata =>
    apply Reads.bind require_reads
    intro _
    apply Reads.bind isCanonical_reads
    intro canonical
    apply Reads.bind require_reads
    intro _
    apply Reads.pure
    intro disk _ _ ⟨directory, identity⟩ same
    exact ⟨metadata, same.symm, directory, identity⟩

theorem checkParents_reads (above rest : List String) (name : String) :
    Reads (snapshot.checkParents above rest) fun reached disk =>
      reached = false → FileTree.stat (above ++ rest ++ [name]) disk.tree = none := by
  induction rest generalizing above with
  | nil =>
    apply Reads.pure
    intro disk reached
    cases reached
  | cons next rest ih =>
    unfold checkParents
    dsimp only
    split
    · exact .fail
    apply Reads.bind (ask_reads fun disk => disk.stat _)
    intro found
    cases found with
    | none =>
      apply Reads.pure
      intro disk missing _
      have absent : FileTree.stat (above ++ [next] ++ (rest ++ [name])) disk.tree = none :=
        stat_append_of_none missing.symm
      simpa using absent
    | some metadata =>
      apply Reads.bind require_reads
      intro _
      apply Reads.bind isCanonical_reads
      intro canonical
      apply Reads.bind require_reads
      intro _
      apply Reads.mono (ih (above ++ [next]))
      intro reached disk absent _ _ _ _ notReached
      have missing := absent notReached
      simpa using missing

theorem checkedPath_reads : Reads (snapshot.checkedPath relative) fun reached disk =>
      reached = false → disk.stat relative = none := by
  apply Reads.bind rootExists_reads
  intro present
  apply Reads.ite
  · intro _
    rcases eq_or_ne relative.components [] with top | below
    · rw [top]
      apply Reads.pure
      intro disk _ reached
      cases reached
    apply Reads.mono
      (checkParents_reads [] relative.components.dropLast (relative.components.getLast below))
    intro reached disk absent _ notReached
    have missing := absent notReached
    rwa [nil_append, dropLast_append_getLast] at missing
  intro notPresent
  apply Reads.pure
  intro disk missing _
  rw [if_neg notPresent] at missing
  exact stat_append_of_none missing

/-- What a state says about the disk. -/
def StateHolds (relative : PathBuf) (records : Node → Prop) (state : SavedPathState)
    (disk : Disk) : Prop :=
  match state with
  | .missing => disk.stat relative = none
  | .remove => ∃ node, lookup relative.components disk.tree = some node ∧ records node
  | .reuse => ∃ node, lookup relative.components disk.tree = some node ∧ records node
  | .preserve => True

variable {recorded : SavedFile}

theorem openedState_reads :
    Reads (snapshot.openedState relative recorded) (StateHolds relative recorded.Records) := by
  apply Reads.bind existing_reads
  intro opened
  apply Reads.ite
  · intro isRecorded
    apply Reads.bind readToEnd_reads
    intro bytes
    apply Reads.bind existing_reads
    intro after
    apply Reads.ite
    · intro ⟨size, digest, _, identity⟩
      apply Reads.bind checkedPath_reads
      intro reached
      apply Reads.pure
      intro disk _ stat ⟨header, found⟩ _
      split
      · refine ⟨_, found, header, bytes, rfl, ?_, ?_, ?_⟩
        · rw [Disk.stat, FileTree.stat, found] at stat
          rw [← identity, ← Option.some.inj stat]
        · rw [length_take] at size
          omega
        · rw [length_take] at size
          rwa [take_of_length_le (by omega)] at digest
      trivial
    intro _
    exact .pure fun _ _ _ _ => trivial
  intro _
  exact .pure fun _ _ => trivial

theorem fileState_reads :
    Reads (snapshot.fileState relative recorded) (StateHolds relative recorded.Records) := by
  apply Reads.bind checkedPath_reads
  intro reached
  apply Reads.ite
  · intro _
    apply Reads.bind (ask_reads fun disk => disk.stat relative)
    intro found
    cases found with
    | none => exact .pure fun disk missing _ => missing.symm
    | some metadata =>
      apply Reads.ite
      · intro _
        apply Reads.mono openedState_reads
        intro state disk holds _ _
        exact holds
      intro _
      exact .pure fun _ _ _ => trivial
  intro notReached
  exact .pure fun disk missing => missing (by simpa using notReached)

theorem directoryState_reads {recorded : SavedDirectory} :
    Reads (snapshot.directoryState recorded) fun state disk =>
      StateHolds recorded.path recorded.Records state disk ∧
        (state = .remove → recorded.owned = true) ∧ (state = .reuse → recorded.owned = false) := by
  apply Reads.bind checkedPath_reads
  intro reached
  apply Reads.ite
  · intro _
    apply Reads.bind (ask_reads fun disk => disk.stat recorded.path)
    intro found
    cases found with
    | none =>
      apply Reads.pure
      intro disk missing _
      exact ⟨missing.symm, (fun other => by cases other), (fun other => by cases other)⟩
    | some metadata =>
      apply Reads.ite
      · rintro ⟨directory, identity⟩
        apply Reads.pure
        intro disk same _
        have present : ∃ node, lookup recorded.path.components disk.tree = some node ∧
            recorded.Records node := by
          cases found : lookup recorded.path.components disk.tree with
          | none => simp [Disk.stat, FileTree.stat, found] at same
          | some node =>
            simp only [Disk.stat, FileTree.stat, found, Option.map_some] at same
            cases node with
            | file header bytes =>
              rw [Option.some.inj same] at directory
              cases directory
            | symlink header =>
              rw [Option.some.inj same] at directory
              cases directory
            | directory header children =>
              rw [Option.some.inj same] at identity
              exact ⟨_, rfl, header, children, rfl, identity⟩
        cases owned : recorded.owned with
        | true => exact ⟨present, fun _ => rfl, (fun other => by cases other)⟩
        | false => exact ⟨present, (fun other => by cases other), fun _ => rfl⟩
      intro _
      exact .pure fun _ _ _ => ⟨trivial, (fun other => by cases other), (fun other => by cases other)⟩
  intro notReached
  apply Reads.pure
  intro disk missing
  exact ⟨missing (by simpa using notReached), (fun other => by cases other), (fun other => by cases other)⟩

theorem intentMissing_reads : Reads (snapshot.intentMissing relative) fun missing disk =>
      missing = true → disk.stat relative = none := by
  have checked : Reads (attempt (snapshot.checkedPath relative) : DiskM _)
      fun result disk => result = .ok false → disk.stat relative = none := by
    apply Reads.attempt
    · apply Reads.mono checkedPath_reads
      intro reached disk absent same
      exact absent (Except.ok.inj same)
    intro error disk same
    cases same
  apply Reads.bind checked
  intro result
  match result with
  | .error _ => exact .pure fun _ _ => nofun
  | .ok false => exact .pure fun _ absent _ => absent rfl
  | .ok true =>
    have seen : Reads (attempt (symlinkMetadata relative) : DiskM _)
        fun result disk => result = .ok none → disk.stat relative = none := by
      apply Reads.attempt
      · apply Reads.mono (ask_reads fun disk => disk.stat relative)
        intro found disk same isNone
        rw [← same, Except.ok.inj isNone]
      intro error disk same
      cases same
    apply Reads.bind seen
    intro found
    match found with
    | .error _ => exact .pure fun _ _ _ => nofun
    | .ok none => exact .pure fun _ absent _ _ => absent rfl
    | .ok (some _) => exact .pure fun _ _ _ => nofun

/-- Every entry of the snapshot is gone or as it was recorded, and nothing is at an intent. -/
structure Verified (snapshot : GeneratedFilesSnapshot) (disk : Disk) : Prop where
  files : ∀ file ∈ snapshot.files, ∀ path ∈ [file.path, file.temporaryPath],
    disk.stat path = none ∨
      ∃ node, lookup path.components disk.tree = some node ∧ file.Records node
  directories : ∀ directory ∈ snapshot.directories, disk.stat directory.path = none ∨
    ∃ node, lookup directory.path.components disk.tree = some node ∧ directory.Records node
  intents : ∀ intent ∈ snapshot.intents, disk.stat intent = none

/-- A step of an inspection that preserves nothing has found its item as it should be. -/
def Finds {ι : Type} (step : GeneratedFilesInspection → ι → DiskM GeneratedFilesInspection)
    (fact : ι → Disk → Prop) : Prop :=
  ∀ result item, Reads (step result item) fun after disk =>
    after.preservedPaths = [] → result.preservedPaths = [] ∧ fact item disk

theorem Finds.foldlM {ι : Type}
    {step : GeneratedFilesInspection → ι → DiskM GeneratedFilesInspection}
    {fact : ι → Disk → Prop} (finds : Finds step fact) (items : List ι)
    (result : GeneratedFilesInspection) : Reads (items.foldlM step result) fun after disk =>
      after.preservedPaths = [] → result.preservedPaths = [] ∧ ∀ item ∈ items, fact item disk := by
  induction items generalizing result with
  | nil =>
    apply Reads.pure
    intro disk none
    exact ⟨none, fun _ member => absurd member not_mem_nil⟩
  | cons item rest ih =>
    rw [foldlM_cons]
    apply Reads.bind (finds result item)
    intro middle
    apply Reads.mono (ih middle)
    intro after disk others first none
    obtain ⟨noneHere, facts⟩ := others none
    obtain ⟨noneBefore, fact⟩ := first noneHere
    refine ⟨noneBefore, ?_⟩
    intro other member
    rcases mem_cons.1 member with rfl | later
    · exact fact
    exact facts other later

theorem orPreserve_reads {program : DiskM SavedPathState} {holds : SavedPathState → Disk → Prop}
    (reads : Reads program holds) (preserve : ∀ disk, holds .preserve disk) :
    Reads (attempt program : DiskM _) fun result disk => holds (orPreserve result) disk :=
  Reads.attempt reads fun _ disk => preserve disk

theorem inspectFile_finds (file : SavedFile) : Finds (snapshot.inspectFile file) fun path disk =>
      disk.stat path = none ∨
        ∃ node, lookup path.components disk.tree = some node ∧ file.Records node := by
  intro result path
  apply Reads.bind (orPreserve_reads fileState_reads fun _ => trivial)
  intro state
  cases orPreserve state with
  | remove => exact .pure fun _ present none => ⟨none, .inr present⟩
  | missing => exact .pure fun _ missing none => ⟨none, .inl missing⟩
  | preserve => exact .pure fun _ _ none => by simp at none
  | reuse => exact .pure fun _ _ none => by simp at none

theorem inspectFiles_finds : Finds (fun result (file : SavedFile) =>
      [file.path, file.temporaryPath].foldlM (snapshot.inspectFile file) result)
      fun file disk => ∀ path ∈ [file.path, file.temporaryPath], disk.stat path = none ∨
        ∃ node, lookup path.components disk.tree = some node ∧ file.Records node :=
  fun result file => (inspectFile_finds file).foldlM _ result

theorem inspectDirectory_finds : Finds snapshot.inspectDirectory fun directory disk =>
      disk.stat directory.path = none ∨
        ∃ node, lookup directory.path.components disk.tree = some node ∧
          directory.Records node := by
  intro result directory
  apply Reads.bind (orPreserve_reads directoryState_reads fun _ => ⟨trivial, nofun, nofun⟩)
  intro state
  cases orPreserve state with
  | remove => exact .pure fun _ present none => ⟨none, .inr present.1⟩
  | missing => exact .pure fun _ missing none => ⟨none, .inl missing.1⟩
  | preserve => exact .pure fun _ _ none => by simp at none
  | reuse => exact .pure fun _ present none => ⟨none, .inr present.1⟩

theorem inspectIntent_finds :
    Finds snapshot.inspectIntent fun intent disk => disk.stat intent = none := by
  intro result intent
  apply Reads.bind intentMissing_reads
  intro missing
  apply Reads.ite
  · exact fun isMissing => Reads.pure fun _ absent none => ⟨none, absent isMissing⟩
  exact fun _ => Reads.pure fun _ _ none => by simp at none

theorem verified_of_missing {disk : Disk} (missing : disk.stat empty = none) :
    snapshot.Verified disk where
  files := fun _ _ _ _ => .inl (stat_append_of_none missing)
  directories := fun _ _ => .inl (stat_append_of_none missing)
  intents := fun _ _ => stat_append_of_none missing

theorem validate_reads :
    Reads (ofExcept snapshot.validate : DiskM Unit) fun _ _ => snapshot.isValid = true := by
  apply Reads.ofExcept
  intro _ valid _
  simp only [validate] at valid
  split at valid
  · assumption
  cases valid

theorem inspect_reads : Reads snapshot.inspect fun inspection disk =>
      inspection.preservedPaths = [] → snapshot.Verified disk := by
  apply Reads.bind validate_reads
  intro _
  apply Reads.bind rootExists_reads
  intro present
  apply Reads.ite
  · intro _
    apply Reads.bind (inspectFiles_finds.foldlM snapshot.files _)
    intro files
    apply Reads.bind (inspectDirectory_finds.foldlM snapshot.directories files)
    intro directories
    apply Reads.mono (inspectIntent_finds.foldlM snapshot.intents directories)
    intro inspection disk intents directories files _ _ none
    obtain ⟨noDirectory, intents⟩ := intents none
    obtain ⟨noFile, directories⟩ := directories noDirectory
    exact ⟨(files noFile).2, directories, intents⟩
  intro notPresent
  apply Reads.pure
  intro disk missing _ _
  rw [if_neg notPresent] at missing
  exact verified_of_missing missing

end GeneratedFilesSnapshot

/-- The disk after entries that may be removed were removed. -/
structure Removed (may : List String → Node → Prop) (disk after : Disk) : Prop where
  root : after.rootCanonical = disk.rootCanonical
  removals : Removals may disk.tree after.tree

/-- Whatever becomes of its steps, the program removes only entries that may be removed. -/
def Removes (may : List String → Node → Prop) (program : DiskM α) (holds : α → Disk → Prop) : Prop :=
  ∀ fates disk, Ends program fates disk (fun result _ after => Removed may disk after ∧
    holds result after) fun _ after => Removed may disk after

section Removes

variable {β : Type} {may : List String → Node → Prop} {disk after last : Disk}

theorem Removed.refl : Removed may disk disk :=
  ⟨rfl, .refl⟩

theorem Removed.trans (first : Removed may disk after) (second : Removed may after last) :
    Removed may disk last :=
  ⟨second.root.trans first.root, first.removals.trans second.removals⟩

theorem Removed.absent (removed : Removed may disk after) (absent : disk.stat path = none) :
    after.stat path = none :=
  removed.removals.absent absent

theorem Reads.removes {program : DiskM α} {holds : α → Disk → Prop} (reads : Reads program holds) :
    Removes may program holds := by
  intro fates disk
  apply Ends.mono (reads fates disk)
  · rintro result left after ⟨rfl, held⟩
    exact ⟨.refl, held⟩
  rintro error after rfl
  exact .refl

theorem Removes.mono {program : DiskM α} {holds weaker : α → Disk → Prop}
    (removes : Removes may program holds) (fact : ∀ result disk, holds result disk →
      weaker result disk) : Removes may program weaker := by
  intro fates disk
  apply Ends.mono (removes fates disk)
  · exact fun result _ after ⟨removed, held⟩ => ⟨removed, fact result after held⟩
  exact fun _ _ removed => removed

theorem Removes.bind {first : DiskM α} {next : α → DiskM β} {holds : α → Disk → Prop}
    {result : β → Disk → Prop} (removes : Removes may first holds)
    (lasts : ∀ a disk after, Removed may disk after → holds a disk → holds a after)
    (continues : ∀ a, Removes may (next a) fun b after => holds a after → result b after) :
    Removes may (first >>= next) result := by
  intro fates disk
  apply Ends.bind_mono (removes fates disk)
  · exact fun _ _ removed => removed
  intro a left middle ⟨toMiddle, held⟩
  apply Ends.mono (continues a left middle)
  · intro b _ after ⟨toAfter, fact⟩
    exact ⟨toMiddle.trans toAfter, fact (lasts a middle after toAfter held)⟩
  intro error after toAfter
  exact toMiddle.trans toAfter

variable {fates : List Fate} {node : Node}

section

variable (found : lookup path.components disk.tree = some node)
include found

theorem removal_removes (leaf : node.IsLeaf)
    (allowed : may path.components node) : Ends (change .os (removal path) : DiskM Unit) fates disk
      (fun _ _ after => Removed may disk after ∧ after.stat path = none)
      fun _ after => Removed may disk after := by
  have removed : Removed may disk (removal path disk) :=
    ⟨rfl, .step .refl found leaf allowed⟩
  apply Ends.change
  · intro left
    refine ⟨removed, ?_⟩
    rw [Disk.stat, removal, FileTree.stat, lookup_erase_self]
    rfl
  · exact fun _ => .refl
  exact fun _ => removed

theorem removeFile_ends (allowed : may path.components node) : Ends (removeFile path) fates disk
      (fun _ _ after => Removed may disk after ∧ after.stat path = none)
      fun _ after => Removed may disk after := by
  apply Ends.bind_read
  simp only [found]
  match node with
  | .file header bytes => exact removal_removes found Node.isLeaf_file allowed
  | .symlink header => exact removal_removes found Node.isLeaf_symlink allowed
  | .directory _ _ => exact .fail .refl

theorem removeDir_ends (allowed : may path.components node) : Ends (removeDir path) fates disk
      (fun _ _ after => Removed may disk after ∧ after.stat path = none)
      fun _ after => Removed may disk after := by
  apply Ends.bind_read
  simp only [found]
  apply Ends.ite
  · intro isEmpty
    exact removal_removes found (Node.isLeaf_of_isEmptyDirectory isEmpty) allowed
  intro _
  exact .fail .refl

end

theorem succeeds_ends {program : DiskM Unit} {gone : Disk → Prop}
    (ends : Ends program fates disk (fun _ _ after => Removed may disk after ∧ gone after)
      fun _ after => Removed may disk after) : Ends (succeeds program) fates disk
      (fun done _ after => Removed may disk after ∧ (done = true → gone after))
      fun _ after => Removed may disk after := by
  apply Ends.bind
  apply Ends.attempt
  apply Ends.mono ends
  · intro _ left after ⟨removed, isGone⟩
    exact ⟨removed, fun _ => isGone⟩
  intro stopped after removed
  cases stopped with
  | some error => exact fun _ => ⟨removed, nofun⟩
  | none => exact removed

theorem forAll_removes {ι : Type} {step : ι → DiskM Bool} {gone : ι → Disk → Prop} (items : List ι)
    (steps : ∀ item ∈ items, Removes may (step item) fun done after => done = true → gone item after)
    (lasts : ∀ item disk after, Removed may disk after → gone item disk → gone item after) :
    Removes may (forAll step items) fun done after =>
      done = true → ∀ item ∈ items, gone item after := by
  induction items with
  | nil =>
    exact Reads.removes (Reads.pure fun _ _ _ member => absurd member not_mem_nil)
  | cons item rest ih =>
    have first := steps item mem_cons_self
    apply Removes.bind first
    · exact fun _ disk after removed held done => lasts item disk after removed (held done)
    intro here
    apply Removes.bind (ih fun other member => steps other (mem_cons_of_mem _ member))
    · exact fun _ disk after removed held done other member =>
        lasts other disk after removed (held done other member)
    intro others
    apply Reads.removes
    apply Reads.pure
    intro disk later first done
    rw [Bool.and_eq_true] at done
    intro other member
    rcases mem_cons.1 member with rfl | isLater
    · exact first done.1
    exact later done.2 other isLater

end Removes

namespace GeneratedFilesSnapshot

variable {snapshot : GeneratedFilesSnapshot}

/-- The entries that a snapshot authorizes to remove: its files under either name and the directories
it owns, with the recorded identity and contents. -/
def May (snapshot : GeneratedFilesSnapshot) (path : List String) (node : Node) : Prop :=
  (∃ file ∈ snapshot.files, (path = file.path.components ∨ path = file.temporaryPath.components) ∧
    file.Records node) ∨
  ∃ directory ∈ snapshot.directories, directory.owned = true ∧ path = directory.path.components ∧
    directory.Records node

def ownedPaths (snapshot : GeneratedFilesSnapshot) : List PathBuf :=
  (snapshot.directories.filter SavedDirectory.owned).map SavedDirectory.path ++
    snapshot.files.flatMap (fun file => [file.path, file.temporaryPath]) ++ snapshot.intents

theorem removeAt_ends {remove : PathBuf → DiskM Unit} {may : List String → Node → Prop}
    {fates : List Fate} {disk : Disk} (removes : ∀ left, Ends (remove relative) left disk
      (fun _ _ after => Removed may disk after ∧ after.stat relative = none)
      fun _ after => Removed may disk after) : Ends (snapshot.removeAt remove relative) fates disk
      (fun _ _ after => Removed may disk after ∧ after.stat relative = none)
      fun _ after => Removed may disk after := by
  apply Reads.then checkedPath_reads
  · exact fun _ => .refl
  intro reached left missing
  apply Ends.ite
  · exact fun _ => removes left
  exact fun notReached => ⟨.refl, missing (by simpa using notReached)⟩

theorem rollbackFile_removes {file : SavedFile} (member : file ∈ snapshot.files)
    (isName : relative = file.path ∨ relative = file.temporaryPath) :
    Removes snapshot.May (snapshot.rollbackFile file relative) fun done after =>
      done = true → after.stat relative = none := by
  intro fates disk
  have states : Reads (attempt (snapshot.fileState relative file) : DiskM _) fun result disk =>
      ∀ state, result = .ok state → StateHolds relative file.Records state disk := by
    apply Reads.attempt
    · apply Reads.mono fileState_reads
      intro state disk holds other same
      rwa [← Except.ok.inj same]
    intro error disk state same
    cases same
  apply Reads.then states
  · exact fun _ => .refl
  intro result left holds
  match result with
  | .ok .missing => exact ⟨.refl, fun _ => holds _ rfl⟩
  | .ok .remove =>
    obtain ⟨node, found, records⟩ := holds _ rfl
    have allowed : snapshot.May relative.components node := by
      refine .inl ⟨file, member, ?_, records⟩
      rcases isName with rfl | rfl
      · exact .inl rfl
      exact .inr rfl
    exact succeeds_ends (removeAt_ends fun _ => removeFile_ends found allowed)
  | .ok .preserve => exact ⟨.refl, nofun⟩
  | .ok .reuse => exact ⟨.refl, nofun⟩
  | .error _ => exact ⟨.refl, nofun⟩

theorem rollbackDirectory_removes {directory : SavedDirectory}
    (member : directory ∈ snapshot.directories) :
    Removes snapshot.May (snapshot.rollbackDirectory directory) fun done after =>
      done = true → directory.owned = true → after.stat directory.path = none := by
  intro fates disk
  have states : Reads (attempt (snapshot.directoryState directory) : DiskM _) fun result disk =>
      ∀ state, result = .ok state → StateHolds directory.path directory.Records state disk ∧
        (state = .remove → directory.owned = true) ∧
          (state = .reuse → directory.owned = false) := by
    apply Reads.attempt
    · apply Reads.mono directoryState_reads
      intro state disk holds other same
      rwa [← Except.ok.inj same]
    intro error disk state same
    cases same
  apply Reads.then states
  · exact fun _ => .refl
  intro result left holds
  match result with
  | .ok .missing => exact ⟨.refl, fun _ _ => (holds _ rfl).1⟩
  | .ok .reuse =>
    refine ⟨.refl, ?_⟩
    intro _ owned
    rw [(holds _ rfl).2.2 rfl] at owned
    cases owned
  | .ok .remove =>
    obtain ⟨⟨node, found, records⟩, owned, _⟩ := holds _ rfl
    have allowed : snapshot.May directory.path.components node :=
      .inr ⟨directory, member, owned rfl, rfl, records⟩
    apply Ends.mono (succeeds_ends (removeAt_ends fun _ => removeDir_ends found allowed))
    · exact fun done _ after ⟨removed, gone⟩ => ⟨removed, fun isDone _ => gone isDone⟩
    exact fun _ _ removed => removed
  | .ok .preserve => exact ⟨.refl, nofun⟩
  | .error _ => exact ⟨.refl, nofun⟩

theorem rollbackFiles_removes : Removes snapshot.May
      (forAll (fun file => forAll (snapshot.rollbackFile file) [file.path, file.temporaryPath])
        snapshot.files.reverse) fun done after => done = true → ∀ file ∈ snapshot.files.reverse,
        ∀ path ∈ [file.path, file.temporaryPath], after.stat path = none := by
  apply forAll_removes
  · intro file member
    apply forAll_removes
    · intro path isName
      apply rollbackFile_removes (mem_reverse.1 member)
      simpa using isName
    exact fun path disk after removed absent => removed.absent absent
  exact fun file disk after removed absent path isName => removed.absent (absent path isName)

theorem rollbackDirectories_removes :
    Removes snapshot.May (forAll snapshot.rollbackDirectory snapshot.deepestFirst) fun done after =>
      done = true → ∀ directory ∈ snapshot.deepestFirst, directory.owned = true →
        after.stat directory.path = none := by
  apply forAll_removes
  · intro directory member
    exact rollbackDirectory_removes ((mem_insertionSort _).1 member)
  exact fun directory disk after removed absent owned => removed.absent (absent owned)

theorem rollback_removes : Removes snapshot.May snapshot.rollback fun complete after =>
      complete = true → ∀ path ∈ snapshot.ownedPaths, after.stat path = none := by
  apply Removes.bind (Reads.removes validate_reads) fun _ _ _ _ valid => valid
  intro _
  have root : Removes snapshot.May snapshot.rootExists fun present disk =>
      present = false → disk.stat empty = none := by
    apply Removes.mono (Reads.removes rootExists_reads)
    intro present disk held isMissing
    rwa [isMissing] at held
  apply Removes.bind root fun _ _ _ removed absent isMissing => removed.absent (absent isMissing)
  intro present
  split
  · apply Removes.bind rollbackFiles_removes
    · exact fun _ _ _ removed gone done file member path isName =>
        removed.absent (gone done file member path isName)
    intro files
    apply Removes.bind rollbackDirectories_removes
    · exact fun _ _ _ removed gone done directory member owned =>
        removed.absent (gone done directory member owned)
    intro directories
    have inspected : Removes snapshot.May snapshot.inspect fun inspection disk =>
        inspection.preservedPaths = [] → ∀ intent ∈ snapshot.intents, disk.stat intent = none :=
      Removes.mono (Reads.removes inspect_reads) fun _ _ verified none => (verified none).intents
    apply Removes.bind inspected fun _ _ _ removed gone none intent member =>
      removed.absent (gone none intent member)
    intro inspection
    apply Reads.removes
    apply Reads.pure
    intro disk intents directories files _ _ complete path owned
    simp only [Bool.and_eq_true, List.isEmpty_iff] at complete
    obtain ⟨⟨filesDone, directoriesDone⟩, nothing⟩ := complete
    simp only [ownedPaths, mem_append, mem_map, mem_flatMap, mem_filter]
      at owned
    rcases owned with (⟨directory, ⟨member, isOwned⟩, rfl⟩ | ⟨file, member, isName⟩) | intent
    · exact directories directoriesDone directory ((mem_insertionSort _).2 member) isOwned
    · exact files filesDone file (mem_reverse.2 member) path isName
    exact intents nothing path intent
  rename_i notPresent
  apply Reads.removes
  apply Reads.pure
  intro disk missing _ _ path _
  exact stat_append_of_none (missing (by simpa using notPresent))

end GeneratedFilesSnapshot

end Wts.Setup
