/-
Module: Wts.Git.WorktreeCapture
Purpose: Captures of the working files of a worktree: the paths that Git lists, cut at 2048, with
  the contents and the mode of every regular file that fits.
Trusted boundary: the answers of Git and of the file system
-/
import Wts.Library.Sha256
import Wts.Library.Utf8

namespace Wts.WorktreeCapture

open Text
open Std (ExtTreeMap ExtTreeSet)

def MAX_CHECKPOINT_FILES : ℕ := 2048
def MAX_CHECKPOINT_TOTAL_BYTES : ℕ := 32 * 1024 * 1024
def MAX_CHECKPOINT_PATCH_BYTES : ℕ := 1024 * 1024
def MAX_WORKTREE_SOURCE_BYTES : ℕ := 2 * 1024 * 1024

structure CapturedWorktreeFile where
  filePath : String
  content : Option String
  rawContent : Option (List UInt8)
  isBinary : Bool
  sha256 : Option String
  mode : Option UInt32
  unsupported : Bool
  preExistingChange : Bool

structure WorktreeCheckpointCapture where
  headCommitOid : String
  branchName : String
  indexSha256 : String
  files : ExtTreeMap String CapturedWorktreeFile
  omittedFileCount : ℕ
  stable : Bool

/-- The errors of a capture; `other` stands for the rest. -/
inductive GitError where
  | commandFailed
  | outputTooLarge
  | invalidWorktreeFilePath
  | invalidRepositoryMetadata
  | worktreeFileNotUtf8
  | worktreeFileTooLarge
  | other

/-- What a Git process gave. -/
structure Output where
  success : Bool
  stdoutTruncated : Bool
  stdout : List UInt8

/-- A worktree at one time: what Git prints for its arguments, and what opening a path without
following links gives, the contents with all bits of the mode, or nothing under that name. -/
structure Repository where
  git : List String → Except GitError Output
  openFile : String → Except GitError (Option (List UInt8 × UInt32))

def digest (bytes : List UInt8) : String :=
  "sha256:" ++ Sha256.hexEncode (Sha256.sha256 bytes)

def command (repository : Repository) (args : List String) : Except GitError (List UInt8) :=
  match repository.git (["--no-optional-locks", "-c", "diff.autoRefreshIndex=false"] ++ args) with
  | .error error => .error error
  | .ok output =>
    if !output.success then .error .commandFailed
    else if output.stdoutTruncated then .error .outputTooLarge
    else .ok output.stdout

/-- One value of `paths`. -/
def pathText (value : List UInt8) : Except GitError String :=
  match Utf8.fromUtf8 value with
  | some path => .ok path
  | none => .error .invalidWorktreeFilePath

def paths (bytes : List UInt8) : Except GitError (ExtTreeSet String) :=
  match ((bytes.splitOn 0).filter (· ≠ [])).mapM pathText with
  | .ok values => .ok (ExtTreeSet.ofList values)
  | .error error => .error error

/-- Text of Git without the line end. -/
def metadataText (bytes : List UInt8) : Except GitError String :=
  match Utf8.fromUtf8 bytes with
  | some text => .ok (trim text)
  | none => .error .invalidRepositoryMetadata

structure Metadata where
  head : String
  branch : String
  index : String
  files : ExtTreeSet String
deriving DecidableEq

def metadata (repository : Repository) : Except GitError Metadata := do
  let head ← metadataText (← command repository ["rev-parse", "--verify", "HEAD"])
  let branch ← metadataText (← command repository ["symbolic-ref", "--short", "HEAD"])
  let index := digest (← command repository ["ls-files", "--stage", "-z"])
  let files ← paths (← command repository
    ["ls-files", "--cached", "--others", "--exclude-standard", "-z"])
  return { head := head, branch := branch, index := index, files := files }

/-- The paths that differ from the commit and those that are not tracked. -/
def dirtyPaths (repository : Repository) : Except GitError (ExtTreeSet String) := do
  let dirty ← paths (← command repository
    ["diff", "--no-ext-diff", "--no-renames", "--name-only", "-z", "HEAD", "--"])
  let untracked ← paths (← command repository
    ["ls-files", "--others", "--exclude-standard", "-z"])
  return dirty ∪ untracked

def components (path : String) : Except GitError (List String) :=
  if path = "" || 4096 < path.utf8ByteSize || path.toList.contains '\\' ||
      path.toList.any isControl then
    .error .invalidWorktreeFilePath
  else
    let parts := split '/' path
    if 64 < parts.length || parts.any fun part =>
        part = "" || part = "." || part = ".." ||
          toAsciiUppercase part = toAsciiUppercase ".git" then
      .error .invalidWorktreeFilePath
    else
      .ok parts

/-- `checkpoint_source_bytes`: a valid path is opened below the root, and of the mode the permission
bits are kept. -/
def checkpointSourceBytes (repository : Repository) (path : String) :
    Except GitError (Option (List UInt8 × UInt32)) :=
  match components path with
  | .error error => .error error
  | .ok _ =>
    match repository.openFile path with
    | .ok (some (bytes, mode)) =>
      if MAX_WORKTREE_SOURCE_BYTES < bytes.length then .error .worktreeFileTooLarge
      else .ok (some (bytes, mode &&& 0o777))
    | .ok none => .ok none
    | .error error => .error error

/-- `checkpoint_source_digest`: it hashes in chunks what `checkpoint_source_bytes` reads. -/
def checkpointSourceDigest (repository : Repository) (path : String) :
    Except GitError (Option (String × UInt32)) :=
  match checkpointSourceBytes repository path with
  | .ok source => .ok (source.map fun (bytes, mode) => (digest bytes, mode))
  | .error error => .error error

/-- The variables of the loop of `capture_worktree_checkpoint`. -/
structure Progress where
  files : ExtTreeMap String CapturedWorktreeFile
  omitted : ℕ
  total : ℕ

/-- An entry without contents. -/
def emptyFile (dirty : ExtTreeSet String) (path : String) : CapturedWorktreeFile where
  filePath := path
  content := none
  rawContent := none
  isBinary := false
  sha256 := none
  mode := none
  unsupported := false
  preExistingChange := dirty.contains path

def isBinary (bytes : List UInt8) : Bool :=
  bytes.contains 0 || (Utf8.fromUtf8 bytes).isNone

/-- The entry with the bytes that were read. -/
def filledFile (file : CapturedWorktreeFile) (bytes : List UInt8) (mode : UInt32) :
    Except GitError CapturedWorktreeFile :=
  let file := { file with
    sha256 := some (digest bytes)
    mode := some mode
    isBinary := isBinary bytes }
  if isBinary bytes then
    .ok { file with rawContent := some bytes }
  else
    match Utf8.fromUtf8 bytes with
    | some text => .ok { file with content := some text }
    | none => .error .worktreeFileNotUtf8

/-- One path of the loop. -/
def captureFile (repository : Repository) (dirty : ExtTreeSet String) (progress : Progress)
    (path : String) : Except GitError Progress :=
  if 4096 < path.utf8ByteSize || path.toList.any isControl then
    .ok { progress with omitted := progress.omitted + 1 }
  else
    let file := emptyFile dirty path
    match checkpointSourceBytes repository path with
    | .ok (some (bytes, mode)) =>
      if progress.total + bytes.length ≤ MAX_CHECKPOINT_TOTAL_BYTES then
        match filledFile file bytes mode with
        | .ok file => .ok
            { files := progress.files.insert path file
              omitted := progress.omitted
              total := progress.total + bytes.length }
        | .error error => .error error
      else
        .ok { progress with
          files := progress.files.insert path { file with unsupported := true }
          omitted := progress.omitted + 1 }
    | .ok none => .ok { progress with files := progress.files.insert path file }
    | .error _ => .ok { progress with
        files := progress.files.insert path { file with unsupported := true }
        omitted := progress.omitted + 1 }

/-- The second reading of a file gave what the first one gave. -/
def stableFile (later : Repository) (file : CapturedWorktreeFile) : Bool :=
  match checkpointSourceDigest later file.filePath with
  | .ok (some (digest, mode)) => file.sha256 = some digest && file.mode = some mode
  | .ok none => file.sha256 = none
  | .error _ => false

/-- `capture_worktree_checkpoint`: the files are read at one time and checked at a later one. -/
def captureWorktreeCheckpoint (repository later : Repository) :
    Except GitError WorktreeCheckpointCapture := do
  let before ← metadata repository
  let dirty ← dirtyPaths repository
  let progress ← (before.files.toList.take MAX_CHECKPOINT_FILES).foldlM
    (captureFile repository dirty)
    { files := ∅, omitted := before.files.size - MAX_CHECKPOINT_FILES, total := 0 }
  let stableFiles := progress.files.toList.all fun (_, file) =>
    file.unsupported || stableFile later file
  let stable := stableFiles && match metadata later with
    | .ok after => before = after
    | .error _ => false
  return {
    headCommitOid := before.head
    branchName := before.branch
    indexSha256 := before.index
    files := progress.files
    omittedFileCount := progress.omitted
    stable := stable }

/-! ### What a capture keeps -/

/-- The path was accepted by `components`. -/
def ValidPath (path : String) : Prop :=
  ∃ parts, components path = .ok parts

/-- An entry is under its own path, has a hash exactly when it has a mode, and a supported one was
looked up under a valid path. -/
structure FileWellFormed (path : String) (file : CapturedWorktreeFile) : Prop where
  named : file.filePath = path
  together : file.sha256.isSome = file.mode.isSome
  valid : file.unsupported = false → ValidPath path
  permissions : ∀ mode ∈ file.mode, mode ≤ 0o777

/-- Every entry of a capture is well formed, and one that is not supported is counted as omitted. -/
structure WellFormed (files : ExtTreeMap String CapturedWorktreeFile) (omitted : ℕ) : Prop where
  entries : ∀ (path : String) (file : CapturedWorktreeFile), files[path]? = some file →
    FileWellFormed path file
  counted : ∀ (path : String) (file : CapturedWorktreeFile), files[path]? = some file →
    file.unsupported = true → 0 < omitted

theorem WellFormed.empty (omitted : ℕ) : WellFormed ∅ omitted where
  entries := by
    intro path file found
    rw [ExtTreeMap.getElem?_empty] at found
    cases found
  counted := by
    intro path file found
    rw [ExtTreeMap.getElem?_empty] at found
    cases found

variable {files : ExtTreeMap String CapturedWorktreeFile}

theorem WellFormed.mono {omitted more : ℕ}
    (wellFormed : WellFormed files omitted) (atLeast : omitted ≤ more) : WellFormed files more where
  entries := wellFormed.entries
  counted := by
    intro path file found unsupported
    exact lt_of_lt_of_le (wellFormed.counted path file found unsupported) atLeast

variable {path : String}

theorem WellFormed.insert {omitted : ℕ}
    (wellFormed : WellFormed files omitted) {file : CapturedWorktreeFile}
    (entry : FileWellFormed path file) (counted : file.unsupported = true → 0 < omitted) :
    WellFormed (files.insert path file) omitted where
  entries := by
    intro other found present
    rw [ExtTreeMap.getElem?_insert] at present
    split at present
    · rename_i same
      have here := Std.LawfulEqCmp.compare_eq_iff_eq.1 same
      cases present
      rwa [← here]
    · exact wellFormed.entries other found present
  counted := by
    intro other found present unsupported
    rw [ExtTreeMap.getElem?_insert] at present
    split at present
    · cases present
      exact counted unsupported
    · exact wellFormed.counted other found present unsupported

variable {dirty : ExtTreeSet String}

theorem FileWellFormed.emptyFile {unsupported : Bool}
    (valid : unsupported = false → ValidPath path) :
    FileWellFormed path { emptyFile dirty path with unsupported := unsupported } where
  named := rfl
  together := rfl
  valid := valid
  permissions := by
    intro mode member
    cases member

theorem FileWellFormed.filledFile {bytes : List UInt8} {mode : UInt32} {file : CapturedWorktreeFile}
    (filled : filledFile (WorktreeCapture.emptyFile dirty path) bytes mode = .ok file)
    (valid : ValidPath path) (permissions : mode ≤ 0o777) :
    FileWellFormed path file ∧ file.unsupported = false := by
  have entry : ∀ content rawContent, FileWellFormed path
      { WorktreeCapture.emptyFile dirty path with
        sha256 := some (digest bytes), mode := some mode, isBinary := isBinary bytes
        content := content, rawContent := rawContent } := by
    intro content rawContent
    constructor
    case named => rfl
    case together => rfl
    case valid =>
      intro _
      exact valid
    case permissions =>
      intro other member
      cases member
      exact permissions
  unfold WorktreeCapture.filledFile at filled
  simp only at filled
  split at filled
  · cases filled
    exact ⟨entry none (some bytes), rfl⟩
  split at filled
  · rename_i text _
    cases filled
    exact ⟨entry (some text) none, rfl⟩
  · cases filled

variable {repository : Repository}

theorem checkpointSourceBytes_eq_ok {source : Option (List UInt8 × UInt32)}
    (readSource : checkpointSourceBytes repository path = .ok source) : ValidPath path ∧
      ∀ bytes mode, source = some (bytes, mode) → mode ≤ 0o777 := by
  unfold checkpointSourceBytes at readSource
  split at readSource
  · cases readSource
  rename_i parts valid
  refine ⟨⟨parts, valid⟩, ?_⟩
  intro bytes mode present
  subst present
  split at readSource
  · split at readSource
    · cases readSource
    · cases readSource
      rw [UInt32.le_iff_toNat_le, UInt32.toNat_and]
      exact Nat.and_le_right
  · cases readSource
  · cases readSource

theorem wellFormed_captureFile {progress next : Progress}
    (step : captureFile repository dirty progress path = .ok next)
    (wellFormed : WellFormed progress.files progress.omitted) :
    WellFormed next.files next.omitted := by
  have unsupported : ∀ files, WellFormed files progress.omitted →
      WellFormed (files.insert path { emptyFile dirty path with unsupported := true })
        (progress.omitted + 1) := by
    intro files before
    apply (before.mono (Nat.le_succ _)).insert
    · apply FileWellFormed.emptyFile
      intro supported
      cases supported
    intro _
    exact Nat.succ_pos _
  unfold captureFile at step
  split at step
  · cases step
    exact wellFormed.mono (Nat.le_succ _)
  simp only at step
  split at step
  case h_1 bytes mode readSource =>
    obtain ⟨valid, permissions⟩ := checkpointSourceBytes_eq_ok readSource
    split at step
    · split at step
      · rename_i file filled
        cases step
        obtain ⟨entry, supported⟩ :=
          FileWellFormed.filledFile filled valid (permissions bytes mode rfl)
        apply wellFormed.insert entry
        intro isUnsupported
        rw [supported] at isUnsupported
        cases isUnsupported
      · cases step
    cases step
    exact unsupported _ wellFormed
  case h_2 readSource =>
    cases step
    apply wellFormed.insert
    · apply FileWellFormed.emptyFile
      intro _
      exact (checkpointSourceBytes_eq_ok readSource).1
    intro isUnsupported
    cases isUnsupported
  case h_3 =>
    cases step
    exact unsupported _ wellFormed

theorem wellFormed_foldlM {listed : List String} {progress final : Progress}
    (run : listed.foldlM (captureFile repository dirty) progress = .ok final)
    (wellFormed : WellFormed progress.files progress.omitted) :
    WellFormed final.files final.omitted := by
  induction listed generalizing progress with
  | nil =>
    cases run
    exact wellFormed
  | cons path rest ih =>
    rw [List.foldlM_cons] at run
    cases step : captureFile repository dirty progress path with
    | error error =>
      rw [step] at run
      cases run
    | ok next =>
      rw [step] at run
      exact ih run (wellFormed_captureFile step wellFormed)

theorem wellFormed_captureWorktreeCheckpoint {later : Repository}
    {capture : WorktreeCheckpointCapture}
    (taken : captureWorktreeCheckpoint repository later = .ok capture) :
    WellFormed capture.files capture.omittedFileCount := by
  unfold captureWorktreeCheckpoint at taken
  simp only [bind, Except.bind, pure, Except.pure] at taken
  split at taken
  · cases taken
  split at taken
  · cases taken
  split at taken
  · cases taken
  rename_i progress run
  cases taken
  exact wellFormed_foldlM run (WellFormed.empty _)

end Wts.WorktreeCapture
