/-
Module: Wts.App.TurnChanges
Purpose: The receipt of the file changes of one task.
Trusted boundary: the text patch of two blobs is the parameter `checkpointBlobPatch`
-/
import Wts.App.TurnRestore
import Wts.Git.WorktreeCapture
import Wts.Library.Json

namespace Wts.TurnChanges

open Checkpoint (LocalWtsError AgentTurnFileStatus)
open Integration (AgentTurnCheckpoint)
open TurnRestore (AgentTurnChangesState AgentTurnChangesObservation AgentTurnRestoreFile)
open WorktreeCapture
open Std (ExtTreeMap ExtTreeSet)

def COVERAGE : String :=
  "Changes observed during this task. Other editors can also change these files. Capture covers tracked files and untracked files that Git does not ignore."

structure AgentTurnChangedFile where
  filePath : String
  status : AgentTurnFileStatus
  beforeSha256 : Option String
  afterSha256 : Option String
  preExistingChange : Bool
  undoSupported : Bool
  detail : Option String

structure AgentTurnChanges where
  schemaVersion : UInt32
  conversationId : Uuid
  requestId : Uuid
  sessionId : Uuid
  workspaceId : Uuid
  repositoryId : String
  sourceContextSha256 : String
  state : AgentTurnChangesState
  observation : AgentTurnChangesObservation
  startedAtUnixMs : Int64
  completedAtUnixMs : Option Int64
  before : Option AgentTurnCheckpoint
  after : Option AgentTurnCheckpoint
  files : List AgentTurnChangedFile
  omittedFileCount : ℕ
  patch : String
  patchTruncated : Bool
  detail : String

structure StoredTurn where
  receipt : AgentTurnChanges
  target : String
  targetIdentity : String
  before : Option WorktreeCheckpointCapture
  after : Option WorktreeCheckpointCapture

/-- What `unavailable` takes from the conversation and from the message of the task. -/
structure TurnOrigin where
  conversationId : Uuid
  requestId : Uuid
  sessionId : Uuid
  workspaceId : Uuid
  repositoryId : String
  sourceContextSha256 : String
  createdAtUnixMs : Int64

def unavailable (origin : TurnOrigin) : AgentTurnChanges where
  schemaVersion := 1
  conversationId := origin.conversationId
  requestId := origin.requestId
  sessionId := origin.sessionId
  workspaceId := origin.workspaceId
  repositoryId := origin.repositoryId
  sourceContextSha256 := origin.sourceContextSha256
  state := .unavailable
  observation := .normal
  startedAtUnixMs := origin.createdAtUnixMs
  completedAtUnixMs := none
  before := none
  after := none
  files := []
  omittedFileCount := 0
  patch := ""
  patchTruncated := false
  detail := "This task has no saved change capture. Review the current files. A new task will capture its own before and after state."

/-- `str::trim_start_matches` of a text; every round takes at least one character. -/
def trimStartChars (start : List Char) : ℕ → List Char → List Char
  | 0, text => text
  | fuel + 1, text =>
    if start.isPrefixOf text then trimStartChars start fuel (text.drop start.length) else text

def blobName (hash : String) : String :=
  String.ofList (trimStartChars "sha256:".toList hash.toList.length hash.toList)

/-- The directory of a turn: the blobs by name, and the names that can be written. -/
structure BlobDirectory where
  blobs : String → Option (List UInt8)
  writable : String → Bool

def readBlobBytes (directory : BlobDirectory) (hash : String) : Except LocalWtsError (List UInt8) :=
  if !TurnRestore.validSha256 hash then
    .error .agentConversationUnavailable
  else
    match directory.blobs (blobName hash) with
    | none => .error .agentConversationUnavailable
    | some bytes =>
      if MAX_WORKTREE_SOURCE_BYTES < bytes.length || digest bytes ≠ hash then
        .error .agentConversationUnavailable
      else
        .ok bytes

def writeBlob (directory : BlobDirectory) (name : String) (bytes : List UInt8) :
    Except LocalWtsError BlobDirectory :=
  if directory.writable name then
    .ok { directory with blobs := Function.update directory.blobs name (some bytes) }
  else
    .error .agentConversationUnavailable

/-- The contents that `persist_capture` takes out of an entry. -/
def takenContent (file : CapturedWorktreeFile) : Option (List UInt8) :=
  match file.rawContent with
  | some bytes => some bytes
  | none => file.content.map Text.utf8Bytes

/-- The entry that stays. -/
def withoutContent (file : CapturedWorktreeFile) : CapturedWorktreeFile :=
  match file.rawContent with
  | some _ => { file with rawContent := none }
  | none => { file with content := none }

/-- One round of the loop of `persist_capture`. -/
def persistFile (directory : BlobDirectory) (file : CapturedWorktreeFile) :
    Except LocalWtsError BlobDirectory :=
  match takenContent file with
  | none => .ok directory
  | some content =>
    match file.sha256 with
    | none => .error .agentConversationUnavailable
    | some hash =>
      match directory.blobs (blobName hash) with
      | some _ =>
        match readBlobBytes directory hash with
        | .error error => .error error
        | .ok saved =>
          if saved ≠ content then .error .agentConversationUnavailable else .ok directory
      | none => writeBlob directory (blobName hash) content

def optionText : Option String → Json
  | some text => .string text
  | none => .null

def optionMode : Option UInt32 → Json
  | some mode => .number mode.toNat
  | none => .null

/-- `sha256_bytes` of `serde_json::to_vec`. -/
def sha256Json (value : Json) : String :=
  digest (Text.utf8Bytes value.print)

/-- The digest of the tree of a checkpoint. -/
def treeSha256 (capture : WorktreeCheckpointCapture) : String :=
  sha256Json (.array (capture.files.toList.map fun (path, file) =>
    .array [.string path, optionText file.sha256, optionMode file.mode, .bool file.unsupported]))

def canonicalCaptureDigest (capture : WorktreeCheckpointCapture) : Except LocalWtsError String :=
  if !capture.stable || capture.omittedFileCount ≠ 0 ||
      capture.files.toList.any (fun entry => entry.2.unsupported) then
    .error .agentConversationConflict
  else
    let files := (capture.files.toList.filter fun entry => entry.2.sha256.isSome).map
      fun (path, file) => Json.array [.string path, optionText file.sha256, optionMode file.mode]
    .ok (sha256Json (.array [.array files, .string capture.headCommitOid, .string capture.branchName,
      .string capture.indexSha256]))

/-- `persist_capture`: the contents go to the directory, the capture keeps the rest. -/
def persistCapture (directory : BlobDirectory) (checkpointId : Uuid) (clock : Int64)
    (capture : WorktreeCheckpointCapture) :
    Except LocalWtsError (BlobDirectory × AgentTurnCheckpoint × WorktreeCheckpointCapture) := do
  let directory ← (capture.files.toList.map Prod.snd).foldlM persistFile directory
  let capture := { capture with files := capture.files.map fun _ file => withoutContent file }
  return (directory,
    { checkpointId := checkpointId
      headCommitOid := capture.headCommitOid
      branchName := capture.branchName
      capturedAtUnixMs := clock
      treeSha256 := treeSha256 capture
      indexSha256 := capture.indexSha256 },
    capture)

/-- What the start and the end of a turn find: the identity of the target, the worktree while it is
read and while the reading is checked, the identifier of the checkpoint, and the clock. -/
structure CaptureEnv where
  identity : Except LocalWtsError String
  repository : Repository
  later : Repository
  checkpointId : Uuid
  clock : Int64

/-- `begin_turn_capture` of a new directory: the record that is saved. -/
def beginTurnCapture (env : CaptureEnv) (directory : BlobDirectory) (origin : TurnOrigin)
    (target : String) : Except LocalWtsError (BlobDirectory × StoredTurn) := do
  let receipt := unavailable origin
  let directory ← writeBlob directory "empty" []
  let identity ← env.identity
  match captureWorktreeCheckpoint env.repository env.later with
  | .ok capture =>
    let (directory, checkpoint, capture) ←
      persistCapture directory env.checkpointId env.clock capture
    return (directory,
      { receipt := { receipt with
          before := some checkpoint, state := .capturing, detail := COVERAGE }
        target := target, targetIdentity := identity, before := some capture, after := none })
  | .error _ =>
    return (directory,
      { receipt := { receipt with
          detail := "The before state could not be captured. Review the current files; this task cannot provide a complete change receipt." }
        target := target, targetIdentity := identity, before := none, after := none })

/-! ### The comparison -/

/-- `file_state`: the hash and the mode of an entry. -/
def fileState (file : Option CapturedWorktreeFile) : Option String × Option UInt32 :=
  (file.bind CapturedWorktreeFile.sha256, file.bind CapturedWorktreeFile.mode)

/-- The status of a file with these hashes. -/
def fileStatus (oldHash newHash : Option String) : AgentTurnFileStatus :=
  if oldHash = none then .added else if newHash = none then .deleted else .modified

def isBinaryChange (old new : Option CapturedWorktreeFile) : Bool :=
  old.any CapturedWorktreeFile.isBinary || new.any CapturedWorktreeFile.isBinary

def changedFile (path : String) (old new : Option CapturedWorktreeFile) : AgentTurnChangedFile where
  filePath := path
  status := fileStatus (fileState old).1 (fileState new).1
  beforeSha256 := (fileState old).1
  afterSha256 := (fileState new).1
  preExistingChange := old.any CapturedWorktreeFile.preExistingChange
  undoSupported := false
  detail := if isBinaryChange old new then
      some "The exact binary bytes are saved. A text patch is not available for this file."
    else none

/-- The blob of a side; an absent side is the empty blob. -/
def sideName (hash : Option String) : String :=
  (hash.map blobName).getD "empty"

/-- `git_mode`, printed in octal with six digits. -/
def gitMode (mode : UInt32) : String :=
  if mode &&& 0o111 = 0 then "100644" else "100755"

/-- A path of a patch as a JSON text. -/
def quote (start path : String) : String :=
  (Json.string (start ++ "/" ++ path)).print

def modeLines (status : AgentTurnFileStatus) (oldMode newMode : Option UInt32) : String :=
  match status with
  | .added => "new file mode " ++ gitMode (newMode.getD 0o644) ++ "\n"
  | .deleted => "deleted file mode " ++ gitMode (oldMode.getD 0o644) ++ "\n"
  | _ =>
    if oldMode ≠ newMode then
      "old mode " ++ gitMode (oldMode.getD 0o644) ++ "\nnew mode " ++
        gitMode (newMode.getD 0o644) ++ "\n"
    else
      ""

/-- The patch of one file around its hunks. -/
def filePatch (path : String) (old new : Option CapturedWorktreeFile) (hunks : String) : String :=
  let (oldHash, oldMode) := fileState old
  let (newHash, newMode) := fileState new
  let head := "diff --git " ++ quote "a" path ++ " " ++ quote "b" path ++ "\n" ++
    modeLines (fileStatus oldHash newHash) oldMode newMode
  if hunks = "" then
    head
  else
    head ++ "--- " ++ (if oldHash.isSome then quote "a" path else "/dev/null") ++ "\n+++ " ++
      (if newHash.isSome then quote "b" path else "/dev/null") ++ "\n" ++ hunks

/-- A receipt with the patch of one more file, when it fits. -/
def AgentTurnChanges.withPatch (receipt : AgentTurnChanges) (patch : String) (truncated : Bool) :
    AgentTurnChanges :=
  if receipt.patch.utf8ByteSize + patch.utf8ByteSize ≤ MAX_CHECKPOINT_PATCH_BYTES then
    { receipt with
      patch := receipt.patch ++ patch
      patchTruncated := receipt.patchTruncated || truncated }
  else
    { receipt with patchTruncated := true }

section Compare

variable (checkpointBlobPatch : String → String → Except GitError (String × Bool))
variable (before after : WorktreeCheckpointCapture)

/-- One path of the loop of `build_changes`; the second part counts the paths that are left out. -/
def comparePath (state : AgentTurnChanges × ℕ) (path : String) :
    Except LocalWtsError (AgentTurnChanges × ℕ) :=
  let (receipt, omitted) := state
  let old := before.files[path]?
  let new := after.files[path]?
  if old.any CapturedWorktreeFile.unsupported || new.any CapturedWorktreeFile.unsupported then
    .ok (receipt, omitted)
  else if (old.isNone && MAX_CHECKPOINT_FILES ≤ before.files.size) ||
      (new.isNone && MAX_CHECKPOINT_FILES ≤ after.files.size) then
    .ok (receipt, omitted + 1)
  else if fileState old = fileState new then
    .ok (receipt, omitted)
  else
    let receipt := { receipt with files := receipt.files ++ [changedFile path old new] }
    if isBinaryChange old new then
      .ok ({ receipt with patchTruncated := true }, omitted)
    else
      match checkpointBlobPatch (sideName (fileState old).1) (sideName (fileState new).1) with
      | .error _ => .error .agentConversationUnavailable
      | .ok (hunks, truncated) =>
        .ok (receipt.withPatch (filePatch path old new hunks) truncated, omitted)

/-- The paths of both captures, in order. -/
def unionPaths : ExtTreeSet String :=
  ExtTreeSet.ofList (before.files.keys ++ after.files.keys)

/-- The detail of a receipt. -/
def changesDetail (receipt : AgentTurnChanges) (omitted : ℕ) : String :=
  COVERAGE ++
    (if 0 < omitted then " Some paths were omitted: files must be regular files, at most 2 MiB each, within 2,048 paths and 32 MiB per capture. Symbolic links are not followed." else "") ++
    (if !before.stable || !after.stable then " Git state changed during capture. Treat this receipt as incomplete." else "") ++
    (if receipt.patchTruncated then " The text patch omits binary content or exceeds its 1 MiB limit. Exact bytes remain in the saved file captures." else "") ++
    (if receipt.observation = .recovered then " The after state was captured after the host restarted; it can include later edits." else "")

def buildChanges (receipt : AgentTurnChanges) : Except LocalWtsError AgentTurnChanges := do
  let paths := unionPaths before after
  let (receipt, omitted) ← (paths.toList.take MAX_CHECKPOINT_FILES).foldlM
    (comparePath checkpointBlobPatch before after)
    (receipt, max before.omittedFileCount after.omittedFileCount +
      (paths.size - MAX_CHECKPOINT_FILES))
  return { receipt with
    omittedFileCount := omitted
    state := if omitted = 0 && before.stable && after.stable then .ready else .incomplete
    detail := changesDetail before after receipt omitted }

end Compare

/-- The capture after the task, when the target is still the one of the turn and can be captured. -/
def capturedAfter (env : CaptureEnv) (stored : StoredTurn) : Option WorktreeCheckpointCapture :=
  if env.identity.toOption = some stored.targetIdentity then
    (captureWorktreeCheckpoint env.repository env.later).toOption
  else
    none

/-- The record with the capture after the task. -/
def keepAfter (env : CaptureEnv) (directory : BlobDirectory) (stored : StoredTurn) :
    Except LocalWtsError (BlobDirectory × StoredTurn) :=
  match capturedAfter env stored with
  | none => .ok (directory, stored)
  | some capture =>
    match persistCapture directory env.checkpointId env.clock capture with
    | .error error => .error error
    | .ok (directory, checkpoint, capture) => .ok (directory,
        { stored with
          receipt := { stored.receipt with after := some checkpoint }
          after := some capture })

/-- The record with the comparison of its captures. -/
def compareStored (checkpointBlobPatch : String → String → Except GitError (String × Bool))
    (stored : StoredTurn) : Except LocalWtsError StoredTurn :=
  match stored.before, stored.after with
  | some before, some after =>
    match buildChanges checkpointBlobPatch before after stored.receipt with
    | .error error => .error error
    | .ok receipt => .ok { stored with receipt := receipt }
  | _, _ => .ok { stored with
      receipt := { stored.receipt with
        state := .unavailable
        detail := "A complete before and after capture is not available. The repository may have moved or changed identity. Review the current files." } }

/-- `finish_turn_capture_inner`: the record that is saved. A record that is already completed stays. -/
def finishTurnCaptureInner
    (checkpointBlobPatch : String → String → Except GitError (String × Bool)) (env : CaptureEnv)
    (recovered : Bool) (directory : BlobDirectory) (stored : StoredTurn) :
    Except LocalWtsError (BlobDirectory × StoredTurn) :=
  if stored.receipt.completedAtUnixMs.isSome then
    .ok (directory, stored)
  else do
    let receipt := { stored.receipt with
      observation := if recovered then .recovered else .normal
      completedAtUnixMs := some env.clock }
    let (directory, stored) ← keepAfter env directory { stored with receipt := receipt }
    let stored ← compareStored checkpointBlobPatch stored
    return (directory, stored)

def AgentTurnChanges.restoreView (receipt : AgentTurnChanges) : TurnRestore.AgentTurnChanges where
  conversationId := receipt.conversationId
  requestId := receipt.requestId
  sessionId := receipt.sessionId
  workspaceId := receipt.workspaceId
  repositoryId := receipt.repositoryId
  state := receipt.state
  observation := receipt.observation
  before := receipt.before
  after := receipt.after
  files := receipt.files.map fun file =>
    { filePath := file.filePath, beforeSha256 := file.beforeSha256 }

def actions (receipt : AgentTurnChanges) : List AgentTurnRestoreFile :=
  TurnRestore.actions receipt.restoreView

/-- The loop of `mixed_expected_state` when every file is restored: a path gets its entry of the capture
before the task, or none. -/
def replaceListed (before : WorktreeCheckpointCapture) (expected : WorktreeCheckpointCapture)
    (files : List AgentTurnRestoreFile) : WorktreeCheckpointCapture :=
  files.foldl (fun expected file =>
    { expected with
      files := match before.files[file.filePath]? with
        | some original => expected.files.insert file.filePath original
        | none => expected.files.erase file.filePath }) expected

/-- The state of a path in a capture. -/
def stateAt (capture : WorktreeCheckpointCapture) (path : String) : Option String × Option UInt32 :=
  fileState capture.files[path]?

/-- The states of the paths after one action: the file gets its bytes and its mode from before the task,
or is removed. -/
def applyAction (before : WorktreeCheckpointCapture)
    (states : String → Option String × Option UInt32) (file : AgentTurnRestoreFile) :
    String → Option String × Option UInt32 :=
  Function.update states file.filePath
    (match file.action with
      | .restore => stateAt before file.filePath
      | .remove => (none, none))

end Wts.TurnChanges
