/-
Module: Wts.App.TurnRestore
Purpose: Conditional restoration of the working files of one task.
-/
import Wts.App.Integration

namespace Wts.TurnRestore

open Checkpoint Interrupt Text
open Integration (AgentTurnCheckpoint)
open Interrupt.Proc

/-! ### Data -/

inductive AgentTurnRestoreAction where
  | restore
  | remove
deriving DecidableEq

structure AgentTurnRestoreFile where
  filePath : String
  action : AgentTurnRestoreAction
deriving DecidableEq

structure AgentTurnRestoreBlocker where
  code : String
  filePath : Option String
  detail : String
deriving DecidableEq

inductive AgentTurnRestorePreflightState where
  | ready
  | blocked
  | restored
deriving DecidableEq

structure AgentTurnRestorePreflight where
  schemaVersion : UInt32
  conversationId : Uuid
  requestId : Uuid
  sessionId : Uuid
  workspaceId : Uuid
  repositoryId : String
  afterCheckpointId : Option Uuid
  state : AgentTurnRestorePreflightState
  effectDigest : String
  resumeRequestId : Option Uuid
  files : List AgentTurnRestoreFile
  blockers : List AgentTurnRestoreBlocker
  detail : String
  restoredAtUnixMs : Option Int64

structure AgentTurnRestoreRequest where
  requestId : Uuid
  effectDigest : String
deriving DecidableEq

inductive AgentTurnRestoreResultState where
  | restored
  | conflict
  | incomplete
deriving DecidableEq

structure AgentTurnRestoreResult where
  schemaVersion : UInt32
  conversationId : Uuid
  requestId : Uuid
  restoreRequestId : Uuid
  state : AgentTurnRestoreResultState
  restoredAtUnixMs : Option Int64
  files : List AgentTurnRestoreFile
  blockers : List AgentTurnRestoreBlocker
  detail : String
deriving DecidableEq

structure RestoreJournal where
  request : AgentTurnRestoreRequest
  result : AgentTurnRestoreResult
  finished : Bool
  pendingFile : Option AgentTurnRestoreFile

structure PendingRestore where
  sessionId : Uuid
  restoreRequestId : Uuid
  workspaceId : Uuid

inductive AgentTurnChangesState where
  | capturing
  | ready
  | incomplete
  | unavailable
deriving DecidableEq

inductive AgentTurnChangesObservation where
  | normal
  | recovered
deriving DecidableEq

/-- What a restore uses of a changed file. -/
structure AgentTurnChangedFile where
  filePath : String
  beforeSha256 : Option String
deriving DecidableEq

/-- What a restore uses of a receipt. -/
structure AgentTurnChanges where
  conversationId : Uuid
  requestId : Uuid
  sessionId : Uuid
  workspaceId : Uuid
  repositoryId : String
  state : AgentTurnChangesState
  observation : AgentTurnChangesObservation
  before : Option AgentTurnCheckpoint
  after : Option AgentTurnCheckpoint
  files : List AgentTurnChangedFile

structure StoredTurn where
  receipt : AgentTurnChanges
  target : String
  targetIdentity : String
  before : Option TakenCapture
  after : Option TakenCapture

def blocker (code : String) (path : Option String) (detail : String) : AgentTurnRestoreBlocker where
  code := code
  filePath := path
  detail := detail

def validSha256 (value : String) : Bool :=
  match stripPrefix "sha256:" value with
  | none => false
  | some digits => digits.toList.length = 64 && digits.toList.all fun c =>
    c.isDigit || ('a' ≤ c && c ≤ 'f') || ('A' ≤ c && c ≤ 'F')

def actions (receipt : AgentTurnChanges) : List AgentTurnRestoreFile :=
  receipt.files.map fun file =>
    { filePath := file.filePath
      action := if file.beforeSha256.isSome then .restore else .remove }

/-- What `effect_digest` hashes. -/
structure EffectInput where
  conversationId : Uuid
  requestId : Uuid
  sessionId : Uuid
  before : Option AgentTurnCheckpoint
  after : Option AgentTurnCheckpoint
  files : List AgentTurnRestoreFile

/-- `effect_digest`. `digest` is the SHA-256 of the JSON text. -/
def effectDigest (digest : EffectInput → String) (receipt : AgentTurnChanges)
    (files : List AgentTurnRestoreFile) : String :=
  digest {
    conversationId := receipt.conversationId
    requestId := receipt.requestId
    sessionId := receipt.sessionId
    before := receipt.before
    after := receipt.after
    files := files }

/-- What a run did to the store, for the record. -/
inductive RestoreNote where
  | wrote (path : String) (before after : Option FileState)
  | saved (journal : RestoreJournal) (worktree : Worktree)

/-- The worktree of the task, the journals of the restore requests, the completed record, the marker of
the workspace, and the notes of the run so far. -/
structure RestoreStore where
  worktree : Worktree
  journals : Uuid → Option RestoreJournal
  completed : Option AgentTurnRestoreResult
  marker : Option PendingRestore
  notes : List RestoreNote

abbrev RestoreProc := Proc RestoreStore LocalWtsError

/-- `write_json` of a journal. -/
def saveJournal (requestId : Uuid) (journal : RestoreJournal) : RestoreProc Unit :=
  change .agentConversationUnavailable fun store =>
    { store with
      journals := Function.update store.journals requestId (some journal)
      notes := store.notes ++ [.saved journal store.worktree] }

def writeMarker (marker : PendingRestore) : RestoreProc Unit :=
  change .agentConversationUnavailable fun store => { store with marker := some marker }

def removeMarker : RestoreProc Unit :=
  change .agentConversationUnavailable fun store => { store with marker := none }

/-- `write_json` of `restore-completed.json`. -/
def saveCompleted (result : AgentTurnRestoreResult) : RestoreProc Unit :=
  change .agentConversationUnavailable fun store => { store with completed := some result }

def readJournal (requestId : Uuid) (store : RestoreStore) : Except LocalWtsError RestoreJournal :=
  match store.journals requestId with
  | some journal => .ok journal
  | none => .error .agentConversationUnavailable

/-- `restore_worktree_bytes_checked`: whether the write is reported as done. -/
def restoreWorktreeBytesChecked (path : String) (content : Option String) (mode : Option UInt32)
    (expected : Option FileState) (expectedRootIdentity : String) : RestoreProc Bool := do
  let store ← read
  if writeAllowed store.worktree path content mode expected expectedRootIdentity then
    tryChange fun store =>
      { store with
        worktree := store.worktree.withFile path (writtenState content mode)
        notes := store.notes ++
          [.wrote path (store.worktree.contents.stateAt path) (writtenState content mode)] }
  else
    return false

/-- A journal in which a file is restored. -/
def RestoreJournal.confirm (journal : RestoreJournal) (file : AgentTurnRestoreFile) :
    RestoreJournal :=
  if file ∈ journal.result.files then journal
  else { journal with result := { journal.result with files := journal.result.files ++ [file] } }

def RestoreJournal.block (journal : RestoreJournal) (blocker : AgentTurnRestoreBlocker) :
    RestoreJournal :=
  { journal with result := { journal.result with blockers := journal.result.blockers ++ [blocker] } }

/-- One step of the loop of `mixed_expected_state`: a restored file, and a pending file that is seen as
it was before the task, is expected as it was before the task. -/
def restoreFile (before current : WorktreeCheckpointCapture)
    (state : RestoreJournal × WorktreeCheckpointCapture) (file : AgentTurnRestoreFile) :
    RestoreJournal × WorktreeCheckpointCapture :=
  let (journal, expected) := state
  if file ∈ journal.result.files ∨ (journal.pendingFile = some file ∧
      current.stateAt file.filePath = before.stateAt file.filePath) then
    (journal.confirm file, expected.override file.filePath before.files[file.filePath]?)
  else
    state

/-- `mixed_expected_state`. The journal comes back with the files that are seen to be restored. -/
def mixedExpectedState (stored : StoredTurn) (journal : RestoreJournal)
    (current : WorktreeCheckpointCapture) :
    Except LocalWtsError (RestoreJournal × WorktreeCheckpointCapture) :=
  match stored.before, stored.after with
  | some before, some after =>
    .ok ((actions stored.receipt).foldl
      (restoreFile before.toWorktreeCheckpointCapture current)
      (journal, after.toWorktreeCheckpointCapture))
  | _, _ => .error .agentConversationUnavailable

section Apply

variable (stored : StoredTurn)

/-- What `apply_restore` gets from outside: the private blobs that can be read, and the clock. -/
structure ApplyEnv where
  savedBlobs : String → Bool
  clock : Int64

def savedContent (capture : WorktreeCheckpointCapture) (path : String) : Option String :=
  (capture.stateAt path).map FileState.sha256

/-- The loop of `apply_restore` over the files. -/
def applyFiles (before after : WorktreeCheckpointCapture) :
    List AgentTurnRestoreFile → RestoreJournal → RestoreProc RestoreJournal
  | [], journal => return journal
  | file :: rest, journal =>
    if file ∈ journal.result.files then
      applyFiles before after rest journal
    else do
      let journal := { journal with pendingFile := some file }
      saveJournal journal.request.requestId journal
      let restored ← restoreWorktreeBytesChecked file.filePath
        (savedContent before file.filePath)
        ((before.stateAt file.filePath).map FileState.mode)
        (after.stateAt file.filePath) stored.targetIdentity
      if restored then
        let journal :=
          { journal with
            result := { journal.result with files := journal.result.files ++ [file] }
            pendingFile := none }
        saveJournal journal.request.requestId journal
        applyFiles before after rest journal
      else
        return journal.block (blocker "fileConflict" (some file.filePath)
          "This file changed or its folder is unavailable. The remaining files were not restored. Review the partial result.")

/-- The first part of `apply_restore`: the loop, when the worktree is as the journal expects. -/
def applyExpected (env : ApplyEnv) (before after : WorktreeCheckpointCapture)
    (journal : RestoreJournal) (expected current : WorktreeCheckpointCapture) :
    RestoreProc RestoreJournal := do
  let store ← read
  let identity ← ofExcept (targetIdentity store.worktree)
  if identity ≠ stored.targetIdentity ∨ ¬matchesCapture expected current then
    return journal.block (blocker "filesChanged" none
      "Files or Git state changed during restore. Review the files before you continue.")
  -- Every private blob is read before the first file is written.
  else if (actions stored.receipt).any fun file =>
      (savedContent before file.filePath).any fun hash => !env.savedBlobs hash then
    fail .agentConversationUnavailable
  else
    applyFiles stored before after (actions stored.receipt) journal

/-- The check of the final state, made when nothing blocked the loop. -/
def checkFinalState (before : WorktreeCheckpointCapture) (journal : RestoreJournal) :
    RestoreProc RestoreJournal :=
  if journal.result.blockers = [] then do
    let changed := journal.block (blocker "finalStateChanged" none
      "The final file state could not be confirmed. Review the listed effects and current files, then retry this restore.")
    let store ← read
    match captureWorktreeCheckpoint store.worktree with
    | none => return changed
    | some current =>
      if matchesCapture before current then
        let identity ← ofExcept (targetIdentity store.worktree)
        return if identity ≠ stored.targetIdentity then changed else journal
      else
        return changed
  else
    return journal

/-- The journal that `apply_restore` saves at its end. -/
def closeJournal (clock : Int64) (journal : RestoreJournal) : RestoreJournal :=
  if journal.result.blockers = [] then
    { journal with
      finished := true
      result := { journal.result with
        state := .restored
        restoredAtUnixMs := some clock
        detail := "Restored the listed working files and checked their captured state. Git history and the index were not changed by this restore." } }
  else
    { journal with
      finished := true
      result := { journal.result with
        state := .incomplete
        detail := "Restore stopped. Review the listed files and conflicts, then retry this restore. Files already restored are checked before the remaining files continue. The private snapshots were kept." } }

def applyRestore (env : ApplyEnv) (journal : RestoreJournal) : RestoreProc RestoreJournal :=
  match stored.before, stored.after with
  | some before, some after => do
    let store ← read
    match captureWorktreeCheckpoint store.worktree with
    | none => fail .agentConversationUnavailable
    | some current =>
      let (credited, expected) ← ofExcept (mixedExpectedState stored journal current)
      let applied ← applyExpected stored env before.toWorktreeCheckpointCapture
        after.toWorktreeCheckpointCapture credited expected current
      let checked ← checkFinalState stored before.toWorktreeCheckpointCapture applied
      let closed := closeJournal env.clock checked
      saveJournal closed.request.requestId closed
      saveCompleted closed.result
      removeMarker
      return closed
  | _, _ => fail .agentConversationUnavailable

/-- What a recovery gets from outside: the operation lease, the stored turn, its conversation, the turn
lease, whether the conversation has the turn and its source context, and what `apply_restore` gets. -/
structure RecoverEnv extends ApplyEnv where
  operationLease : Except LocalWtsError Unit
  record : Except LocalWtsError Unit
  conversation : Except LocalWtsError Unit
  turnLease : Except LocalWtsError Unit
  conversationAgrees : Bool

/-- Whether both captures are complete and show one Git state. -/
def capturesAgree : Bool :=
  match stored.before, stored.after with
  | some before, some after =>
    before.complete && after.complete && before.headCommitOid = after.headCommitOid &&
      before.branchName = after.branchName && before.indexSha256 = after.indexSha256
  | _, _ => false

/-- The checks of `recover_pending_workspace` on the journal. -/
def journalAgrees (digest : EffectInput → String) (restoreRequestId : Uuid)
    (journal : RestoreJournal) : Bool :=
  journal.result.requestId = stored.receipt.requestId &&
    journal.result.conversationId = stored.receipt.conversationId &&
    journal.request.requestId = restoreRequestId &&
    journal.result.restoreRequestId = journal.request.requestId &&
    journal.request.effectDigest =
      effectDigest digest stored.receipt (actions stored.receipt) &&
    stored.receipt.state = .ready && stored.receipt.observation = .normal &&
    capturesAgree stored &&
    journal.result.files.all (fun file => file ∈ actions stored.receipt) &&
    journal.pendingFile.all fun file => file ∈ actions stored.receipt

/-- `recover_pending_workspace` for the workspace of the turn. Only the records of the turn are kept
here, so a marker of another turn finds none. A busy lease leaves everything to its owner. -/
def recoverPendingWorkspace (digest : EffectInput → String) (env : RecoverEnv) :
    RestoreProc Unit := do
  let store ← read
  match store.marker with
  | none => return ()
  | some marker =>
    match env.operationLease with
    | .error .agentConversationBusy => return ()
    | .error error => fail error
    | .ok _ =>
      if marker.workspaceId ≠ stored.receipt.workspaceId then
        fail .agentConversationUnavailable
      else
        ofExcept env.record
        ofExcept env.conversation
        if stored.receipt.sessionId ≠ marker.sessionId then
          fail .agentConversationUnavailable
        else
          match env.turnLease with
          | .error .agentConversationBusy => return ()
          | .error error => fail error
          | .ok _ =>
            let journal ← ofExcept (readJournal marker.restoreRequestId store)
            if ¬(journalAgrees stored digest marker.restoreRequestId journal ∧
                env.conversationAgrees) then
              fail .agentConversationUnavailable
            else if journal.finished then
              saveCompleted journal.result
              removeMarker
            else
              let _ ← applyRestore stored env.toApplyEnv journal
              return ()

end Apply

/-! ### The preflight -/

/-- What a request gets from outside: the receipt, the conversations and the sessions of the workspace,
busy when one of them is active, the leases, whether the workspace still has its path, the parent
folders, and what a recovery gets. -/
structure RequestEnv extends RecoverEnv where
  receipt : Except LocalWtsError Unit
  conversations : Except LocalWtsError Unit
  sessions : Except LocalWtsError Unit
  leases : Except LocalWtsError Unit
  sourceWorktree : Except LocalWtsError Bool
  parentIsDir : String → Bool

section Requests

variable (digest : EffectInput → String) (stored : StoredTurn) (env : RequestEnv)

def initialPreflight : AgentTurnRestorePreflight where
  schemaVersion := 1
  conversationId := stored.receipt.conversationId
  requestId := stored.receipt.requestId
  sessionId := stored.receipt.sessionId
  workspaceId := stored.receipt.workspaceId
  repositoryId := stored.receipt.repositoryId
  afterCheckpointId := stored.receipt.after.map AgentTurnCheckpoint.checkpointId
  state := .ready
  effectDigest := effectDigest digest stored.receipt (actions stored.receipt)
  resumeRequestId := none
  files := actions stored.receipt
  blockers := []
  detail := "Restore the captured working files to their state before this task. Existing dirty changes from before the task remain. Git history and the index will not change. Each file is checked before it is written. Keep other editors and Git tools idle during restore."
  restoredAtUnixMs := none

variable (store : RestoreStore)

def historicalResult :
    Except LocalWtsError (Option AgentTurnRestoreResult) :=
  match store.completed with
  | none => .ok none
  | some result => do
    let journal ← readJournal result.restoreRequestId store
    if result.conversationId ≠ stored.receipt.conversationId ∨
        result.requestId ≠ stored.receipt.requestId ∨
        result.restoreRequestId ≠ journal.request.requestId ∨ result ≠ journal.result ∨
        ¬journal.finished ∨
        journal.request.effectDigest ≠
          effectDigest digest stored.receipt (actions stored.receipt) then
      .error .agentConversationUnavailable
    else
      return some result

variable (worktree : Worktree)

/-- Whether the workspace still has its path and the worktree is the expected one. The identity of the
root is only looked up at the right path. -/
def resumeMatches (samePath : Bool)
    (expected current : WorktreeCheckpointCapture) : Except LocalWtsError Bool :=
  if samePath then do
    let identity ← targetIdentity worktree
    return identity = stored.targetIdentity && matchesCapture expected current
  else
    return false

def resumePreflight (journal : RestoreJournal)
    (preflight : AgentTurnRestorePreflight) : Except LocalWtsError AgentTurnRestorePreflight :=
  if journal.result.conversationId ≠ stored.receipt.conversationId ∨
      journal.result.requestId ≠ stored.receipt.requestId ∨
      journal.result.restoreRequestId ≠ journal.request.requestId ∨
      journal.request.effectDigest ≠
        effectDigest digest stored.receipt (actions stored.receipt) then
    .error .agentConversationUnavailable
  else do
    env.record
    let samePath ← env.sourceWorktree
    match captureWorktreeCheckpoint worktree with
    | none => .error .agentConversationUnavailable
    | some current =>
      let (observed, expected) ← mixedExpectedState stored journal current
      let resumed :=
        { preflight with
          resumeRequestId := some journal.request.requestId
          effectDigest := journal.request.effectDigest
          files := (actions stored.receipt).filter fun file => file ∉ observed.result.files }
      let same ← resumeMatches stored worktree samePath expected current
      return if same then
          { resumed with
            state := .ready
            blockers := []
            detail := "Continue the earlier restore. Restored files and the remaining files are checked. Keep other editors and Git tools idle until restore finishes." }
        else
          { resumed with
            state := .blocked
            blockers := [blocker "filesChanged" none
              "Files or Git state changed during the earlier restore. Review those changes, then check again. The same restore can continue when its expected file state is restored."] }

def completedPreflight (result : AgentTurnRestoreResult) :
    Except LocalWtsError AgentTurnRestorePreflight :=
  let preflight :=
    { initialPreflight digest stored with
      state := if result.state = .restored then .restored else .blocked
      restoredAtUnixMs := result.restoredAtUnixMs
      files := []
      blockers := result.blockers
      detail :=
        if result.state = .restored then
          "This task was restored earlier. Files may have changed since that restore."
        else
          result.detail }
  if result.state = .incomplete then do
    let journal ← readJournal result.restoreRequestId store
    resumePreflight digest stored env store.worktree journal preflight
  else
    .ok preflight

def loadCheckTarget : Except LocalWtsError WorktreeCheckpointCapture := do
  env.receipt
  if stored.receipt.state ≠ .ready ∨ stored.receipt.observation ≠ .normal ∨
      stored.receipt.after = none then
    .error .agentConversationConflict
  else
    env.conversation
    let samePath ← env.sourceWorktree
    env.record
    if samePath then
      let identity ← targetIdentity worktree
      if identity ≠ stored.targetIdentity then
        .error .agentConversationConflict
      else
        match stored.after with
        | none => .error .agentConversationConflict
        | some after =>
          let _ ← canonicalCapture after.toWorktreeCheckpointCapture
          return after.toWorktreeCheckpointCapture
    else
      .error .agentConversationConflict

def matchesCheckTarget (after : WorktreeCheckpointCapture) :
    Except LocalWtsError Bool := do
  let identity ← targetIdentity worktree
  if identity ≠ stored.targetIdentity then
    return false
  else
    match captureWorktreeCheckpoint worktree with
    | none => .error .agentConversationUnavailable
    | some current => return matchesCapture after current

/-- The blockers that a receipt has by itself, in order. -/
def receiptBlockers : List AgentTurnRestoreBlocker :=
  (if stored.receipt.state ≠ .ready ∨ stored.receipt.observation ≠ .normal then
    [blocker "captureUnavailable" none
      "Restore needs a complete capture from the original task. Incomplete, recovered, and older captures cannot be restored."]
  else []) ++
  match stored.receipt.before, stored.receipt.after with
  | some before, some after =>
    if before.headCommitOid ≠ after.headCommitOid ∨ before.branchName ≠ after.branchName ∨
        before.indexSha256 ≠ after.indexSha256 then
      [blocker "gitStateChanged" none
        "The task changed Git history, branch, or index. This restore only supports working-file changes. Review the Git state first."]
    else []
  | _, _ => [blocker "captureUnavailable" none "The before or after checkpoint is missing."]

/-- The blockers that the worktree gives, in order. -/
def targetBlockers : Except LocalWtsError (List AgentTurnRestoreBlocker) :=
  match loadCheckTarget stored env worktree with
  | .ok after => do
    let same ← matchesCheckTarget stored worktree after
    return (if same then []
        else
          [blocker "filesChanged" none
            "Files or Git state changed after the task. Review the later changes before you restore."]) ++
      ((actions stored.receipt).filter fun file =>
        file.action = .restore && !env.parentIsDir file.filePath).map fun file =>
          blocker "parentMissing" (some file.filePath)
            "The original parent folder is missing. Restore that folder before you retry."
  | .error _ =>
    .ok [blocker "workspaceChanged" none
      "The workspace path or repository no longer matches this task. Review the workspace before you restore."]

/-- The worktree is only looked at when the receipt allows a restore. -/
def freshBlockers : Except LocalWtsError (List AgentTurnRestoreBlocker) :=
  if receiptBlockers stored = [] then targetBlockers stored env worktree
  else .ok (receiptBlockers stored)

/-- The preflight of a turn that was not restored before. -/
def freshPreflight : Except LocalWtsError AgentTurnRestorePreflight := do
  let blockers ← freshBlockers stored env worktree
  return if blockers = [] then initialPreflight digest stored
    else
      { initialPreflight digest stored with
        state := .blocked
        blockers := blockers
        detail := "Restore is blocked. No files were changed. Review the listed conflicts." }

def validatePreflight : Except LocalWtsError AgentTurnRestorePreflight := do
  match ← historicalResult digest stored store with
  | some result => completedPreflight digest stored env store result
  | none => freshPreflight digest stored env store.worktree

def operationLeases : Except LocalWtsError Unit := do
  env.conversations
  env.sessions
  if store.marker.isSome then .error .agentConversationBusy
  else env.leases

/-- The preflight of a busy workspace that is about to be resumed. Its leases are taken without the
check of the marker. -/
def busyPreflight : Except LocalWtsError AgentTurnRestorePreflight :=
  let busy :=
    { initialPreflight digest stored with
      state := .blocked
      blockers := [blocker "workspaceBusy" none
        "An agent or host operation is active in this workspace. Wait for it to finish, then check again."]
      detail := "Restore is blocked while this workspace is active." }
  match store.marker with
  | none => .ok busy
  | some marker =>
    if marker.sessionId = stored.receipt.sessionId ∧
        marker.workspaceId = stored.receipt.workspaceId then do
      let journal ← readJournal marker.restoreRequestId store
      let resumed :=
        { busy with
          resumeRequestId := some journal.request.requestId
          effectDigest := journal.request.effectDigest }
      match env.conversations with
      | .error .agentConversationBusy => return resumed
      | .error error => .error error
      | .ok _ =>
        match env.operationLease, env.turnLease with
        | .ok _, .ok _ => resumePreflight digest stored env store.worktree journal resumed
        | _, _ => return resumed
    else
      .ok busy

def preflightAgentTurnRestore :
    Except LocalWtsError AgentTurnRestorePreflight := do
  env.receipt
  env.conversation
  match operationLeases env store with
  | .ok _ => validatePreflight digest stored env store
  | .error .agentConversationBusy => busyPreflight digest stored env store
  | .error error => .error error

/-- What a request does, once its reads are made. -/
inductive RestoreDecision where
  | answer (result : AgentTurnRestoreResult)
  | recover
  | refuse (journal : RestoreJournal)
  | start (journal : RestoreJournal)

/-- The result of a request that is not yet decided. -/
def resultFor (preflight : AgentTurnRestorePreflight) (requestId : Uuid) : AgentTurnRestoreResult where
  schemaVersion := 1
  conversationId := stored.receipt.conversationId
  requestId := stored.receipt.requestId
  restoreRequestId := requestId
  state := .conflict
  restoredAtUnixMs := none
  files := []
  blockers := preflight.blockers
  detail := preflight.detail

/-- The journal of a request that is refused. It is finished at once. -/
def refusedJournal (request : AgentTurnRestoreRequest) (preflight : AgentTurnRestorePreflight) :
    RestoreJournal :=
  let result := resultFor stored preflight request.requestId
  { request := request
    result := { result with
      blockers := if result.blockers = [] then
          [blocker "preflightChanged" none
            "The restore preview changed. Check the task again before you restore."]
        else result.blockers }
    finished := true
    pendingFile := none }

def startedJournal (request : AgentTurnRestoreRequest) (preflight : AgentTurnRestorePreflight) :
    RestoreJournal where
  request := request
  result := { resultFor stored preflight request.requestId with
    state := .incomplete
    detail := "The restore is in progress. Keep WTS open until it finishes." }
  finished := false
  pendingFile := none

/-- A journal of a request that is taken up again. -/
def RestoreJournal.retried (journal : RestoreJournal) : RestoreJournal :=
  { journal with
    finished := false
    result := { journal.result with blockers := [] } }

/-- A request with a saved journal. -/
def decideSaved (request : AgentTurnRestoreRequest)
    (journal : RestoreJournal) : Except LocalWtsError RestoreDecision :=
  if journal.request ≠ request ∨
      journal.result.conversationId ≠ stored.receipt.conversationId ∨
      journal.result.requestId ≠ stored.receipt.requestId then
    .error .agentConversationConflict
  else if journal.finished ∧ journal.result.state ≠ .incomplete then
    .ok (.answer journal.result)
  else if ¬journal.finished then
    .ok .recover
  else do
    env.conversation
    operationLeases env store
    env.record
    let samePath ← env.sourceWorktree
    if samePath then
      let identity ← targetIdentity store.worktree
      if identity ≠ stored.targetIdentity then
        .error .agentConversationConflict
      else
        return .start journal.retried
    else
      .error .agentConversationConflict

/-- A request without a saved journal. -/
def decideFresh (request : AgentTurnRestoreRequest) :
    Except LocalWtsError RestoreDecision := do
  env.conversation
  match operationLeases env store with
  | .error .agentConversationBusy => .error .agentConversationBusy
  | .error _ => .error .agentConversationUnavailable
  | .ok _ =>
    let preflight ← validatePreflight digest stored env store
    if preflight.state ≠ .ready ∨ preflight.effectDigest ≠ request.effectDigest ∨
        preflight.resumeRequestId.any (fun id => id ≠ request.requestId) then
      return .refuse (refusedJournal stored request preflight)
    else
      env.record
      return .start (startedJournal stored request preflight)

/-- The reads of `restore_agent_turn` before its first write. -/
def decideRestore (request : AgentTurnRestoreRequest) :
    Except LocalWtsError RestoreDecision :=
  if request.requestId = 0 ∨ ¬validSha256 request.effectDigest then
    .error .invalidAgentConversation
  else do
    env.receipt
    match store.journals request.requestId with
    | some journal => decideSaved stored env store request journal
    | none => decideFresh digest stored env store request

/-- The writing part of a restore: the journal, the marker, and then the files. -/
def runJournal (journal : RestoreJournal) : RestoreProc AgentTurnRestoreResult := do
  saveJournal journal.request.requestId journal
  writeMarker
    { sessionId := stored.receipt.sessionId
      restoreRequestId := journal.request.requestId
      workspaceId := stored.receipt.workspaceId }
  let applied ← applyRestore stored env.toApplyEnv journal
  return applied.result

def restoreAgentTurn (request : AgentTurnRestoreRequest) : RestoreProc AgentTurnRestoreResult := do
  let store ← read
  match ← ofExcept (decideRestore digest stored env store request) with
  | .answer result => return result
  | .recover =>
    recoverPendingWorkspace stored digest env.toRecoverEnv
    let store ← read
    let recovered ← ofExcept (readJournal request.requestId store)
    if recovered.finished then
      return recovered.result
    else
      fail .agentConversationBusy
  | .refuse journal =>
    saveJournal request.requestId journal
    return journal.result
  | .start journal => runJournal stored env journal

end Requests

/-- A request or a recovery with what it gets from outside and the fates of its writes, or an edit of
the worktree from outside. -/
inductive RestoreEvent where
  | request (env : RequestEnv) (request : AgentTurnRestoreRequest) (fates : List Fate)
  | recover (env : RecoverEnv) (fates : List Fate)
  | edit (worktree : Worktree)

def restoreStep (digest : EffectInput → String) (stored : StoredTurn) (store : RestoreStore) :
    RestoreEvent → RestoreStore
  | .request env request fates => (restoreAgentTurn digest stored env request fates store).store
  | .recover env fates => (recoverPendingWorkspace stored digest env fates store).store
  | .edit worktree => { store with worktree := worktree }

def restoreRun (digest : EffectInput → String) (stored : StoredTurn) (store : RestoreStore)
    (events : List RestoreEvent) : RestoreStore :=
  events.foldl (restoreStep digest stored) store

/-- A store in which the turn was not restored. -/
def RestoreStore.initial (worktree : Worktree) : RestoreStore where
  worktree := worktree
  journals := fun _ => none
  completed := none
  marker := none
  notes := []

end Wts.TurnRestore
