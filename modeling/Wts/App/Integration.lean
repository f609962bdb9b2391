/-
Module: Wts.App.Integration
Purpose: Integration of a checked candidate into its original working files: the journal, the
  pending marker, the loop over the changed files, and the recovery after the host stopped.
-/
import Wts.App.Checkpoint
import Wts.Library.Interrupt
import Wts.Library.StdTypes

namespace Wts.Integration

open Checkpoint Interrupt Text
open Interrupt.Proc

def maxFiles : ℕ := 2048

/-! ### Data -/

inductive AgentWorkItemIntegrationPreflightState where
  | ready
  | blocked
  | integrated
deriving DecidableEq

inductive AgentWorkItemIntegrationResultState where
  | integrated
  | conflict
  | incomplete
deriving DecidableEq

structure AgentWorkItemIntegrationFile where
  filePath : String
  status : AgentTurnFileStatus
deriving DecidableEq

structure AgentWorkItemIntegrationBlocker where
  code : String
  filePath : Option String
  detail : String
deriving DecidableEq

structure AgentWorkItemIntegrationPreflight where
  schemaVersion : UInt32
  workSetId : Uuid
  taskId : Uuid
  workspaceId : Uuid
  repositoryId : String
  sourceConversationId : Uuid
  sourceRequestId : Uuid
  sourceAfterCheckpointId : Uuid
  candidateWorkspaceId : Uuid
  candidateConversationId : Uuid
  candidateRequestId : Uuid
  candidateAfterCheckpointId : Uuid
  state : AgentWorkItemIntegrationPreflightState
  effectDigest : String
  resumeRequestId : Option Uuid
  files : List AgentWorkItemIntegrationFile
  checkRunIds : List Uuid
  blockers : List AgentWorkItemIntegrationBlocker
  detail : String
  integratedAtUnixMs : Option Int64

structure IntegrateAgentWorkItemRequest where
  requestId : Uuid
  effectDigest : String
deriving DecidableEq

structure AgentWorkItemIntegrationResult where
  schemaVersion : UInt32
  workSetId : Uuid
  taskId : Uuid
  workspaceId : Uuid
  repositoryId : String
  integrationRequestId : Uuid
  state : AgentWorkItemIntegrationResultState
  files : List AgentWorkItemIntegrationFile
  blockers : List AgentWorkItemIntegrationBlocker
  detail : String
  integratedAtUnixMs : Option Int64
deriving DecidableEq

inductive VerificationCheckKind where
  | unit
  | integration
  | ui
  | contract
  | lint
  | build
  | custom
deriving DecidableEq

structure AcceptanceFileDigest where
  displayPath : String
  sha256 : String
deriving DecidableEq

structure VerificationCheck where
  id : String
  label : String
  kind : VerificationCheckKind
  repositoryId : Option String
  workingDirectory : String
  executable : String
  args : List String
  timeoutMs : UInt64
  outputLimitBytes : UInt64
  required : Bool
  environmentNames : List String
  acceptanceFiles : List AcceptanceFileDigest
deriving DecidableEq

structure VerifiedTurnCheck where
  check : VerificationCheck
  runId : Uuid
  completedAtUnixMs : Int64

structure VerifiedTurnChecks where
  afterCheckpointId : Uuid
  planRevision : UInt64
  checks : List VerifiedTurnCheck

structure IntegrationJournal where
  request : IntegrateAgentWorkItemRequest
  preflight : AgentWorkItemIntegrationPreflight
  proof : VerifiedTurnChecks
  targetIdentity : String
  sourceSessionId : Uuid
  candidateSessionId : Uuid
  result : AgentWorkItemIntegrationResult
  pendingFile : Option AgentWorkItemIntegrationFile
  finished : Bool

structure PendingIntegration where
  workSetId : Uuid
  taskId : Uuid
  workspaceId : Uuid
  requestId : Uuid

structure AgentTurnCheckpoint where
  checkpointId : Uuid
  headCommitOid : String
  branchName : String
  capturedAtUnixMs : Int64
  treeSha256 : String
  indexSha256 : String

/-- What integration uses of the receipt of a finished task. A session that ran has an identifier, and
`load_check_target` requires the checkpoint. -/
structure TurnReceipt where
  workspaceId : Uuid
  repositoryId : String
  sessionId : Uuid
  sourceContextSha256 : String
  after : AgentTurnCheckpoint
  sessionId_ne_zero : sessionId ≠ 0

structure TrustedTurnCheckTarget where
  target : String
  receipt : TurnReceipt
  expectedTargetIdentity : String

structure TrustedAgentWorkItem where
  workSetId : Uuid
  taskId : Uuid
  originConversationId : Uuid
  originRequestId : Uuid
  childConversationId : Uuid
  childRequestId : Uuid
  source : TrustedTurnCheckTarget
  candidate : TrustedTurnCheckTarget
  baseline : TakenCapture
  result : TakenCapture

/-- The proof that `integration_check_proof` gives for a candidate: some and at most 64 checks, at the
checkpoint of the candidate. -/
structure CheckProof (item : TrustedAgentWorkItem) where
  checks : VerifiedTurnChecks
  checkpoint : checks.afterCheckpointId = item.candidate.receipt.after.checkpointId
  nonempty : checks.checks ≠ []
  count : checks.checks.length ≤ 64

/-- What a run did to the store, for the record. -/
inductive IntegrationNote where
  | captured (capture : WorktreeCheckpointCapture)
  | wrote (path : String) (before after : Option FileState)
  | saved (journal : IntegrationJournal) (worktree : Worktree)

/-- The worktree of the original workspace, the journal of one work item, the marker of its workspace,
and the notes of the run so far. -/
structure IntegrationStore where
  worktree : Worktree
  journal : Option IntegrationJournal
  marker : Option PendingIntegration
  notes : List IntegrationNote

abbrev IntegrationProc := Proc IntegrationStore LocalWtsError

def capture : IntegrationProc (Option WorktreeCheckpointCapture) := do
  let store ← read
  note fun store => { store with notes := store.notes ++ [.captured store.worktree.contents] }
  return captureWorktreeCheckpoint store.worktree

variable (journal : IntegrationJournal)

/-- `save_journal`. The file is replaced as a whole. -/
def saveJournal : IntegrationProc Unit :=
  change .agentConversationUnavailable fun store =>
    { store with
      journal := some journal
      notes := store.notes ++ [.saved journal store.worktree] }

def writeMarker (marker : PendingIntegration) : IntegrationProc Unit :=
  change .agentConversationUnavailable fun store => { store with marker := some marker }

def removeMarker : IntegrationProc Unit :=
  change .agentConversationUnavailable fun store => { store with marker := none }

/-- `restore_worktree_bytes_checked`: whether the write is reported as done. -/
def restoreWorktreeBytesChecked (path : String) (content : Option String) (mode : Option UInt32)
    (expected : Option FileState) (expectedRootIdentity : String) : IntegrationProc Bool := do
  let store ← read
  if writeAllowed store.worktree path content mode expected expectedRootIdentity then
    tryChange fun store =>
      { store with
        worktree := store.worktree.withFile path (writtenState content mode)
        notes := store.notes ++
          [.wrote path (store.worktree.contents.stateAt path) (writtenState content mode)] }
  else
    return false

def isLowerHexDigit (c : Char) : Bool :=
  c.isDigit || ('a' ≤ c && c ≤ 'f')

def validDigest (value : String) : Bool :=
  match stripPrefix "sha256:" value with
  | none => false
  | some digits => digits.toList.length = 64 && digits.toList.all isLowerHexDigit

/-- What `read_journal` asks of a journal with the result `integrated`. -/
structure IntegratedJournal (journal : IntegrationJournal) : Prop where
  finished : journal.finished = true
  time : journal.result.integratedAtUnixMs.isSome
  blockers : journal.result.blockers = []
  pendingFile : journal.pendingFile = none
  files : journal.result.files.length = journal.preflight.files.length

structure ReadableJournal (workSetId taskId : Uuid) (journal : IntegrationJournal) : Prop where
  preflightSet : journal.preflight.workSetId = workSetId
  preflightTask : journal.preflight.taskId = taskId
  resultSet : journal.result.workSetId = workSetId
  resultTask : journal.result.taskId = taskId
  resultVersion : journal.result.schemaVersion = 1
  preflightVersion : journal.preflight.schemaVersion = 1
  requestId : journal.request.requestId ≠ 0
  sameRequest : journal.result.integrationRequestId = journal.request.requestId
  workspace : journal.result.workspaceId = journal.preflight.workspaceId
  repository : journal.result.repositoryId = journal.preflight.repositoryId
  digest : journal.request.effectDigest = journal.preflight.effectDigest
  preflightFiles : journal.preflight.files.length ≤ maxFiles
  resultFiles : journal.result.files.length ≤ journal.preflight.files.length
  listed : ∀ file ∈ journal.result.files, file ∈ journal.preflight.files
  pending : ∀ file ∈ journal.pendingFile.toList, file ∈ journal.preflight.files
  checkpoint : journal.proof.afterCheckpointId = journal.preflight.candidateAfterCheckpointId
  sourceSession : journal.sourceSessionId ≠ 0
  candidateSession : journal.candidateSessionId ≠ 0
  someChecks : journal.proof.checks ≠ []
  fewChecks : journal.proof.checks.length ≤ 64
  validDigest : validDigest journal.request.effectDigest
  validPaths : ∀ file ∈ journal.preflight.files, validFilePath file.filePath
  integrated : journal.result.state = .integrated → IntegratedJournal journal
  uniqueResult : (journal.result.files.map AgentWorkItemIntegrationFile.filePath).Nodup
  uniquePreflight : (journal.preflight.files.map AgentWorkItemIntegrationFile.filePath).Nodup

theorem integratedJournal_iff : IntegratedJournal journal ↔ journal.finished = true ∧
      journal.result.integratedAtUnixMs.isSome ∧ journal.result.blockers = [] ∧
      journal.pendingFile = none ∧
      journal.result.files.length = journal.preflight.files.length := by
  constructor
  · intro ⟨finished, time, blockers, pendingFile, files⟩
    exact ⟨finished, time, blockers, pendingFile, files⟩
  intro ⟨finished, time, blockers, pendingFile, files⟩
  exact ⟨finished, time, blockers, pendingFile, files⟩

instance (journal : IntegrationJournal) : Decidable (IntegratedJournal journal) :=
  decidable_of_iff' _ (integratedJournal_iff journal)

theorem readableJournal_iff (workSetId taskId : Uuid) (journal : IntegrationJournal) :
    ReadableJournal workSetId taskId journal ↔
      (journal.preflight.workSetId = workSetId ∧ journal.preflight.taskId = taskId ∧
        journal.result.workSetId = workSetId ∧ journal.result.taskId = taskId ∧
        journal.result.schemaVersion = 1 ∧ journal.preflight.schemaVersion = 1 ∧
        journal.request.requestId ≠ 0 ∧
        journal.result.integrationRequestId = journal.request.requestId ∧
        journal.result.workspaceId = journal.preflight.workspaceId ∧
        journal.result.repositoryId = journal.preflight.repositoryId ∧
        journal.request.effectDigest = journal.preflight.effectDigest ∧
        journal.preflight.files.length ≤ maxFiles ∧
        journal.result.files.length ≤ journal.preflight.files.length) ∧
      ((∀ file ∈ journal.result.files, file ∈ journal.preflight.files) ∧
        (∀ file ∈ journal.pendingFile.toList, file ∈ journal.preflight.files) ∧
        journal.proof.afterCheckpointId = journal.preflight.candidateAfterCheckpointId ∧
        journal.sourceSessionId ≠ 0 ∧ journal.candidateSessionId ≠ 0 ∧
        journal.proof.checks ≠ [] ∧ journal.proof.checks.length ≤ 64 ∧
        Integration.validDigest journal.request.effectDigest ∧
        (∀ file ∈ journal.preflight.files, validFilePath file.filePath) ∧
        (journal.result.state = .integrated → IntegratedJournal journal) ∧
        (journal.result.files.map AgentWorkItemIntegrationFile.filePath).Nodup ∧
        (journal.preflight.files.map AgentWorkItemIntegrationFile.filePath).Nodup) := by
  constructor
  · intro readable
    obtain ⟨h1, h2, h3, h4, h5, h6, h7, h8, h9, h10, h11, h12, h13, h14, h15, h16, h17, h18, h19,
      h20, h21, h22, h23, h24, h25⟩ := readable
    exact ⟨⟨h1, h2, h3, h4, h5, h6, h7, h8, h9, h10, h11, h12, h13⟩, h14, h15, h16, h17, h18, h19,
      h20, h21, h22, h23, h24, h25⟩
  intro ⟨⟨h1, h2, h3, h4, h5, h6, h7, h8, h9, h10, h11, h12, h13⟩, h14, h15, h16, h17, h18, h19,
    h20, h21, h22, h23, h24, h25⟩
  exact ⟨h1, h2, h3, h4, h5, h6, h7, h8, h9, h10, h11, h12, h13, h14, h15, h16, h17, h18, h19,
    h20, h21, h22, h23, h24, h25⟩

instance (workSetId taskId : Uuid) (journal : IntegrationJournal) :
    Decidable (ReadableJournal workSetId taskId journal) :=
  decidable_of_iff' _ (readableJournal_iff workSetId taskId journal)

/-- `read_journal`. The first error is that of `journal_path`. -/
def readJournal (workSetId taskId : Uuid) (saved : Option IntegrationJournal) :
    Except LocalWtsError (Option IntegrationJournal) :=
  if workSetId = 0 ∨ taskId = 0 then .error .invalidAgentConversation
  else
    match saved with
    | none => .ok none
    | some journal =>
      if ReadableJournal workSetId taskId journal then .ok (some journal)
      else .error .agentConversationUnavailable

/-! ### The preflight -/

def blocker (code : String) (filePath : Option String) (detail : String) :
    AgentWorkItemIntegrationBlocker where
  code := code
  filePath := filePath
  detail := detail

def changedFiles (baseline result : WorktreeCheckpointCapture) :
    List AgentWorkItemIntegrationFile :=
  (changedPaths baseline result).map fun path =>
    { filePath := path
      status :=
        match baseline.stateAt path, result.stateAt path with
        | none, some _ => .added
        | some _, none => .deleted
        | _, _ => .modified }

def changes (baseline result : WorktreeCheckpointCapture) :
    Except LocalWtsError (List AgentWorkItemIntegrationFile) := do
  let _ ← canonicalCapture baseline
  let _ ← canonicalCapture result
  if maxFiles < (changedFiles baseline result).length then
    .error .agentConversationLimit
  else
    return changedFiles baseline result

variable (item : TrustedAgentWorkItem)

/-- The preflight of an item before anything is checked. -/
def preflightOf (files : List AgentWorkItemIntegrationFile) :
    AgentWorkItemIntegrationPreflight where
  schemaVersion := 1
  workSetId := item.workSetId
  taskId := item.taskId
  workspaceId := item.source.receipt.workspaceId
  repositoryId := item.source.receipt.repositoryId
  sourceConversationId := item.originConversationId
  sourceRequestId := item.originRequestId
  sourceAfterCheckpointId := item.source.receipt.after.checkpointId
  candidateWorkspaceId := item.candidate.receipt.workspaceId
  candidateConversationId := item.childConversationId
  candidateRequestId := item.childRequestId
  candidateAfterCheckpointId := item.candidate.receipt.after.checkpointId
  state := .blocked
  effectDigest := ""
  resumeRequestId := none
  files := files
  checkRunIds := []
  blockers := []
  detail := "Check the isolated candidate and the original workspace before integration."
  integratedAtUnixMs := none

def initialPreflight :
    Except LocalWtsError AgentWorkItemIntegrationPreflight := do
  let files ← changes item.baseline.toWorktreeCheckpointCapture
    item.result.toWorktreeCheckpointCapture
  return preflightOf item files

/-- What `effect_digest` hashes. -/
structure EffectInput where
  workSetId : Uuid
  taskId : Uuid
  originConversationId : Uuid
  originRequestId : Uuid
  childConversationId : Uuid
  childRequestId : Uuid
  sourceContextSha256 : String
  candidateContextSha256 : String
  sourceAfter : AgentTurnCheckpoint
  candidateAfter : AgentTurnCheckpoint
  target : String
  targetIdentity : String
  baseline : CanonicalCapture
  result : CanonicalCapture
  files : List AgentWorkItemIntegrationFile
  descriptors : Option (Uuid × UInt64 × List VerificationCheck)

/-- `effect_digest`. `digest` is the SHA-256 of the JSON text. -/
def effectDigest (digest : EffectInput → String) (item : TrustedAgentWorkItem)
    (worktree : Worktree) (files : List AgentWorkItemIntegrationFile)
    (proof : Option VerifiedTurnChecks) : Except LocalWtsError String := do
  let identity ← targetIdentity worktree
  let baseline ← canonicalCapture item.baseline.toWorktreeCheckpointCapture
  let result ← canonicalCapture item.result.toWorktreeCheckpointCapture
  return digest {
    workSetId := item.workSetId
    taskId := item.taskId
    originConversationId := item.originConversationId
    originRequestId := item.originRequestId
    childConversationId := item.childConversationId
    childRequestId := item.childRequestId
    sourceContextSha256 := item.source.receipt.sourceContextSha256
    candidateContextSha256 := item.candidate.receipt.sourceContextSha256
    sourceAfter := item.source.receipt.after
    candidateAfter := item.candidate.receipt.after
    target := item.source.target
    targetIdentity := identity
    baseline := baseline
    result := result
    files := files
    descriptors := proof.map fun proof =>
      (proof.afterCheckpointId, proof.planRevision, proof.checks.map VerifiedTurnCheck.check) }

/-- The file of a path as the candidate has it. -/
def desiredFile (path : String) : Option CapturedWorktreeFile :=
  item.result.files[path]?

/-- A journal in which a file is confirmed. -/
def IntegrationJournal.confirm (file : AgentWorkItemIntegrationFile) :
    IntegrationJournal :=
  if file ∈ journal.result.files then journal
  else { journal with result := { journal.result with files := journal.result.files ++ [file] } }

/-- One step of the loop of `expected_target`: a confirmed file, and a pending file that is seen in its
desired state, is expected as the candidate has it. -/
def creditFile (current : WorktreeCheckpointCapture)
    (state : IntegrationJournal × WorktreeCheckpointCapture)
    (file : AgentWorkItemIntegrationFile) : IntegrationJournal × WorktreeCheckpointCapture :=
  let (journal, expected) := state
  if file ∈ journal.result.files ∨ (journal.pendingFile = some file ∧
      current.stateAt file.filePath = item.result.stateAt file.filePath) then
    (journal.confirm file, expected.override file.filePath (desiredFile item file.filePath))
  else
    state

def expectedTarget (journal : IntegrationJournal)
    (current : WorktreeCheckpointCapture) : IntegrationJournal × WorktreeCheckpointCapture :=
  journal.preflight.files.foldl (creditFile item current)
    (journal, item.baseline.toWorktreeCheckpointCapture)

def validateJournalIdentity (digest : EffectInput → String) (item : TrustedAgentWorkItem)
    (worktree : Worktree) (journal : IntegrationJournal) : Except LocalWtsError Unit := do
  let current ← initialPreflight item
  let identity ← targetIdentity worktree
  let expected ← effectDigest digest item worktree current.files (some journal.proof)
  if journal.preflight.workspaceId ≠ current.workspaceId ∨
      journal.preflight.repositoryId ≠ current.repositoryId ∨
      journal.preflight.sourceConversationId ≠ current.sourceConversationId ∨
      journal.preflight.sourceRequestId ≠ current.sourceRequestId ∨
      journal.preflight.sourceAfterCheckpointId ≠ current.sourceAfterCheckpointId ∨
      journal.preflight.candidateWorkspaceId ≠ current.candidateWorkspaceId ∨
      journal.preflight.candidateConversationId ≠ current.candidateConversationId ∨
      journal.preflight.candidateRequestId ≠ current.candidateRequestId ∨
      journal.preflight.candidateAfterCheckpointId ≠ current.candidateAfterCheckpointId ∨
      journal.preflight.files ≠ current.files ∨ journal.targetIdentity ≠ identity ∨
      journal.sourceSessionId ≠ item.source.receipt.sessionId ∨
      journal.candidateSessionId ≠ item.candidate.receipt.sessionId ∨
      journal.request.effectDigest ≠ expected then
    .error .agentConversationConflict
  else
    return ()

/-- What one attempt gets from outside: loading the candidate, the verification lock, the leases and
idle sessions, a restore that waits in the workspace, the saved files that can be read, the check
proof, whether the candidate still matches its capture, the parent folders that can be prepared, and
the clock. -/
structure AttemptEnv (item : TrustedAgentWorkItem) where
  candidate : Except LocalWtsError Unit
  verificationLock : Except LocalWtsError Unit
  leases : Except LocalWtsError Unit
  restorePending : Bool
  savedBlobs : String → Bool
  proof : Except LocalWtsError (CheckProof item)
  candidateMatches : Bool
  parentReady : String → Bool
  clock : Int64

def savedContent (capture : WorktreeCheckpointCapture) (path : String) : Option String :=
  (capture.stateAt path).map FileState.sha256

section Attempt

variable (digest : EffectInput → String) (item : TrustedAgentWorkItem) (env : AttemptEnv item)

def operationLeases (journal : Option IntegrationJournal) (marker : Option PendingIntegration) :
    Except LocalWtsError Unit := do
  env.leases
  match marker with
  | some marker =>
    match journal with
    | none => .error .agentConversationBusy
    | some saved =>
      if marker.workspaceId ≠ item.source.receipt.workspaceId ∨
          marker.workSetId ≠ item.workSetId ∨ marker.taskId ≠ item.taskId ∨
          marker.requestId ≠ saved.request.requestId ∨ env.restorePending then
        .error .agentConversationBusy
      else
        return ()
  | none => if env.restorePending then .error .agentConversationBusy else return ()

/-- `matches_check_target` of the original workspace. -/
def sourceMatches (worktree : Worktree) : Bool :=
  worktree.identity = some item.source.expectedTargetIdentity && worktree.gitAnswers &&
    matchesCapture item.baseline.toWorktreeCheckpointCapture worktree.contents

def preflightBlockers (files : List AgentWorkItemIntegrationFile) (resumed : Bool)
    (expected : WorktreeCheckpointCapture) (worktree : Worktree) :
    List AgentWorkItemIntegrationBlocker :=
  (if files.any fun file =>
      (savedContent item.baseline.toWorktreeCheckpointCapture file.filePath).any
        (fun hash => !env.savedBlobs hash) ||
      (savedContent item.result.toWorktreeCheckpointCapture file.filePath).any
        (fun hash => !env.savedBlobs hash) then
    [blocker "captureUnavailable" none
      "Saved files for this integration are unavailable. Review the current files and run a new task to capture a new result."]
  else []) ++
  (match env.proof with
    | .ok _ => []
    | .error .verificationCheckUnavailable =>
      [blocker "noChecks" none
        "This candidate has no supported host checks. Open its workspace verification to add a supported check, then run it."]
    | .error _ =>
      [blocker "checksNotPassed" none
        "Run every saved check in the candidate workspace. Each latest result must pass against this candidate's recorded files and current check plan."]) ++
  (if !matchesCapture expected worktree.contents || worktree.identity = none ||
      (!resumed && !sourceMatches item worktree) then
    [blocker "targetChanged" none
      "The original workspace changed after this work set started. Review those changes. Start a new work set from the current result to keep later edits."]
  else []) ++
  (if !env.candidateMatches then
    [blocker "candidateChanged" none
      "The candidate changed after its saved result. Review its current files and run a new task to capture them."]
  else []) ++
  (if files = [] then
    [blocker "noChanges" none
      "This candidate has no file changes to integrate. Keep it as a comparison or select another candidate."]
  else [])

/-- The preflight with its blockers, digest and state. -/
def assessedPreflight (initial : AgentWorkItemIntegrationPreflight) (resumed : Option Uuid)
    (blockers : List AgentWorkItemIntegrationBlocker) (effect : String) :
    AgentWorkItemIntegrationPreflight :=
  { initial with
    state := if blockers = [] then .ready else .blocked
    effectDigest := effect
    resumeRequestId := resumed
    checkRunIds := match env.proof with
      | .ok proof => proof.checks.checks.map VerifiedTurnCheck.runId
      | .error _ => []
    blockers := blockers
    detail :=
      if blockers = [] then
        if resumed.isSome then
          "Continue this integration. Completed file effects and the remaining files are checked. Keep other editors and Git tools idle until it finishes."
        else
          "Apply this checked candidate's file changes to the original workspace. Existing files, Git history, and the index stay unchanged. Keep other editors and Git tools idle until it finishes."
      else
        "Resolve the listed conditions before integration. The candidate and its saved changes remain available." }

/-- The saved journal, if any, belongs to this item. -/
def validatePrevious (worktree : Worktree) : Option IntegrationJournal → Except LocalWtsError Unit
  | none => .ok ()
  | some journal => validateJournalIdentity digest item worktree journal

def expectedCapture (current : WorktreeCheckpointCapture) :
    Option IntegrationJournal → WorktreeCheckpointCapture
  | none => item.baseline.toWorktreeCheckpointCapture
  | some journal => (expectedTarget item journal current).2

/-- The rest of `current_preflight`, once the worktree is captured. The journal comes back with the
files that `expected_target` credits. -/
def assessPreflight (initial : AgentWorkItemIntegrationPreflight)
    (journal : Option IntegrationJournal) (worktree : Worktree) :
    Except LocalWtsError (AgentWorkItemIntegrationPreflight × Option IntegrationJournal) := do
  validatePrevious digest item worktree journal
  let effect ← effectDigest digest item worktree initial.files
    (env.proof.toOption.map CheckProof.checks)
  return (assessedPreflight item env initial
      (journal.map fun journal => journal.request.requestId)
      (preflightBlockers item env initial.files journal.isSome
        (expectedCapture item worktree.contents journal) worktree) effect,
    journal.map fun journal => (expectedTarget item journal worktree.contents).1)

def currentPreflight (journal : Option IntegrationJournal) :
    IntegrationProc (AgentWorkItemIntegrationPreflight × Option IntegrationJournal) := do
  let initial ← ofExcept (initialPreflight item)
  match ← capture with
  | none => fail .agentConversationUnavailable
  | some _ =>
    let store ← read
    ofExcept (assessPreflight digest item env initial journal store.worktree)

def resultFor (preflight : AgentWorkItemIntegrationPreflight) (requestId : Uuid) :
    AgentWorkItemIntegrationResult where
  schemaVersion := 1
  workSetId := preflight.workSetId
  taskId := preflight.taskId
  workspaceId := preflight.workspaceId
  repositoryId := preflight.repositoryId
  integrationRequestId := requestId
  state := .conflict
  files := []
  blockers := preflight.blockers
  detail := preflight.detail
  integratedAtUnixMs := none

variable (journal : IntegrationJournal)

def IntegrationJournal.block (blocker : AgentWorkItemIntegrationBlocker) : IntegrationJournal :=
  { journal with result := { journal.result with blockers := journal.result.blockers ++ [blocker] } }

/-- The loop of `apply_integration` over the listed files. -/
def applyFiles : List AgentWorkItemIntegrationFile → IntegrationJournal →
    IntegrationProc IntegrationJournal
  | [], journal => return journal
  | file :: rest, journal =>
    if file ∈ journal.result.files then
      applyFiles rest journal
    else do
      let store ← read
      let identity ← ofExcept (targetIdentity store.worktree)
      if identity ≠ journal.targetIdentity then
        fail .agentConversationConflict
      else
        let journal := { journal with pendingFile := some file }
        saveJournal journal
        if (savedContent item.result.toWorktreeCheckpointCapture file.filePath).isSome ∧
            ¬env.parentReady file.filePath then
          return journal.block (blocker "fileConflict" (some file.filePath)
            "The destination folder is unavailable or changed. Review the listed effects, then continue this integration.")
        else
          let applied ← restoreWorktreeBytesChecked file.filePath
            (savedContent item.result.toWorktreeCheckpointCapture file.filePath)
            ((item.result.stateAt file.filePath).map FileState.mode)
            (item.baseline.stateAt file.filePath) journal.targetIdentity
          if applied then
            let journal :=
              { journal with
                result := { journal.result with files := journal.result.files ++ [file] }
                pendingFile := none }
            saveJournal journal
            applyFiles rest journal
          else
            return journal.block (blocker "fileConflict" (some file.filePath)
              "This file or its folder changed. The remaining files were not applied. Review the listed effects, then continue this integration.")

/-- The baseline with every listed file as the candidate has it. -/
def finalExpected (files : List AgentWorkItemIntegrationFile) : WorktreeCheckpointCapture :=
  files.foldl
    (fun expected file => expected.override file.filePath (desiredFile item file.filePath))
    item.baseline.toWorktreeCheckpointCapture

/-- The check of the final state, made when nothing blocked the loop. -/
def checkFinalState : IntegrationProc IntegrationJournal :=
  if journal.result.blockers = [] then do
    let changed := journal.block (blocker "finalStateChanged" none
      "Could not confirm the final file state. Review the listed effects and current files, then continue this integration.")
    match ← capture with
    | none => return changed
    | some current =>
      if matchesCapture (finalExpected item journal.preflight.files) current then
        let store ← read
        let identity ← ofExcept (targetIdentity store.worktree)
        return if identity ≠ journal.targetIdentity then changed else journal
      else
        return changed
  else
    return journal

/-- The journal that `apply_integration` saves at its end. -/
def closeJournal (clock : Int64) (journal : IntegrationJournal) : IntegrationJournal :=
  if journal.result.blockers = [] then
    { journal with
      finished := true
      result := { journal.result with
        state := .integrated
        integratedAtUnixMs := some clock
        detail := "Applied the listed candidate files and checked the final state. Git history, the index, and other original files remain unchanged. Alternative candidates remain available." } }
  else
    { journal with
      finished := true
      result := { journal.result with
        state := .incomplete
        detail := "Integration stopped. Review the listed effects and conditions. Continue the same integration to apply the remaining files. Candidate snapshots remain available." } }

/-- The first part of `apply_integration`: the loop, when the worktree is as the journal expects. -/
def applyExpected (expected current : WorktreeCheckpointCapture) :
    IntegrationProc IntegrationJournal :=
  let changed := journal.block (blocker "targetChanged" none
    "The original workspace changed before integration. Review the current files before you continue.")
  if matchesCapture expected current then do
    let store ← read
    let identity ← ofExcept (targetIdentity store.worktree)
    if identity ≠ journal.targetIdentity then
      return changed
    -- Every saved file is read before the first file is written.
    else if journal.preflight.files.any fun file =>
        (savedContent item.result.toWorktreeCheckpointCapture file.filePath).any
          fun hash => !env.savedBlobs hash then
      fail .agentConversationUnavailable
    else
      applyFiles item env journal.preflight.files journal
  else
    return changed

def applyIntegration : IntegrationProc IntegrationJournal := do
  match ← capture with
  | none => fail .agentConversationUnavailable
  | some current =>
    let (credited, expected) := expectedTarget item journal current
    let applied ← applyExpected item env credited expected current
    let checked ← checkFinalState item applied
    let closed := closeJournal env.clock checked
    saveJournal closed
    removeMarker
    return closed

/-! ### An attempt -/

variable (request : IntegrateAgentWorkItemRequest)

/-- The answer of a saved journal: another request conflicts with it, and a finished integration is
replayed. -/
def savedAnswer :
    Option IntegrationJournal → Except LocalWtsError (Option AgentWorkItemIntegrationResult)
  | none => .ok none
  | some journal =>
    if journal.request ≠ request then .error .agentConversationConflict
    else if journal.finished ∧ journal.result.state = .integrated then .ok (some journal.result)
    else .ok none

/-- The result when the preflight does not allow the request. Nothing is saved. -/
def notStarted (result : AgentWorkItemIntegrationResult) (previous : Option IntegrationJournal) :
    AgentWorkItemIntegrationResult :=
  let result := if result.blockers = [] then
      { result with
        blockers := [blocker "preflightChanged" none
          "The integration preview changed. Check the candidate again before integration."] }
    else result
  match previous with
  | none => result
  | some previous =>
    { result with
      state := .incomplete
      files := previous.result.files
      detail := "The earlier integration remains incomplete. Its confirmed file effects are listed. Review the current conditions before you continue." }

/-- The journal with which an attempt begins. -/
def openJournal (preflight : AgentWorkItemIntegrationPreflight) (proof : VerifiedTurnChecks)
    (identity : String) : Option IntegrationJournal → IntegrationJournal
  | some journal =>
    { journal with
      finished := false
      result := { journal.result with blockers := [] }
      proof := proof }
  | none =>
    { request := request
      preflight := preflight
      proof := proof
      targetIdentity := identity
      sourceSessionId := item.source.receipt.sessionId
      candidateSessionId := item.candidate.receipt.sessionId
      result := { resultFor preflight request.requestId with
        state := .incomplete
        detail := "Integration is in progress. Keep WTS open until it finishes." }
      pendingFile := none
      finished := false }

def journalIdentity (worktree : Worktree) :
    Option IntegrationJournal → Except LocalWtsError String
  | some journal => .ok journal.targetIdentity
  | none => targetIdentity worktree

/-- The writing part of an attempt: the journal, the marker, and then the files. -/
def runJournal :
    IntegrationProc AgentWorkItemIntegrationResult := do
  saveJournal journal
  writeMarker
    { workSetId := item.workSetId
      taskId := item.taskId
      workspaceId := item.source.receipt.workspaceId
      requestId := journal.request.requestId }
  let applied ← applyIntegration item env journal
  return applied.result

/-- An attempt after the saved journal gave no answer. -/
def continueIntegration
    (previous : Option IntegrationJournal) : IntegrationProc AgentWorkItemIntegrationResult := do
  let store ← read
  ofExcept (operationLeases item env previous store.marker)
  let (preflight, previous) ← currentPreflight digest item env previous
  if preflight.state ≠ .ready ∨ preflight.effectDigest ≠ request.effectDigest then
    return notStarted (resultFor preflight request.requestId) previous
  else
    match env.proof with
    | .error _ => fail .agentConversationConflict
    | .ok proof =>
      let store ← read
      let identity ← ofExcept (journalIdentity store.worktree previous)
      runJournal item env (openJournal item request preflight proof.checks identity previous)

def integrateAgentWorkItem :
    IntegrationProc AgentWorkItemIntegrationResult :=
  if request.requestId = 0 ∨ ¬validDigest request.effectDigest then
    fail .invalidAgentConversation
  else do
    let store ← read
    let saved ← ofExcept (readJournal item.workSetId item.taskId store.journal)
    match ← ofExcept (savedAnswer request saved) with
    | some result => return result
    | none =>
      ofExcept env.candidate
      ofExcept env.verificationLock
      -- The journal is read again under the locks.
      let store ← read
      let previous ← ofExcept (readJournal item.workSetId item.taskId store.journal)
      match ← ofExcept (savedAnswer request previous) with
      | some result => return result
      | none => continueIntegration digest item env request previous

end Attempt

/-- What a recovery gets from outside: the operation lease and the records of both tasks. -/
structure RecoverEnv where
  lease : Except LocalWtsError Unit
  records : Except LocalWtsError Unit

/-- The checks of the records of both tasks against the journal. -/
def recordsAgree (journal : IntegrationJournal) : Bool :=
  item.source.receipt.sessionId = journal.sourceSessionId &&
    item.candidate.receipt.sessionId = journal.candidateSessionId &&
    item.originConversationId = journal.preflight.sourceConversationId &&
    item.originRequestId = journal.preflight.sourceRequestId &&
    item.source.receipt.repositoryId = journal.preflight.repositoryId &&
    item.childConversationId = journal.preflight.candidateConversationId &&
    item.childRequestId = journal.preflight.candidateRequestId &&
    item.candidate.receipt.workspaceId = journal.preflight.candidateWorkspaceId &&
    item.source.receipt.after.checkpointId = journal.preflight.sourceAfterCheckpointId &&
    item.candidate.receipt.after.checkpointId = journal.preflight.candidateAfterCheckpointId &&
    item.source.expectedTargetIdentity = journal.targetIdentity

/-- The pending file of a stopped integration, judged by its state in the worktree. -/
def settlePending (current : Option WorktreeCheckpointCapture)
    (journal : IntegrationJournal) : IntegrationJournal :=
  match journal.pendingFile with
  | none => journal
  | some file =>
    let seen (state : Option FileState) : Bool :=
      current.any fun current => current.stateAt file.filePath = state
    if seen (item.result.stateAt file.filePath) then
      { journal.confirm file with pendingFile := none }
    else if seen (item.baseline.stateAt file.filePath) then
      { journal with pendingFile := none }
    else
      journal.block (blocker "fileEffectUnknown" (some file.filePath)
        "This file changed before the pending write was confirmed. Review its current contents before you continue.")

/-- The capture that a recovery takes when a file is pending and the root is the expected one. -/
def captureForRecovery :
    IntegrationProc (Option WorktreeCheckpointCapture) := do
  let store ← read
  if journal.pendingFile.isSome ∧ store.worktree.identity = some journal.targetIdentity then
    capture
  else
    return none

def recoveredJournal (current : Option WorktreeCheckpointCapture)
    (journal : IntegrationJournal) : IntegrationJournal :=
  let settled := settlePending item current
    { journal with result := { journal.result with blockers := [] } }
  let stopped := { settled with finished := true }.block (blocker "hostStopped" none
    "The host stopped before integration finished. The confirmed file effects are saved. Review them, then continue the same integration if its expected files still match.")
  { stopped with
    result := { stopped.result with
      state := .incomplete
      detail := "Integration stopped before its final result was saved. The workspace is available. Saved file effects remain attached to this integration." } }

/-- `recover_pending_workspace` for the workspace of the item. Only the records of the item are kept
here, so a marker or a journal of another one finds none. -/
def recoverPendingWorkspace (env : RecoverEnv) :
    IntegrationProc Unit := do
  let store ← read
  match store.marker with
  | none => return ()
  | some marker =>
    if marker.workSetId ≠ item.workSetId ∨ marker.taskId ≠ item.taskId then
      fail .agentConversationUnavailable
    else
      match ← ofExcept (readJournal item.workSetId item.taskId store.journal) with
      | none => fail .agentConversationUnavailable
      | some journal =>
        if marker.workspaceId ≠ item.source.receipt.workspaceId ∨
            journal.preflight.workspaceId ≠ item.source.receipt.workspaceId ∨
            journal.request.requestId ≠ marker.requestId then
          fail .agentConversationUnavailable
        else
          ofExcept env.lease
          if journal.finished then
            removeMarker
          else
            ofExcept env.records
            if ¬recordsAgree item journal then
              fail .agentConversationUnavailable
            else
              let files ← ofExcept (changes item.baseline.toWorktreeCheckpointCapture
                item.result.toWorktreeCheckpointCapture)
              if files ≠ journal.preflight.files then
                fail .agentConversationUnavailable
              else
                let current ← captureForRecovery journal
                saveJournal (recoveredJournal item current journal)
                removeMarker

/-- An attempt or a recovery with what it gets from outside and the fates of its writes, or an edit of
the worktree from outside. -/
inductive IntegrationEvent (item : TrustedAgentWorkItem) where
  | attempt (env : AttemptEnv item) (request : IntegrateAgentWorkItemRequest) (fates : List Fate)
  | recover (env : RecoverEnv) (fates : List Fate)
  | edit (worktree : Worktree)

def integrationStep (digest : EffectInput → String) (item : TrustedAgentWorkItem)
    (store : IntegrationStore) : IntegrationEvent item → IntegrationStore
  | .attempt env request fates => (integrateAgentWorkItem digest item env request fates store).store
  | .recover env fates => (recoverPendingWorkspace item env fates store).store
  | .edit worktree => { store with worktree := worktree }

def integrationRun (digest : EffectInput → String) (item : TrustedAgentWorkItem)
    (store : IntegrationStore) (events : List (IntegrationEvent item)) : IntegrationStore :=
  events.foldl (integrationStep digest item) store

/-- A store in which the work item has not been integrated. -/
def IntegrationStore.initial (worktree : Worktree) : IntegrationStore where
  worktree := worktree
  journal := none
  marker := none
  notes := []

end Wts.Integration
