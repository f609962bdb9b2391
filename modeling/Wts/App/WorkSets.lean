/-
Module: Wts.App.WorkSets
Purpose: Work sets of isolated tasks: the requests that are accepted, the stored set, and the input of a
  task, merged from the results of its prerequisites.
-/
import Wts.App.TurnRestore

namespace Wts.WorkSets

open Checkpoint Text
open Std (ExtTreeMap ExtTreeSet)
open TurnRestore (AgentTurnChangesState AgentTurnChangesObservation)

inductive AgentWorkSetKind where
  | tasks
  | alternatives
deriving DecidableEq

inductive AgentWorkItemState where
  | pending
  | preparing
  | queued
  | running
  | completed
  | failed
  | blocked
  | cancelled
deriving DecidableEq

structure AgentWorkItemRequest where
  taskId : Uuid
  title : String
  prompt : String
  dependsOn : List Uuid

structure CreateAgentWorkSetRequest where
  requestId : Uuid
  expectedAfterCheckpointId : Uuid
  kind : AgentWorkSetKind
  tasks : List AgentWorkItemRequest

structure AgentWorkItemCancelRequest where
  requestId : Uuid
  expectedRevision : ℕ

structure AgentWorkItem where
  taskId : Uuid
  title : String
  prompt : String
  dependsOn : List Uuid
  state : AgentWorkItemState
  conversationId : Uuid
  requestId : Uuid
  workspaceId : Option Uuid
  repositoryId : Option String
  workspaceDisplayPath : Option String
  afterCheckpointId : Option Uuid
  detail : String

structure AgentWorkSet where
  schemaVersion : UInt32
  workSetId : Uuid
  conversationId : Uuid
  requestId : Uuid
  workspaceId : Uuid
  repositoryId : String
  sourceCheckpointId : Uuid
  sourceContextSha256 : String
  kind : AgentWorkSetKind
  revision : ℕ
  createdAtUnixMs : Int64
  updatedAtUnixMs : Int64
  lastMutationRequestId : Option Uuid
  tasks : List AgentWorkItem
  detail : String

structure CancelReceipt where
  request : AgentWorkItemCancelRequest
  taskId : Uuid
  result : AgentWorkSet

structure StoredWorkSet where
  request : CreateAgentWorkSetRequest
  view : AgentWorkSet
  sourceSessionId : Uuid
  sourceTargetIdentity : String
  cancellations : List CancelReceipt

/-- The checks of `validate_request` on one task, after the tasks with the given ids. -/
def validTask (kind : AgentWorkSetKind) (ids : List Uuid) (task : AgentWorkItemRequest) : Bool :=
  task.taskId ≠ 0 && task.taskId ∉ ids && trim task.title ≠ "" && task.title.utf8ByteSize ≤ 160 &&
    !task.title.toList.any isControl && trim task.prompt ≠ "" &&
    task.prompt.utf8ByteSize ≤ 16384 &&
    !(task.prompt.toList.any fun c => isControl c && !(c == '\n' || c == '\r' || c == '\t')) &&
    task.dependsOn.length ≤ 7 && task.dependsOn.dedup.length = task.dependsOn.length &&
    !(kind = .alternatives && task.dependsOn ≠ [])

/-- The first loop of `validate_request`. -/
def validTasks (kind : AgentWorkSetKind) : List Uuid → List AgentWorkItemRequest → Bool
  | _, [] => true
  | ids, task :: rest => validTask kind ids task && validTasks kind (task.taskId :: ids) rest

/-- A task is done once its prerequisites are. -/
def takeReady (done : List Uuid) (task : AgentWorkItemRequest) : List Uuid :=
  if task.dependsOn.all (· ∈ done) then done.insert task.taskId else done

/-- The second loop of `validate_request`: it goes on while a pass over the tasks adds to the done
ones. -/
def ordered (tasks : List AgentWorkItemRequest) : ℕ → List Uuid → Bool
  | 0, _ => false
  | fuel + 1, done =>
    let next := tasks.foldl takeReady done
    if next.length = tasks.length then true
    else if done.length = next.length then false
    else ordered tasks fuel next

/-- What the same loop has come to after a number of passes: nothing while it still goes on. -/
def orderPasses (tasks : List AgentWorkItemRequest) : ℕ → List Uuid → Option Bool
  | 0, _ => none
  | passes + 1, done =>
    let next := tasks.foldl takeReady done
    if next.length = tasks.length then some true
    else if done.length = next.length then some false
    else orderPasses tasks passes next

def validateRequest (request : CreateAgentWorkSetRequest) : Except LocalWtsError Unit :=
  if request.requestId = 0 ∨ request.expectedAfterCheckpointId = 0 ∨ request.tasks = [] ∨
      8 < request.tasks.length then
    .error .invalidAgentConversation
  else if ¬validTasks request.kind [] request.tasks then
    .error .invalidAgentConversation
  else if ordered request.tasks (request.tasks.length + 1) [] then
    .ok ()
  else
    .error .invalidAgentConversation

/-- A stored task is the requested one. -/
def sameTask (task : AgentWorkItem) (request : AgentWorkItemRequest) : Bool :=
  task.taskId = request.taskId && task.title = request.title && task.prompt = request.prompt &&
    task.dependsOn = request.dependsOn && task.conversationId ≠ 0 && task.requestId ≠ 0

def hasCancelled (tasks : List AgentWorkItem) (taskId : Uuid) : Bool :=
  tasks.any fun task => task.taskId = taskId && task.state = .cancelled

/-- The checks of `read_set` on the receipts of cancellations. -/
def checkReceipts (id : Uuid) (set : StoredWorkSet) : List Uuid → List CancelReceipt → Bool
  | _, [] => true
  | mutations, receipt :: rest =>
    receipt.request.requestId ≠ 0 && receipt.request.requestId ∉ mutations &&
      receipt.result.workSetId = id && receipt.result.conversationId = set.view.conversationId &&
      receipt.result.requestId = set.view.requestId &&
      receipt.result.lastMutationRequestId = some receipt.request.requestId &&
      receipt.result.revision ≤ set.view.revision &&
      hasCancelled receipt.result.tasks receipt.taskId &&
      hasCancelled set.view.tasks receipt.taskId &&
      checkReceipts id set (receipt.request.requestId :: mutations) rest

def checkSet (id : Uuid) (set : StoredWorkSet) : Bool :=
  (validateRequest set.request).isOk && set.view.schemaVersion = 1 && set.view.workSetId = id &&
    set.request.requestId = id && set.view.tasks.length = set.request.tasks.length &&
    set.view.revision ≠ 0 && set.view.sourceCheckpointId = set.request.expectedAfterCheckpointId &&
    set.cancellations.length ≤ 8 && set.view.kind = set.request.kind &&
    set.view.conversationId ≠ 0 && set.view.requestId ≠ 0 &&
    ((set.view.tasks.zip set.request.tasks).all fun (task, request) => sameTask task request) &&
    checkReceipts id set [] set.cancellations

/-! ### The input of a task -/

def sameFile (left right : Option CapturedWorktreeFile) : Bool :=
  fileState left = fileState right

/-- `ancestor`, to a given depth of the recursion. -/
def ancestorWithin (tasks : List AgentWorkItem) (ancestor : Uuid) : ℕ → Uuid → Bool
  | 0, _ => false
  | depth + 1, id => (tasks.find? fun task => task.taskId = id).any fun task =>
    task.dependsOn.contains ancestor || task.dependsOn.any (ancestorWithin tasks ancestor depth)

/-- `ancestor`. Prerequisites have no cycle, so the recursion is at most as deep as the set is long. -/
def ancestor (tasks : List AgentWorkItem) (ancestor id : Uuid) : Bool :=
  ancestorWithin tasks ancestor tasks.length id

/-- A call of `ancestor` that may nest to a given depth: nothing while calls are still open. -/
def ancestorCall (tasks : List AgentWorkItem) (ancestor : Uuid) : ℕ → Uuid → Option Bool
  | 0, _ => none
  | depth + 1, id =>
    match tasks.find? fun task => task.taskId = id with
    | none => some false
    | some task =>
      if task.dependsOn.contains ancestor then some true
      else task.dependsOn.anyM (ancestorCall tasks ancestor depth)

/-- What a work set uses of a receipt. -/
structure TurnChanges where
  sessionId : Uuid
  workspaceId : Uuid
  repositoryId : String
  sourceContextSha256 : String
  state : AgentTurnChangesState
  observation : AgentTurnChangesObservation
  afterCheckpointId : Option Uuid

/-- What a work set uses of a stored turn. -/
structure TurnRecord where
  targetIdentity : String
  after : Option WorktreeCheckpointCapture

structure WorkItemSource where
  workSetId : Uuid
  taskId : Uuid
  originConversationId : Uuid
  originRequestId : Uuid
deriving DecidableEq

/-- What `load_check_target` gives: the receipt and the source of the conversation. -/
structure CheckTarget where
  receipt : TurnChanges
  source : Option WorkItemSource

/-- What a merge gets from outside: receipts, stored turns, whether the set can be read back, the
targets of checks and whether their worktrees still match, and the folders of the turns. -/
structure MergeEnv where
  turnChanges : Uuid → Uuid → Except LocalWtsError TurnChanges
  record : Uuid → Except LocalWtsError TurnRecord
  readable : Except LocalWtsError Unit
  checkTarget : Uuid → Uuid → Except LocalWtsError CheckTarget
  matchesTarget : CheckTarget → Except LocalWtsError Bool
  turnDir : Uuid → String

/-- `ok_or` with a conflict. -/
def orConflict {α : Type} : Option α → Except LocalWtsError α
  | some value => .ok value
  | none => .error .agentConversationConflict

section Merge

variable (env : MergeEnv) (set : StoredWorkSet)

def sourceRecord : Except LocalWtsError WorktreeCheckpointCapture := do
  let receipt ← env.turnChanges set.view.conversationId set.view.requestId
  if receipt.sessionId ≠ set.sourceSessionId ∨
      receipt.afterCheckpointId ≠ some set.view.sourceCheckpointId ∨
      receipt.sourceContextSha256 ≠ set.view.sourceContextSha256 ∨
      receipt.workspaceId ≠ set.view.workspaceId ∨
      receipt.repositoryId ≠ set.view.repositoryId ∨ receipt.state ≠ .ready ∨
      receipt.observation ≠ .normal then
    .error .agentConversationConflict
  else
    let stored ← env.record set.sourceSessionId
    if stored.targetIdentity ≠ set.sourceTargetIdentity then
      .error .agentConversationConflict
    else
      let after ← orConflict stored.after
      let _ ← canonicalCapture after
      return after

/-- What a merge uses of a `TrustedAgentWorkItem`. -/
structure Candidate where
  candidate : CheckTarget
  result : WorktreeCheckpointCapture
  resultBlobDir : String

/-- Whether a candidate is the result of the task. -/
def isCandidateOf (task : AgentWorkItem) (workspaceId : Uuid) (candidate : CheckTarget) : Bool :=
  candidate.receipt.workspaceId = workspaceId &&
    some candidate.receipt.repositoryId = task.repositoryId &&
    candidate.receipt.afterCheckpointId = task.afterCheckpointId &&
    candidate.source = some
      { workSetId := set.view.workSetId
        taskId := task.taskId
        originConversationId := set.view.conversationId
        originRequestId := set.view.requestId }

/-- `load_integration_candidate`. The set was saved before, so what is read back is the set itself. -/
def loadIntegrationCandidate (taskId : Uuid) : Except LocalWtsError Candidate := do
  env.readable
  match set.view.tasks.find? fun task => task.taskId = taskId with
  | none => .error .agentConversationNotFound
  | some task =>
    if task.state ≠ .completed then
      .error .agentConversationConflict
    else
      let _ ← sourceRecord env set
      let _ ← env.checkTarget set.view.conversationId set.view.requestId
      let candidate ← env.checkTarget task.conversationId task.requestId
      let workspaceId ← orConflict task.workspaceId
      if ¬isCandidateOf set task workspaceId candidate then
        .error .agentConversationConflict
      else
        let record ← env.record candidate.receipt.sessionId
        let result ← orConflict record.after
        let _ ← canonicalCapture result
        return {
          candidate := candidate
          result := result
          resultBlobDir := env.turnDir candidate.receipt.sessionId }

/-- The desired files so far and the folders of their contents. -/
abbrev MergeState := WorktreeCheckpointCapture × ExtTreeMap String String

variable (original : WorktreeCheckpointCapture)

def mergePath (candidate : Candidate) (state : MergeState)
    (path : String) : Except LocalWtsError MergeState :=
  let incoming := candidate.result.files[path]?
  if sameFile original.files[path]? incoming then
    .ok state
  else if ¬sameFile state.1.files[path]? original.files[path]? ∧
      ¬sameFile state.1.files[path]? incoming then
    .error .agentConversationConflict
  else
    .ok (state.1.override path incoming,
      match fileState incoming with
      | some file => state.2.insert file.sha256 candidate.resultBlobDir
      | none => state.2)

/-- The merge of a candidate, over the paths of the original and of the candidate in order. -/
def mergeCandidate (candidate : Candidate) (state : MergeState) : Except LocalWtsError MergeState :=
  (ExtTreeSet.ofList (original.files.keys ++ candidate.result.files.keys)).toList.foldlM
    (mergePath original candidate) state

/-- One prerequisite of the loop of `desired_input`. -/
def mergeTask (state : MergeState) (id : Uuid) :
    Except LocalWtsError MergeState := do
  let task ← orConflict (set.view.tasks.find? fun task => task.taskId = id)
  let candidate ← loadIntegrationCandidate env set task.taskId
  let same ← env.matchesTarget candidate.candidate
  if ¬same then
    .error .agentConversationConflict
  else
    mergeCandidate original candidate state

/-- The prerequisites that no other one depends on. -/
def maximal (tasks : List AgentWorkItem) (dependencies : List Uuid) : List Uuid :=
  dependencies.filter fun id => !dependencies.any fun other =>
    other ≠ id && ancestor tasks id other

/-- The folder of the contents of each original file. -/
def sourceBlobs : ExtTreeMap String String :=
  original.files.values.foldl (fun blobs file =>
    match file.state with
    | some state => blobs.insert state.sha256 (env.turnDir set.sourceSessionId)
    | none => blobs) ∅

/-- `desired_input` of a task of the set. -/
def desiredInput (task : AgentWorkItem) : Except LocalWtsError MergeState := do
  let original ← sourceRecord env set
  (maximal set.view.tasks task.dependsOn).foldlM (mergeTask env set original)
    (original, sourceBlobs env set original)

end Merge

end Wts.WorkSets
