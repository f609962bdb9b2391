/-
Module: Wts.Store.Tables
Purpose: The database of the workspace store: its tables, the rows that its statements insert with
  their uniqueness constraints, and the checks and readers that all calls share.
-/
import Wts.Core.Boundary
import Wts.Store.Model

namespace Wts.Store

open Text Workspace
open Std (ExtTreeMap)

inductive WorkspaceStoreError where
  | workspaceRootMustBeAbsolute
  | invalidWorkspaceRoot
  | invalidWorkspaceRootId
  | invalidIdempotencyKey
  | idempotencyConflict (idempotencyKey : Uuid)
  | tombstoneIdempotencyConflict (idempotencyKey : Uuid)
  | workspaceAlreadyTombstoned (workspaceId : Uuid)
  | workspaceNotFound (workspaceId : Uuid)
  | workspaceWorkflowConflict (expected actual : ℕ)
  | invalidWorkspaceBoardPlacement
  | invalidReviewThread
  | reviewCommentTooLarge
  | reviewThreadNotFound (threadId : Uuid)
  | reviewThreadConflict (expected actual : UInt64)
  | invalidWorkItemLink
  | staleWorkItemLinkPreview
  | workItemLinkIdempotencyConflict (idempotencyKey : Uuid)
  | workItemLinkAlreadyExists
  | primaryWorkItemLinkAlreadyExists
  | workItemLinkNotFound (linkId : Uuid)
  | workItemLinkConflict (expected actual : UInt64)
  | invalidEffectDigest
  | corruptRecord (detail : String)
  | unknownWorkspaceRoot (id : String)
  | invalidSystemClock
  | validation (error : WorkspaceValidationError)
  | database
  | serialization
deriving DecidableEq

/-- The display text of a validation error. -/
def validationMessage : WorkspaceValidationError → String
  | .missingTitle => "workspace title is required"
  | .titleTooLong => "workspace title exceeds 240 characters"
  | .invalidTitle => "workspace title contains control characters"
  | .invalidIssueKey => "Jira issue key is invalid"
  | .invalidOpenProjectWorkPackage => "OpenProject work-package identity is invalid"
  | .missingRepositorySetLabel => "repository-set label is required"
  | .repositorySetLabelTooLong => "repository-set label exceeds 120 characters"
  | .invalidRepositorySetLabel =>
    "repository-set label contains control characters or invalid path characters"
  | .emptyRepositories => "at least one repository request is required"
  | .tooManyRepositories => "a workspace may contain at most 32 repositories"
  | .missingRepositoryLabel index => "repository label is required at index " ++ decimal index
  | .repositoryLabelTooLong index =>
    "repository label at index " ++ decimal index ++ " exceeds 128 characters"
  | .invalidRepositoryLabel index =>
    "repository label at index " ++ decimal index ++
      " contains control characters or path separators"
  | .invalidRepositoryId repository => "repository identifier is invalid for " ++ repository
  | .invalidBaseRef repository => "repository base ref is invalid for " ++ repository
  | .duplicateRepository repository => "repository labels must be unique: " ++ repository
  | .duplicateRepositoryId repository => "repository identifiers must be unique: " ++ repository
  | .invalidRuntimeAnalysisDigest => "runtime analysis digest must be a lowercase sha256 digest"
  | .emptyRuntimeServices => "a runtime plan must select at least one service"
  | .tooManyRuntimeServices => "a runtime plan may select at most 32 services"
  | .invalidRuntimeCandidateId index =>
    "runtime candidate identifier is invalid at index " ++ decimal index
  | .duplicateRuntimeCandidateId candidateId =>
    "runtime candidate identifiers must be unique: " ++ candidateId
  | .tooManyRuntimePorts candidateId =>
    "runtime candidate " ++ candidateId ++ " may configure at most 8 ports"
  | .invalidRuntimePortId candidateId index =>
    "runtime port identifier is invalid for candidate " ++ candidateId ++ " at index " ++
      decimal index
  | .duplicateRuntimePortId candidateId portId =>
    "runtime port identifiers must be unique within candidate " ++ candidateId ++ ": " ++ portId
  | .invalidRuntimePort candidateId portId =>
    "runtime port " ++ portId ++ " for candidate " ++ candidateId ++
      " must be between 1024 and 65535"

/-- `map_err(WorkspaceStoreError::Validation)`. -/
def orInvalid {α : Type} : Except WorkspaceValidationError α → Except WorkspaceStoreError α
  | .error error => .error (.validation error)
  | .ok value => .ok value

/-! ### Tables -/

structure CreatedEvent where
  eventId : Uuid
  workspaceId : Uuid
  recordVersion : Int64
  idempotencyKey : Uuid
  requestDigest : String
  createdAtUnixMs : Int64

structure ProjectionRow where
  recordVersion : Int64
  recordJson : String
  updatedAtUnixMs : Int64

structure LifecycleRow where
  workspaceRecordVersion : Int64
  materializationState : WorkspaceMaterializationState
  worktreeCount : ℕ
  observedAtUnixMs : Int64

structure TombstoneEvent where
  eventId : Uuid
  workspaceId : Uuid
  idempotencyKey : Uuid
  effectDigest : String
  resultJson : String
  removedAtUnixMs : Int64

structure ObservationRow where
  workspaceId : Uuid
  issueKey : String
  sourceFile : String
  observedAtUnixMs : Int64

structure WorkflowEvent where
  eventId : Uuid
  workspaceId : Uuid
  fromState : WorkspaceWorkflowState
  toState : WorkspaceWorkflowState
  workflowRevision : ℕ
  createdAtUnixMs : Int64

structure WorkflowRow where
  state : WorkspaceWorkflowState
  workflowRevision : ℕ
  updatedAtUnixMs : Int64

inductive BoardEventType where
  | placed
  | followAgent
  | autoTransitioned

structure BoardPlacementEvent where
  eventId : Uuid
  workspaceId : Uuid
  eventType : BoardEventType
  fromState : WorkspaceWorkflowState
  toState : WorkspaceWorkflowState
  fromMode : WorkspaceBoardPlacementMode
  toMode : WorkspaceBoardPlacementMode
  fromRank : ℕ
  toRank : ℕ
  workflowRevision : ℕ
  createdAtUnixMs : Int64

structure PlacementRow where
  mode : WorkspaceBoardPlacementMode
  laneRank : ℕ
  updatedAtUnixMs : Int64

/-- What the JSON of a link event says besides its columns: the whole link, or what was removed. -/
inductive WorkItemLinkChange where
  | linked (link : StoredWorkspaceWorkItemLink)
  | unlinked (removedRevision : UInt64) (issueKey : String)

structure WorkItemLinkEvent where
  eventId : Uuid
  workspaceId : Uuid
  linkId : Uuid
  linkRevision : UInt64
  change : WorkItemLinkChange
  createdAtUnixMs : Int64

structure WorkItemLinkConfirmation where
  idempotencyKey : Uuid
  workspaceId : Uuid
  previewDigest : String
  resultJson : String
  createdAtUnixMs : Int64

/-- The tables of the links. A row of `workspace_work_item_links` is the link that its columns
hold. -/
structure LinkTables where
  rows : List StoredWorkspaceWorkItemLink
  events : List WorkItemLinkEvent
  confirmations : List WorkItemLinkConfirmation

/-- A row of one of the three tables of review threads; the columns of its target are the anchor. -/
structure ReviewThreadRow (Anchor : Type) where
  threadId : Uuid
  workspaceId : Uuid
  anchor : Anchor
  state : StoredReviewThreadState
  revision : Int64
  createdAtUnixMs : Int64
  updatedAtUnixMs : Int64
  resolvedAtUnixMs : Option Int64
deriving DecidableEq

structure ReviewCommentRow where
  commentId : Uuid
  threadId : Uuid
  author : StoredReviewAuthor
  body : String
  createdAtUnixMs : Int64

structure PlanningAnchor where
  documentId : String
  documentSha256 : String
  line : Option Int64

structure VerificationAnchor where
  planRevision : Int64
  completedAtUnixMs : Int64
  checkId : String

structure CodeAnchor where
  repositoryId : String
  baseCommitOid : String
  headCommitOid : String
  patchSha256 : String
  filePath : String
  side : String
  line : Int64

/-- A table of threads and the table of their comments, which keeps the order of insertion. -/
structure ReviewTable (Anchor : Type) where
  threads : List (ReviewThreadRow Anchor)
  comments : List ReviewCommentRow

/-- The three tables of threads, one for each kind of target. -/
inductive ReviewKind where
  | planning
  | verification
  | code
deriving DecidableEq

/-- The columns of a target. -/
def ReviewKind.Anchor : ReviewKind → Type
  | .planning => PlanningAnchor
  | .verification => VerificationAnchor
  | .code => CodeAnchor

abbrev ReviewTables :=
  (kind : ReviewKind) → ReviewTable kind.Anchor

/-- The tables that the modelled calls read or write. Event tables keep the order of insertion. -/
structure Tables where
  createdEvents : List CreatedEvent
  projection : ExtTreeMap Uuid ProjectionRow
  lifecycle : ExtTreeMap Uuid LifecycleRow
  tombstoneEvents : List TombstoneEvent
  observations : List ObservationRow
  workflowEvents : List WorkflowEvent
  workflow : ExtTreeMap Uuid WorkflowRow
  placementEvents : List BoardPlacementEvent
  placement : ExtTreeMap Uuid PlacementRow
  links : LinkTables
  reviews : ReviewTables

/-- The database that `initialize` creates. -/
def Tables.empty : Tables where
  createdEvents := []
  projection := ∅
  lifecycle := ∅
  tombstoneEvents := []
  observations := []
  workflowEvents := []
  workflow := ∅
  placementEvents := []
  placement := ∅
  links := { rows := [], events := [], confirmations := [] }
  reviews := fun _ => { threads := [], comments := [] }

/-- The largest integer of the database. -/
def maxInteger : ℕ := 2 ^ 63 - 1

def validRootId (value : String) : Bool :=
  value ≠ "" && value.utf8ByteSize ≤ 64 &&
    value.toList.all fun c => isAsciiAlphanumeric c || c = '-' || c = '_' || c = '.'

structure WorkspaceRoot where
  id : String
  path : PathBuf
  validId : validRootId id = true
  absolute : path.absolute = true
  noParent : ".." ∉ path.components

def WorkspaceRoot.new (id : String) (path : PathBuf) : Except WorkspaceStoreError WorkspaceRoot :=
  if validId : ¬ validRootId id then
    .error .invalidWorkspaceRootId
  else if absolute : ¬ path.absolute then
    .error .workspaceRootMustBeAbsolute
  else if noParent : ".." ∈ path.components then
    .error .invalidWorkspaceRoot
  else
    .ok
      { id := id
        path := path
        validId := by simpa using validId
        absolute := by simpa using absolute
        noParent := noParent }

def WorkspaceRoot.displayPath (root : WorkspaceRoot) : String :=
  root.path.display

/-- An open store: its root, and what it takes from libraries: `str::to_lowercase`, whether
`serde_json` reads a text as some value, and the messages with which it rejects a record and a link. -/
structure WorkspaceStore where
  workspaceRoot : WorkspaceRoot
  toLowercase : String → String
  acceptsJson : String → Bool
  jsonError : String → String
  linkJsonError : String → String

/-- What one call gets from outside: the milliseconds since the Unix epoch, none if the clock is
before it, and the identifiers that `Uuid::new_v4` draws, in their order. -/
structure CallEnv where
  clock : Option ℕ
  fresh : ℕ → Uuid

def unixTimeMs (env : CallEnv) : Except WorkspaceStoreError Int64 :=
  match env.clock with
  | none => .error .invalidSystemClock
  | some milliseconds =>
    if milliseconds ≤ maxInteger then .ok (Int64.ofNat milliseconds)
    else .error .invalidSystemClock

/-- The same function as the one of the workspace boundary. -/
def slug (value : String) : String :=
  Core.slug value

/-- A slug is ASCII, so its first 200 bytes are its first 200 characters. -/
def workspaceLeafFromName (source : String) (workspaceId : Uuid) : String :=
  let boundedSlug := String.ofList ((slug source).toList.take 200)
  (if boundedSlug = "" then "workspace" else boundedSlug) ++ "-" ++ uuidText workspaceId

def workspaceLeaf (intent : WorkspaceIntent) (workspaceId : Uuid) : String :=
  let source :=
    match intent with
    | .jira issueKey => issueKey
    | .openProject _ displayId => displayId
    | .repositorySet label => label
  workspaceLeafFromName source workspaceId

def repositoryLeaf (label : String) (requestId : Uuid) : String :=
  let slug := slug label
  (if slug = "" then "repository" else slug) ++ "-" ++ uuidText requestId

def maxRecordJsonBytes : ℕ := 256 * 1024

variable (record : WorkspaceRecord)

def recordRequest : CreateWorkspaceRequest where
  intent := record.intent
  title := record.title
  preferredProvider := record.preferredProvider
  repositories := record.repositories.map fun plan =>
    { repositoryId := plan.repositoryId, label := plan.label, baseRef := plan.baseRef }
  runtime := record.runtime
  planning := record.planning

/-- The canonical repositories with the identities of the plans at their positions. -/
def recordPlans (repositories : List WorkspaceRepositoryRequest)
    (plans : List WorkspaceRepositoryPlan) : List WorkspaceRepositoryPlan :=
  List.zipWith
    (fun repository plan =>
      { requestId := plan.requestId
        repositoryId := repository.repositoryId
        label := repository.label
        baseRef := repository.baseRef
        worktreeLeaf := plan.worktreeLeaf })
    repositories plans

def validateDisplayName : Option String → Except WorkspaceStoreError Unit
  | none => .ok ()
  | some displayName =>
    match RenameWorkspaceRequest.normalize { title := displayName } with
    | .error error =>
      .error (.corruptRecord
        ("workspace display name failed validation: " ++ validationMessage error))
    | .ok normalized =>
      if normalized.title ≠ displayName then
        .error (.corruptRecord "workspace display name is not canonical")
      else
        .ok ()

def expectedWorkspaceLeaf : String :=
  match record.displayName with
  | none => workspaceLeaf record.intent record.workspaceId
  | some displayName => workspaceLeafFromName displayName record.workspaceId

variable (store : WorkspaceStore)

/-- The comparison of a record with the canonical form of its request. -/
def validateDomain (record : WorkspaceRecord) :
    Except WorkspaceStoreError Unit :=
  match (recordRequest record).normalize store.toLowercase with
  | .error error =>
    .error (.corruptRecord
      ("workspace domain data failed validation: " ++ validationMessage error))
  | .ok normalized =>
    if normalized.intent ≠ record.intent ∨ normalized.title ≠ record.title ∨
        normalized.preferredProvider ≠ record.preferredProvider ∨
        normalized.runtime ≠ record.runtime ∨ normalized.planning ≠ record.planning ∨
        recordPlans normalized.repositories record.repositories ≠ record.repositories then
      .error (.corruptRecord "workspace domain data is not canonical")
    else
      .ok ()

def validateRecord (record : WorkspaceRecord) :
    Except WorkspaceStoreError Unit :=
  if record.schemaVersion ≠ workspaceRecordSchemaVersion then
    .error (.corruptRecord
      ("unsupported workspace record schema " ++ decimal record.schemaVersion.toNat))
  else if record.recordVersion ≠ workspaceRecordVersion then
    .error (.corruptRecord
      ("unsupported workspace record version " ++ decimal record.recordVersion.toNat))
  else if record.workspaceId = 0 then
    .error (.corruptRecord "workspace identifier is nil")
  else if ¬ validRootId record.workspaceRootId then
    .error (.corruptRecord "workspace root identifier is invalid")
  else if record.workspaceLeaf ≠ expectedWorkspaceLeaf record then
    .error (.corruptRecord "workspace leaf does not match its trusted identity")
  else if record.createdAtUnixMs < 0 ∨ record.updatedAtUnixMs < record.createdAtUnixMs then
    .error (.corruptRecord "workspace timestamps are invalid")
  else
    match validateDisplayName record.displayName with
    | .error error => .error error
    | .ok () =>
      if record.repositories.any fun plan =>
          plan.requestId = 0 ∨ plan.worktreeLeaf ≠ repositoryLeaf plan.label plan.requestId then
        .error (.corruptRecord "repository plan has an invalid trusted identity")
      else
        validateDomain store record

def validateLifecycleTimestamp (lifecycle : WorkspaceLifecycleSummary) :
    Except WorkspaceStoreError Unit :=
  if lifecycle.observedAtUnixMs.all fun observed => observed < record.createdAtUnixMs then
    .error (.corruptRecord "workspace lifecycle observation time is invalid")
  else
    .ok ()

def validateLifecycle (lifecycle : WorkspaceLifecycleSummary) :
    Except WorkspaceStoreError Unit :=
  match lifecycle.materializationState with
  | .unknown =>
    if lifecycle.worktreeCount ≠ 0 ∨ lifecycle.observedAtUnixMs.isSome then
      .error (.corruptRecord "unknown workspace lifecycle contains an observation")
    else
      .ok ()
  | .materialized =>
    if lifecycle.worktreeCount.toNat ≠ record.repositories.length then
      .error (.corruptRecord "materialized workspace lifecycle has the wrong worktree count")
    else
      validateLifecycleTimestamp record lifecycle
  | .notMaterialized | .needsAttention =>
    if lifecycle.worktreeCount ≠ 0 then
      .error (.corruptRecord "non-materialized workspace lifecycle has worktrees")
    else
      validateLifecycleTimestamp record lifecycle

structure DecodedProjection where
  record : WorkspaceRecord
  lifecycle : WorkspaceLifecycleSummary

/-- `i64::try_from` on a record version. -/
def integerVersion (version : UInt64) : Option Int64 :=
  if version.toNat ≤ maxInteger then some (Int64.ofNat version.toNat) else none

/-- The columns of the lifecycle row are present together or, without a row, absent together. -/
def decodeLifecycle :
    Option LifecycleRow → Except WorkspaceStoreError WorkspaceLifecycleSummary
  | none => .ok .unknown
  | some row =>
    if some row.workspaceRecordVersion ≠ integerVersion record.recordVersion then
      .error (.corruptRecord "workspace lifecycle record version is stale")
    else if row.materializationState = .unknown then
      .error (.corruptRecord "workspace lifecycle state is invalid")
    else if row.worktreeCount ≥ 2 ^ 32 then
      .error (.corruptRecord "workspace lifecycle worktree count is invalid")
    else
      let lifecycle : WorkspaceLifecycleSummary :=
        { materializationState := row.materializationState
          worktreeCount := UInt32.ofNat row.worktreeCount
          observedAtUnixMs := some row.observedAtUnixMs }
      match validateLifecycle record lifecycle with
      | .error error => .error error
      | .ok () => .ok lifecycle

/-- The bound on the JSON text counts characters here, because `length` does. -/
def decodeProjection (workspaceId : Uuid) (row : ProjectionRow)
    (lifecycle : Option LifecycleRow) : Except WorkspaceStoreError DecodedProjection :=
  if row.recordJson.toList.length > maxRecordJsonBytes then
    .error (.corruptRecord "workspace JSON exceeds the store limit")
  else
    match (Json.parse row.recordJson).bind WorkspaceRecord.ofJson with
    | none => .error (.corruptRecord (store.jsonError row.recordJson))
    | some record =>
      if record.workspaceId ≠ workspaceId ∨
          integerVersion record.recordVersion ≠ some row.recordVersion ∨
          record.updatedAtUnixMs ≠ row.updatedAtUnixMs then
        .error (.corruptRecord "projection metadata does not match its workspace JSON")
      else
        match validateRecord store record with
        | .error error => .error error
        | .ok () =>
          match decodeLifecycle record lifecycle with
          | .error error => .error error
          | .ok lifecycle => .ok { record := record, lifecycle := lifecycle }

variable (tables : Tables)

/-- A workspace has been removed. -/
def Tables.tombstoned (workspaceId : Uuid) : Bool :=
  tables.tombstoneEvents.any fun event => event.workspaceId = workspaceId

def loadProjection (tables : Tables) (workspaceId : Uuid) :
    Except WorkspaceStoreError (Option DecodedProjection) :=
  match tables.projection[workspaceId]? with
  | none => .ok none
  | some row =>
    if tables.tombstoned workspaceId then
      .ok none
    else
      match decodeProjection store workspaceId row tables.lifecycle[workspaceId]? with
      | .error error => .error error
      | .ok decoded => .ok (some decoded)

/-- The join of the workflow row and the placement row. Ranks and revisions are not negative. -/
def loadWorkflow (workspaceId : Uuid) :
    Except WorkspaceStoreError WorkspaceWorkflowSummary :=
  match tables.workflow[workspaceId]?, tables.placement[workspaceId]? with
  | some workflow, some placement =>
    if workflow.workflowRevision = 0 ∨ workflow.updatedAtUnixMs < 0 then
      .error (.corruptRecord "workspace workflow projection is invalid")
    else
      .ok
        { state := workflow.state
          revision := workflow.workflowRevision
          updatedAtUnixMs := workflow.updatedAtUnixMs
          placement := { mode := placement.mode, rank := placement.laneRank } }
  | _, _ => .error (.corruptRecord "workspace workflow projection is missing")

/-- The rows of a lane with their ranks: live workspaces in the state, one of them left out. -/
def laneRows (state : WorkspaceWorkflowState) (excluded : Option Uuid) :
    List (ℕ × Uuid) :=
  tables.workflow.toList.filterMap fun (workspaceId, workflow) =>
    if workflow.state = state ∧ some workspaceId ≠ excluded ∧
        ¬ tables.tombstoned workspaceId then
      (tables.placement[workspaceId]?).map fun placement => (placement.laneRank, workspaceId)
    else
      none

/-- The live workspaces of a lane by rank, then by identifier. -/
def loadLaneWorkspaceIds (state : WorkspaceWorkflowState) (excluded : Option Uuid) : List Uuid :=
  ((laneRows tables state excluded).insertionSort fun left right =>
    left.1 < right.1 ∨ left.1 = right.1 ∧ left.2 ≤ right.2).map Prod.snd

/-- The order of the source files; other files come first. -/
def sourceFileRank (sourceFile : String) : WithBot ℕ :=
  if sourceFile = "README.md" then (0 : ℕ)
  else if sourceFile = "PLAN.md" then (1 : ℕ)
  else if sourceFile = "FINDINGS.md" then (2 : ℕ)
  else if sourceFile = "KANBAN.md" then (3 : ℕ)
  else if sourceFile = "PROGRAM-BACKLOG.md" then (4 : ℕ)
  else ⊥

/-- The loop body of `load_observed_work_items`: rows of one issue are collected. -/
def addObservation (observations : List ObservedWorkItem) (row : ObservationRow) :
    List ObservedWorkItem :=
  match observations.getLast? with
  | none =>
    [{ issueKey := row.issueKey, sourceFiles := [row.sourceFile],
       observedAtUnixMs := row.observedAtUnixMs }]
  | some current =>
    if current.issueKey = row.issueKey then
      observations.dropLast ++
        [{ current with
           sourceFiles := current.sourceFiles ++ [row.sourceFile]
           observedAtUnixMs :=
            if current.observedAtUnixMs ≤ row.observedAtUnixMs then row.observedAtUnixMs
            else current.observedAtUnixMs }]
    else
      observations ++
        [{ issueKey := row.issueKey, sourceFiles := [row.sourceFile],
           observedAtUnixMs := row.observedAtUnixMs }]

def loadObservedWorkItems (workspaceId : Uuid) : List ObservedWorkItem :=
  let rows := tables.observations.filter fun row => row.workspaceId = workspaceId
  let ordered := rows.insertionSort fun left right =>
    left.issueKey < right.issueKey ∨ left.issueKey = right.issueKey ∧
      sourceFileRank left.sourceFile ≤ sourceFileRank right.sourceFile
  ordered.foldl addObservation []

/-- The view of a record, read after the transaction. -/
def view (tables : Tables) (record : WorkspaceRecord)
    (lifecycle : WorkspaceLifecycleSummary) : Except WorkspaceStoreError WorkspaceView :=
  if record.workspaceRootId ≠ store.workspaceRoot.id then
    .error (.unknownWorkspaceRoot record.workspaceRootId)
  else
    match validateRecord store record with
    | .error error => .error error
    | .ok () =>
    match validateLifecycle record lifecycle with
    | .error error => .error error
    | .ok () =>
    match loadWorkflow tables record.workspaceId with
    | .error error => .error error
    | .ok workflow =>
      .ok
        { schemaVersion := record.schemaVersion
          workspaceId := record.workspaceId
          recordVersion := record.recordVersion
          intent := record.intent
          title := record.title
          displayName := record.displayName
          preferredProvider := record.preferredProvider
          phase := record.phase
          repositories := record.repositories
          runtime := record.runtime
          planning := record.planning
          observedWorkItems := loadObservedWorkItems tables record.workspaceId
          workspaceRootId := record.workspaceRootId
          workspaceLeaf := record.workspaceLeaf
          workspaceDisplayPath :=
            (store.workspaceRoot.path.join record.workspaceLeaf).display
          lifecycle := lifecycle
          workflow := workflow
          createdAtUnixMs := record.createdAtUnixMs
          updatedAtUnixMs := record.updatedAtUnixMs }

end Wts.Store
