/-
Module: Wts.Store.Model
Purpose: The records of the workspace store: the workspace record that is kept as JSON, the
  summaries kept beside it, the links to work items, the review threads, and the views and receipts
  that its calls return.
-/
import Wts.Core.WorkspaceJson

namespace Wts.Store

open Serde Workspace

def workspaceRecordSchemaVersion : UInt32 := 1
def workspaceRecordVersion : UInt64 := 1

structure WorkspaceRepositoryPlan where
  requestId : Uuid
  repositoryId : Option String
  label : String
  baseRef : String
  worktreeLeaf : String
deriving DecidableEq

structure WorkspaceRecord where
  schemaVersion : UInt32
  workspaceId : Uuid
  recordVersion : UInt64
  intent : WorkspaceIntent
  title : String
  displayName : Option String
  preferredProvider : WorkspaceProvider
  phase : WorkspacePhase
  repositories : List WorkspaceRepositoryPlan
  runtime : Option RuntimePlanSelection
  planning : Option WorkspacePlanningSelection
  workspaceRootId : String
  workspaceLeaf : String
  createdAtUnixMs : Int64
  updatedAtUnixMs : Int64

inductive WorkspaceBoardPlacementMode where
  | automatic
  | pinned
deriving DecidableEq

structure WorkspaceBoardPlacementSummary where
  mode : WorkspaceBoardPlacementMode
  rank : ℕ

/-- The workflow state of a workspace, kept outside its record. -/
structure WorkspaceWorkflowSummary where
  state : WorkspaceWorkflowState
  revision : ℕ
  updatedAtUnixMs : Int64
  placement : WorkspaceBoardPlacementSummary

/-- The last observation of the materialized workspace. -/
structure WorkspaceLifecycleSummary where
  materializationState : WorkspaceMaterializationState
  worktreeCount : UInt32
  observedAtUnixMs : Option Int64

def WorkspaceLifecycleSummary.unknown : WorkspaceLifecycleSummary where
  materializationState := .unknown
  worktreeCount := 0
  observedAtUnixMs := none

structure ObservedWorkItem where
  issueKey : String
  sourceFiles : List String
  observedAtUnixMs : Int64

structure WorkspaceView where
  schemaVersion : UInt32
  workspaceId : Uuid
  recordVersion : UInt64
  intent : WorkspaceIntent
  title : String
  displayName : Option String
  preferredProvider : WorkspaceProvider
  phase : WorkspacePhase
  repositories : List WorkspaceRepositoryPlan
  runtime : Option RuntimePlanSelection
  planning : Option WorkspacePlanningSelection
  observedWorkItems : List ObservedWorkItem
  workspaceRootId : String
  workspaceLeaf : String
  workspaceDisplayPath : String
  lifecycle : WorkspaceLifecycleSummary
  workflow : WorkspaceWorkflowSummary
  createdAtUnixMs : Int64
  updatedAtUnixMs : Int64

structure CreateWorkspaceResult where
  workspace : WorkspaceView
  replayed : Bool

structure WorkspaceTombstone where
  workspaceId : Uuid
  idempotencyKey : Uuid
  effectDigest : String
  resultJson : String
  removedAtUnixMs : Int64

structure TombstoneWorkspaceResult where
  tombstone : WorkspaceTombstone
  replayed : Bool

inductive StoredWorkItemProvider where
  | jira
deriving DecidableEq

inductive StoredWorkItemRole where
  | primary
  | related
  | createdFromWorkspace
deriving DecidableEq

structure StoredWorkItemSnapshot where
  issueKey : String
  summary : Option String
  status : Option String
  content : String
  browserUrl : Option String
  fetchedAtUnixMs : Int64
deriving DecidableEq

structure StoredWorkspaceWorkItemLink where
  linkId : Uuid
  workspaceId : Uuid
  provider : StoredWorkItemProvider
  role : StoredWorkItemRole
  snapshot : StoredWorkItemSnapshot
  revision : UInt64
  createdAtUnixMs : Int64
  updatedAtUnixMs : Int64
deriving DecidableEq

structure ConfirmStoredWorkItemLinkResult where
  link : StoredWorkspaceWorkItemLink
  replayed : Bool

structure StoredWorkItemUnlinkResult where
  workspaceId : Uuid
  linkId : Uuid
  removedRevision : UInt64

inductive StoredReviewAuthor where
  | user
  | agent

inductive StoredReviewThreadState where
  | open
  | resolved
deriving DecidableEq

inductive StoredReviewTarget where
  | planningDocument (documentId documentSha256 : String) (line : Option UInt32)
  | verificationCheck (planRevision : UInt64) (completedAtUnixMs : Int64) (checkId : String)
  | codeChange (repositoryId baseCommitOid headCommitOid patchSha256 filePath side : String)
      (line : UInt32)

structure StoredReviewComment where
  commentId : Uuid
  author : StoredReviewAuthor
  body : String
  createdAtUnixMs : Int64

structure StoredReviewThread where
  threadId : Uuid
  workspaceId : Uuid
  target : StoredReviewTarget
  state : StoredReviewThreadState
  revision : UInt64
  comments : List StoredReviewComment
  createdAtUnixMs : Int64
  updatedAtUnixMs : Int64
  resolvedAtUnixMs : Option Int64

/-! ### The JSON of a record -/

def WorkspaceRepositoryPlan.fields (plan : WorkspaceRepositoryPlan) : List (String × Json) :=
  [("requestId", ofUuid plan.requestId)] ++
    (writeOptional "repositoryId" .string plan.repositoryId ++
      [("label", .string plan.label), ("baseRef", .string plan.baseRef),
        ("worktreeLeaf", .string plan.worktreeLeaf)])

def WorkspaceRepositoryPlan.toJson (plan : WorkspaceRepositoryPlan) : Json :=
  .object plan.fields

def WorkspaceRepositoryPlan.ofJson (value : Json) : Option WorkspaceRepositoryPlan := do
  let fields ← objectFields
    ["requestId", "repositoryId", "label", "baseRef", "worktreeLeaf"] value
  let requestId ← readField uuid "requestId" fields
  let repositoryId ← readOptional text "repositoryId" fields
  let label ← readField text "label" fields
  let baseRef ← readField text "baseRef" fields
  let worktreeLeaf ← readField text "worktreeLeaf" fields
  some
    { requestId := requestId
      repositoryId := repositoryId
      label := label
      baseRef := baseRef
      worktreeLeaf := worktreeLeaf }

variable (record : WorkspaceRecord)

/-- The fields up to the repositories. -/
def WorkspaceRecord.leadingFields : List (String × Json) :=
  [("schemaVersion", ofNat record.schemaVersion.toNat),
      ("workspaceId", ofUuid record.workspaceId),
      ("recordVersion", ofNat record.recordVersion.toNat), ("intent", record.intent.toJson),
      ("title", .string record.title)] ++
    (writeOptional "displayName" .string record.displayName ++
      [("preferredProvider", record.preferredProvider.toJson), ("phase", record.phase.toJson)])

/-- The fields after the repositories. -/
def WorkspaceRecord.trailingFields : List (String × Json) :=
  writeOptional "runtime" RuntimePlanSelection.toJson record.runtime ++
    (writeOptional "planning" WorkspacePlanningSelection.toJson record.planning ++
      [("workspaceRootId", .string record.workspaceRootId),
        ("workspaceLeaf", .string record.workspaceLeaf),
        ("createdAtUnixMs", ofInt64 record.createdAtUnixMs),
        ("updatedAtUnixMs", ofInt64 record.updatedAtUnixMs)])

def WorkspaceRecord.fields : List (String × Json) :=
  record.leadingFields ++
    (("repositories", ofList WorkspaceRepositoryPlan.toJson record.repositories) ::
      record.trailingFields)

def WorkspaceRecord.toJson : Json :=
  .object record.fields

def WorkspaceRecord.knownFields : List String :=
  ["schemaVersion", "workspaceId", "recordVersion", "intent", "title", "displayName",
    "preferredProvider", "phase", "repositories", "runtime", "planning", "workspaceRootId",
    "workspaceLeaf", "createdAtUnixMs", "updatedAtUnixMs"]

def WorkspaceRecord.ofJson (value : Json) : Option WorkspaceRecord := do
  let fields ← objectFields knownFields value
  let schemaVersion ← readField uint32 "schemaVersion" fields
  let workspaceId ← readField uuid "workspaceId" fields
  let recordVersion ← readField uint64 "recordVersion" fields
  let intent ← readField WorkspaceIntent.ofJson "intent" fields
  let title ← readField text "title" fields
  let displayName ← readOptional text "displayName" fields
  let preferredProvider ← readField WorkspaceProvider.ofJson "preferredProvider" fields
  let phase ← readField WorkspacePhase.ofJson "phase" fields
  let repositories ← readField (list WorkspaceRepositoryPlan.ofJson) "repositories" fields
  let runtime ← readOptional RuntimePlanSelection.ofJson "runtime" fields
  let planning ← readOptional WorkspacePlanningSelection.ofJson "planning" fields
  let workspaceRootId ← readField text "workspaceRootId" fields
  let workspaceLeaf ← readField text "workspaceLeaf" fields
  let createdAtUnixMs ← readField int64 "createdAtUnixMs" fields
  let updatedAtUnixMs ← readField int64 "updatedAtUnixMs" fields
  some
    { schemaVersion := schemaVersion
      workspaceId := workspaceId
      recordVersion := recordVersion
      intent := intent
      title := title
      displayName := displayName
      preferredProvider := preferredProvider
      phase := phase
      repositories := repositories
      runtime := runtime
      planning := planning
      workspaceRootId := workspaceRootId
      workspaceLeaf := workspaceLeaf
      createdAtUnixMs := createdAtUnixMs
      updatedAtUnixMs := updatedAtUnixMs }

@[simp] theorem WorkspaceRepositoryPlan.ofJson_toJson (plan : WorkspaceRepositoryPlan) :
    WorkspaceRepositoryPlan.ofJson plan.toJson = some plan := by
  obtain ⟨requestId, repositoryId, label, baseRef, worktreeLeaf⟩ := plan
  cases repositoryId <;>
    simp [toJson, ofJson, fields, objectFields, readField, readOptional, writeOptional, List.lookup]

theorem WorkspaceRecord.objectFields_toJson :
    objectFields knownFields record.toJson = some record.fields := by
  apply objectFields_object <;>
    simp only [fields, leadingFields, trailingFields, List.map_append, List.map_cons, List.map_nil,
      names_writeOptional] <;>
    cases record.displayName <;> cases record.runtime <;> cases record.planning <;>
    simp [knownFields]

section

variable (record : WorkspaceRecord)

attribute [local simp] WorkspaceRecord.fields WorkspaceRecord.leadingFields
  WorkspaceRecord.trailingFields List.lookup lookup_append lookup_writeOptional

theorem WorkspaceRecord.read_schemaVersion :
    readField uint32 "schemaVersion" record.fields = some record.schemaVersion := by
  apply readField_eq_some _ (uint32_ofNat _)
  simp

theorem WorkspaceRecord.read_workspaceId :
    readField uuid "workspaceId" record.fields = some record.workspaceId := by
  apply readField_eq_some _ (uuid_ofUuid _)
  simp

theorem WorkspaceRecord.read_recordVersion :
    readField uint64 "recordVersion" record.fields = some record.recordVersion := by
  apply readField_eq_some _ (uint64_ofNat _)
  simp

theorem WorkspaceRecord.read_intent :
    readField WorkspaceIntent.ofJson "intent" record.fields = some record.intent := by
  apply readField_eq_some _ (WorkspaceIntent.ofJson_toJson _)
  simp

theorem WorkspaceRecord.read_title : readField text "title" record.fields = some record.title := by
  apply readField_eq_some _ (text_string _)
  simp

theorem WorkspaceRecord.read_preferredProvider :
    readField WorkspaceProvider.ofJson "preferredProvider" record.fields = some record.preferredProvider := by
  apply readField_eq_some _ (WorkspaceProvider.ofJson_toJson _)
  simp

theorem WorkspaceRecord.read_phase :
    readField WorkspacePhase.ofJson "phase" record.fields = some record.phase := by
  apply readField_eq_some _ (WorkspacePhase.ofJson_toJson _)
  simp

theorem WorkspaceRecord.read_workspaceRootId :
    readField text "workspaceRootId" record.fields = some record.workspaceRootId := by
  apply readField_eq_some _ (text_string _)
  simp

theorem WorkspaceRecord.read_workspaceLeaf :
    readField text "workspaceLeaf" record.fields = some record.workspaceLeaf := by
  apply readField_eq_some _ (text_string _)
  simp

theorem WorkspaceRecord.read_createdAtUnixMs :
    readField int64 "createdAtUnixMs" record.fields = some record.createdAtUnixMs := by
  apply readField_eq_some _ (int64_ofInt64 _)
  simp

theorem WorkspaceRecord.read_updatedAtUnixMs :
    readField int64 "updatedAtUnixMs" record.fields = some record.updatedAtUnixMs := by
  apply readField_eq_some _ (int64_ofInt64 _)
  simp

theorem WorkspaceRecord.read_repositories :
    readField (list WorkspaceRepositoryPlan.ofJson) "repositories" record.fields =
      some record.repositories := by
  apply readField_eq_some _ (list_ofList fun plan _ => WorkspaceRepositoryPlan.ofJson_toJson plan)
  simp

theorem WorkspaceRecord.read_displayName :
    readOptional text "displayName" record.fields = some record.displayName := by
  apply readOptional_eq_some _ text_string
  · intro value isNull
    cases isNull
  · simp

theorem WorkspaceRecord.read_runtime :
    readOptional RuntimePlanSelection.ofJson "runtime" record.fields = some record.runtime := by
  apply readOptional_eq_some _ RuntimePlanSelection.ofJson_toJson
  · intro runtime isNull
    cases isNull
  · simp

theorem WorkspaceRecord.read_planning :
    readOptional WorkspacePlanningSelection.ofJson "planning" record.fields =
      some record.planning := by
  apply readOptional_eq_some _ WorkspacePlanningSelection.ofJson_toJson
  · intro planning isNull
    cases isNull
  · simp

theorem WorkspaceRecord.ofJson_toJson : WorkspaceRecord.ofJson record.toJson = some record := by
  unfold ofJson
  rw [objectFields_toJson]
  dsimp only [Option.bind_eq_bind, Option.bind_some]
  rw [read_schemaVersion, read_workspaceId, read_recordVersion, read_intent, read_title,
    read_displayName, read_preferredProvider, read_phase, read_repositories, read_runtime,
    read_planning, read_workspaceRootId, read_workspaceLeaf, read_createdAtUnixMs,
    read_updatedAtUnixMs]
  rfl

end

def StoredWorkItemProvider.toJson : StoredWorkItemProvider → Json
  | .jira => .string "jira"

def StoredWorkItemProvider.ofJson : Json → Option StoredWorkItemProvider :=
  variant [("jira", .jira)]

def StoredWorkItemRole.toJson : StoredWorkItemRole → Json
  | .primary => .string "primary"
  | .related => .string "related"
  | .createdFromWorkspace => .string "createdFromWorkspace"

def StoredWorkItemRole.ofJson : Json → Option StoredWorkItemRole :=
  variant
    [("primary", .primary), ("related", .related), ("createdFromWorkspace", .createdFromWorkspace)]

variable (snapshot : StoredWorkItemSnapshot)

def StoredWorkItemSnapshot.slots :
    List (String × Option Json) :=
  [("issueKey", some (.string snapshot.issueKey)), ("summary", snapshot.summary.map .string),
    ("status", snapshot.status.map .string), ("content", some (.string snapshot.content)),
    ("browserUrl", snapshot.browserUrl.map .string),
    ("fetchedAtUnixMs", some (ofInt64 snapshot.fetchedAtUnixMs))]

def StoredWorkItemSnapshot.toJson : Json :=
  Serde.record snapshot.slots

def StoredWorkItemSnapshot.knownFields : List String :=
  ["issueKey", "summary", "status", "content", "browserUrl", "fetchedAtUnixMs"]

def StoredWorkItemSnapshot.ofJson (value : Json) : Option StoredWorkItemSnapshot := do
  let fields ← objectFields knownFields value
  let issueKey ← readField text "issueKey" fields
  let summary ← readOptional text "summary" fields
  let status ← readOptional text "status" fields
  let content ← readField text "content" fields
  let browserUrl ← readOptional text "browserUrl" fields
  let fetchedAtUnixMs ← readField int64 "fetchedAtUnixMs" fields
  some
    { issueKey := issueKey
      summary := summary
      status := status
      content := content
      browserUrl := browserUrl
      fetchedAtUnixMs := fetchedAtUnixMs }

variable (link : StoredWorkspaceWorkItemLink)

def StoredWorkspaceWorkItemLink.slots :
    List (String × Option Json) :=
  [("linkId", some (ofUuid link.linkId)), ("workspaceId", some (ofUuid link.workspaceId)),
    ("provider", some link.provider.toJson), ("role", some link.role.toJson),
    ("snapshot", some link.snapshot.toJson), ("revision", some (ofNat link.revision.toNat)),
    ("createdAtUnixMs", some (ofInt64 link.createdAtUnixMs)),
    ("updatedAtUnixMs", some (ofInt64 link.updatedAtUnixMs))]

def StoredWorkspaceWorkItemLink.toJson : Json :=
  Serde.record link.slots

def StoredWorkspaceWorkItemLink.knownFields : List String :=
  ["linkId", "workspaceId", "provider", "role", "snapshot", "revision", "createdAtUnixMs",
    "updatedAtUnixMs"]

def StoredWorkspaceWorkItemLink.ofJson (value : Json) : Option StoredWorkspaceWorkItemLink := do
  let fields ← objectFields knownFields value
  let linkId ← readField uuid "linkId" fields
  let workspaceId ← readField uuid "workspaceId" fields
  let provider ← readField StoredWorkItemProvider.ofJson "provider" fields
  let role ← readField StoredWorkItemRole.ofJson "role" fields
  let snapshot ← readField StoredWorkItemSnapshot.ofJson "snapshot" fields
  let revision ← readField uint64 "revision" fields
  let createdAtUnixMs ← readField int64 "createdAtUnixMs" fields
  let updatedAtUnixMs ← readField int64 "updatedAtUnixMs" fields
  some
    { linkId := linkId
      workspaceId := workspaceId
      provider := provider
      role := role
      snapshot := snapshot
      revision := revision
      createdAtUnixMs := createdAtUnixMs
      updatedAtUnixMs := updatedAtUnixMs }

@[simp] theorem StoredWorkItemProvider.ofJson_toJson (provider : StoredWorkItemProvider) :
    StoredWorkItemProvider.ofJson provider.toJson = some provider := by
  cases provider
  rfl

@[simp] theorem StoredWorkItemRole.ofJson_toJson (role : StoredWorkItemRole) :
    StoredWorkItemRole.ofJson role.toJson = some role := by
  cases role <;> rfl

theorem string_ne_null (value : String) : Json.string value ≠ .null := by
  intro same
  cases same

theorem StoredWorkItemSnapshot.distinct : (snapshot.slots.map Prod.fst).Nodup := by
  show knownFields.Nodup
  decide

theorem StoredWorkItemSnapshot.ofJson_toJson :
    StoredWorkItemSnapshot.ofJson snapshot.toJson = some snapshot := by
  have fields := objectFields_record knownFields snapshot.distinct fun _ member => member
  have issueKey := readField_present "issueKey" snapshot.distinct rfl
    (text_string snapshot.issueKey)
  have summary := readOptional_present "summary" snapshot.distinct rfl
    (fun summary _ => text_string summary) string_ne_null
  have status := readOptional_present "status" snapshot.distinct rfl
    (fun status _ => text_string status) string_ne_null
  have content := readField_present "content" snapshot.distinct rfl (text_string snapshot.content)
  have browserUrl := readOptional_present "browserUrl" snapshot.distinct rfl
    (fun browserUrl _ => text_string browserUrl) string_ne_null
  have fetchedAtUnixMs := readField_present "fetchedAtUnixMs" snapshot.distinct rfl
    (int64_ofInt64 snapshot.fetchedAtUnixMs)
  simp only [ofJson, toJson, fields, issueKey, summary, status, content, browserUrl,
    fetchedAtUnixMs, Option.bind_eq_bind, Option.bind_some]

theorem StoredWorkspaceWorkItemLink.distinct : (link.slots.map Prod.fst).Nodup := by
  show knownFields.Nodup
  decide

theorem StoredWorkspaceWorkItemLink.ofJson_toJson :
    StoredWorkspaceWorkItemLink.ofJson link.toJson = some link := by
  have fields := objectFields_record knownFields link.distinct fun _ member => member
  have linkId := readField_present "linkId" link.distinct rfl (uuid_ofUuid link.linkId)
  have workspaceId := readField_present "workspaceId" link.distinct rfl
    (uuid_ofUuid link.workspaceId)
  have provider := readField_present "provider" link.distinct rfl
    (StoredWorkItemProvider.ofJson_toJson link.provider)
  have role := readField_present "role" link.distinct rfl
    (StoredWorkItemRole.ofJson_toJson link.role)
  have snapshot := readField_present "snapshot" link.distinct rfl
    (StoredWorkItemSnapshot.ofJson_toJson link.snapshot)
  have revision := readField_present "revision" link.distinct rfl (uint64_ofNat link.revision)
  have createdAtUnixMs := readField_present "createdAtUnixMs" link.distinct rfl
    (int64_ofInt64 link.createdAtUnixMs)
  have updatedAtUnixMs := readField_present "updatedAtUnixMs" link.distinct rfl
    (int64_ofInt64 link.updatedAtUnixMs)
  simp only [ofJson, toJson, fields, linkId, workspaceId, provider, role, snapshot, revision,
    createdAtUnixMs, updatedAtUnixMs, Option.bind_eq_bind, Option.bind_some]

end Wts.Store
