/-
Module: Wts.Store.Sqlite
Purpose: The calls of the workspace store.
-/
import Wts.Store.Tables

namespace Wts.Store

open Text Workspace
open Std (ExtTreeMap)

variable {α : Type}

/-- The outcome of a call and the tables after it. -/
abbrev Outcome (α : Type) := Except WorkspaceStoreError α × Tables

variable (tables : Tables)

/-- An immediate transaction: an error rolls every statement back. -/
def inTransaction (body : Tables → Except WorkspaceStoreError (α × Tables)) :
    Outcome α :=
  match body tables with
  | .error error => (.error error, tables)
  | .ok (value, written) => (.ok value, written)

/-- A view built after the transaction; the tables stay as the transaction left them. -/
def thenView {β : Type} (outcome : Outcome α) (build : α → Tables → Except WorkspaceStoreError β) :
    Outcome β :=
  match outcome with
  | (.error error, tables) => (.error error, tables)
  | (.ok value, tables) => (build value tables, tables)

variable (store : WorkspaceStore)

def get (workspaceId : Uuid) (tables : Tables) :
    Except WorkspaceStoreError (Option WorkspaceView) :=
  match loadProjection store tables workspaceId with
  | .error error => .error error
  | .ok none => .ok none
  | .ok (some decoded) =>
    match view store tables decoded.record decoded.lifecycle with
    | .error error => .error error
    | .ok workspace => .ok (some workspace)

/-- `load_projection` of a call that needs a live workspace. -/
def requireProjection (tables : Tables) (workspaceId : Uuid) :
    Except WorkspaceStoreError DecodedProjection :=
  match loadProjection store tables workspaceId with
  | .error error => .error error
  | .ok none => .error (.workspaceNotFound workspaceId)
  | .ok (some decoded) => .ok decoded

/-! ### Creation -/

def parseIdempotencyKey (value : String) : Except WorkspaceStoreError Uuid :=
  match parseUuid (trim value) with
  | none => .error .invalidIdempotencyKey
  | some id => if id = 0 then .error .invalidIdempotencyKey else .ok id

/-- The hexadecimal SHA-256 of the JSON text of a request. -/
def requestDigest (request : CreateWorkspaceRequest) : String :=
  Sha256.hexEncode (Sha256.sha256 (utf8Bytes (requestJson request)))

/-- The creation event of a key. -/
def findCreated (idempotencyKey : Uuid) : Option CreatedEvent :=
  tables.createdEvents.find? fun event => event.idempotencyKey = idempotencyKey

/-- The workspace of an earlier creation with the same request. -/
def replayedProjection (tables : Tables) (event : CreatedEvent)
    (digest : String) : Except WorkspaceStoreError DecodedProjection :=
  if event.requestDigest ≠ digest then
    .error (.idempotencyConflict event.idempotencyKey)
  else
    match loadProjection store tables event.workspaceId with
    | .error error => .error error
    | .ok none =>
      .error (.corruptRecord "idempotency event has no materialized workspace")
    | .ok (some decoded) => .ok decoded

variable (env : CallEnv)

/-- The plans of a new workspace. The n-th repository takes the n-th identifier after the first. -/
def newPlans (repositories : List WorkspaceRepositoryRequest) :
    List WorkspaceRepositoryPlan :=
  repositories.mapIdx fun index repository =>
    let requestId := env.fresh (index + 1)
    { requestId := requestId
      repositoryId := repository.repositoryId
      label := repository.label
      baseRef := repository.baseRef
      worktreeLeaf := repositoryLeaf repository.label requestId }

def newRecord (env : CallEnv) (request : CreateWorkspaceRequest)
    (timestamp : Int64) : WorkspaceRecord where
  schemaVersion := workspaceRecordSchemaVersion
  workspaceId := env.fresh 0
  recordVersion := workspaceRecordVersion
  intent := request.intent
  title := request.title
  displayName := none
  preferredProvider := request.preferredProvider
  phase := .draft
  repositories := newPlans env request.repositories
  runtime := request.runtime
  planning := request.planning
  workspaceRootId := store.workspaceRoot.id
  workspaceLeaf := workspaceLeaf request.intent (env.fresh 0)
  createdAtUnixMs := timestamp
  updatedAtUnixMs := timestamp

def newLifecycle (timestamp : Int64) : WorkspaceLifecycleSummary where
  materializationState := .notMaterialized
  worktreeCount := 0
  observedAtUnixMs := some timestamp

/-- `serde_json::to_string` of a record, within the limit of the store. -/
def boundedRecordJson (record : WorkspaceRecord) : Except WorkspaceStoreError String :=
  let recordJson := record.toJson.print
  if recordJson.utf8ByteSize > maxRecordJsonBytes then
    .error (.corruptRecord "serialized workspace record exceeds the store limit")
  else
    .ok recordJson

/-- `i64::try_from` on a record version that is written. -/
def recordVersionColumn (version : UInt64) : Except WorkspaceStoreError Int64 :=
  match integerVersion version with
  | none => .error (.corruptRecord "record version exceeds SQLite integer range")
  | some version => .ok version

/-- Insert a creation event: its identifier, workspace and key are unique. -/
def insertCreatedEvent (event : CreatedEvent) (tables : Tables) :
    Except WorkspaceStoreError Tables :=
  if tables.createdEvents.any fun other =>
      other.eventId = event.eventId ∨ other.workspaceId = event.workspaceId ∨
        other.idempotencyKey = event.idempotencyKey then
    .error .database
  else
    .ok { tables with createdEvents := tables.createdEvents ++ [event] }

def insertProjection (workspaceId : Uuid) (row : ProjectionRow) (tables : Tables) :
    Except WorkspaceStoreError Tables :=
  if (tables.projection[workspaceId]?).isSome then
    .error .database
  else
    .ok { tables with projection := tables.projection.insert workspaceId row }

def insertLifecycle (workspaceId : Uuid) (row : LifecycleRow) (tables : Tables) :
    Except WorkspaceStoreError Tables :=
  if (tables.lifecycle[workspaceId]?).isSome then
    .error .database
  else
    .ok { tables with lifecycle := tables.lifecycle.insert workspaceId row }

def insertWorkflow (workspaceId : Uuid) (row : WorkflowRow) (tables : Tables) :
    Except WorkspaceStoreError Tables :=
  if (tables.workflow[workspaceId]?).isSome then
    .error .database
  else
    .ok { tables with workflow := tables.workflow.insert workspaceId row }

/-- The ranks of all workspaces in the ready lane, removed ones too. -/
def readyRanks : List ℕ :=
  tables.workflow.toList.filterMap fun (workspaceId, workflow) =>
    if workflow.state = .ready then
      (tables.placement[workspaceId]?).map PlacementRow.laneRank
    else
      none

/-- `COALESCE(MAX(lane_rank) + 1, 0)`. -/
def nextReadyRank : ℕ :=
  match (readyRanks tables).max? with
  | none => 0
  | some rank => rank + 1

/-- Insert the placement of a new workspace behind the ready lane. A rank beyond the integers of the
database does not fit into its column. -/
def insertPlacement (workspaceId : Uuid) (timestamp : Int64) (tables : Tables) :
    Except WorkspaceStoreError Tables :=
  if (tables.placement[workspaceId]?).isSome ∨ nextReadyRank tables > maxInteger then
    .error .database
  else
    .ok
      { tables with
        placement := tables.placement.insert workspaceId
          { mode := .automatic, laneRank := nextReadyRank tables, updatedAtUnixMs := timestamp } }

def isIssueProjectChar (c : Char) : Bool :=
  isAsciiUppercase c || c.isDigit || c = '_'

def validJiraIssueKey (value : String) : Bool :=
  match splitOnce '-' (String.ofList value.toList.reverse) with
  | none => false
  | some (number, project) =>
    let project := project.toList
    let number := number.toList
    project ≠ [] && project.length ≤ 32 && number ≠ [] && number.length ≤ 16 &&
      project.all isIssueProjectChar && number.all Char.isDigit

def validBoundedOptionalText (value : Option String) (maxBytes : ℕ) : Bool :=
  value.all fun value =>
    value ≠ "" && value = trim value && value.utf8ByteSize ≤ maxBytes &&
      !value.toList.any isControl

def validWorkItemBrowserUrl (value : Option String) : Bool :=
  value.all fun value =>
    match stripPrefix "https://" value with
    | none => false
    | some authorityAndPath =>
      let authority := authorityAndPath.toList.takeWhile (· ≠ '/')
      authority ≠ [] && '.' ∈ authority && value.utf8ByteSize ≤ 2 * 1024 &&
        !(value.toList.any fun c => isControl c || isWhitespace c) && '@' ∉ authority &&
        !(value.toList.any fun c => c = '?' || c = '#')

def isLowercaseHexDigit (c : Char) : Bool :=
  c.isDigit || ('a'.val ≤ c.val && c.val ≤ 'f'.val)

/-- `validate_sha256_digest`, which wants lowercase digits. -/
def validSha256Digest (value : String) : Bool :=
  match stripPrefix "sha256:" value with
  | none => false
  | some hex => hex.toList.length = 64 && hex.toList.all isLowercaseHexDigit

def validateWorkItemSnapshot (snapshot : StoredWorkItemSnapshot) : Except WorkspaceStoreError Unit :=
  if ¬ validJiraIssueKey snapshot.issueKey ∨ snapshot.issueKey.utf8ByteSize > 64 ∨
      snapshot.fetchedAtUnixMs < 0 ∨ snapshot.content.utf8ByteSize > 64 * 1024 ∨
      (snapshot.content.toList.any fun c =>
        isControl c && !(c = '\n' || c = '\x0d' || c = '\t')) ∨
      ¬ validBoundedOptionalText snapshot.summary 512 ∨
      ¬ validBoundedOptionalText snapshot.status 128 ∨
      ¬ validWorkItemBrowserUrl snapshot.browserUrl then
    .error .invalidWorkItemLink
  else
    .ok ()

def validateWorkItemLink (link : StoredWorkspaceWorkItemLink) : Except WorkspaceStoreError Unit :=
  match validateWorkItemSnapshot link.snapshot with
  | .error error => .error error
  | .ok () =>
    if link.linkId = 0 ∨ link.workspaceId = 0 ∨ link.revision = 0 ∨
        link.createdAtUnixMs < 0 ∨ link.updatedAtUnixMs < link.createdAtUnixMs then
      .error .invalidWorkItemLink
    else
      .ok ()

/-- Two links that the table does not hold together: an identifier is unique, an issue is linked once
in a workspace, and a workspace has one primary link. -/
def linksClash (link other : StoredWorkspaceWorkItemLink) : Bool :=
  other.linkId = link.linkId ||
    other.workspaceId = link.workspaceId &&
      (other.provider = link.provider && other.snapshot.issueKey = link.snapshot.issueKey ||
        other.role = .primary && link.role = .primary)

def insertLink (link : StoredWorkspaceWorkItemLink) (tables : Tables) :
    Except WorkspaceStoreError Tables :=
  if tables.links.rows.any (linksClash link) then
    .error .database
  else
    .ok { tables with links := { tables.links with rows := tables.links.rows ++ [link] } }

def insertLinkEvent (event : WorkItemLinkEvent) (tables : Tables) :
    Except WorkspaceStoreError Tables :=
  if tables.links.events.any fun other => other.eventId = event.eventId then
    .error .database
  else
    .ok { tables with links := { tables.links with events := tables.links.events ++ [event] } }

/-- A Jira intent is kept as the primary link of its workspace as well. The identifiers are those
drawn after the one of the creation event. -/
def persistJiraIntentWorkItemLink (record : WorkspaceRecord) (tables : Tables) :
    Except WorkspaceStoreError Tables :=
  match record.intent with
  | .jira issueKey =>
    let linkId := env.fresh (record.repositories.length + 2)
    let link : StoredWorkspaceWorkItemLink :=
      { linkId := linkId
        workspaceId := record.workspaceId
        provider := .jira
        role := .primary
        snapshot :=
          { issueKey := issueKey
            summary := none
            status := none
            content := ""
            browserUrl := none
            fetchedAtUnixMs := 0 }
        revision := 1
        createdAtUnixMs := record.createdAtUnixMs
        updatedAtUnixMs := record.createdAtUnixMs }
    match validateWorkItemLink link with
    | .error error => .error error
    | .ok () =>
    match insertLink link tables with
    | .error error => .error error
    | .ok tables =>
      insertLinkEvent
        { eventId := env.fresh (record.repositories.length + 3)
          workspaceId := record.workspaceId
          linkId := linkId
          linkRevision := 1
          change := .linked link
          createdAtUnixMs := record.createdAtUnixMs }
        tables
  | _ => .ok tables

/-- The statements of a creation, in their order. -/
def insertWorkspace (idempotencyKey : Uuid) (digest : String)
    (record : WorkspaceRecord) (recordJson : String) (version : Int64) (tables : Tables) :
    Except WorkspaceStoreError Tables :=
  let timestamp := record.createdAtUnixMs
  match insertCreatedEvent
      { eventId := env.fresh (record.repositories.length + 1)
        workspaceId := record.workspaceId
        recordVersion := version
        idempotencyKey := idempotencyKey
        requestDigest := digest
        createdAtUnixMs := timestamp } tables with
  | .error error => .error error
  | .ok tables =>
  match insertProjection record.workspaceId
      { recordVersion := version, recordJson := recordJson, updatedAtUnixMs := timestamp }
      tables with
  | .error error => .error error
  | .ok tables =>
  match insertLifecycle record.workspaceId
      { workspaceRecordVersion := version, materializationState := .notMaterialized,
        worktreeCount := 0, observedAtUnixMs := timestamp } tables with
  | .error error => .error error
  | .ok tables =>
  match insertWorkflow record.workspaceId
      { state := .ready, workflowRevision := 1, updatedAtUnixMs := timestamp } tables with
  | .error error => .error error
  | .ok tables =>
  match insertPlacement record.workspaceId timestamp tables with
  | .error error => .error error
  | .ok tables => persistJiraIntentWorkItemLink env record tables

/-- The part of `create` behind the lookup: a new workspace. -/
def createNew (env : CallEnv) (idempotencyKey : Uuid)
    (request : CreateWorkspaceRequest) (tables : Tables) :
    Except WorkspaceStoreError (DecodedProjection × Tables) :=
  match unixTimeMs env with
  | .error error => .error error
  | .ok timestamp =>
  let record := newRecord store env request timestamp
  let lifecycle := newLifecycle timestamp
  match validateRecord store record with
  | .error error => .error error
  | .ok () =>
  match validateLifecycle record lifecycle with
  | .error error => .error error
  | .ok () =>
  match boundedRecordJson record with
  | .error error => .error error
  | .ok recordJson =>
  match recordVersionColumn record.recordVersion with
  | .error error => .error error
  | .ok version =>
  match insertWorkspace env idempotencyKey (requestDigest request) record recordJson version
      tables with
  | .error error => .error error
  | .ok tables => .ok ({ record := record, lifecycle := lifecycle }, tables)

/-- The transaction of `create`: what it returns is a replay or a new workspace. -/
def createTransaction (env : CallEnv) (idempotencyKey : Uuid)
    (request : CreateWorkspaceRequest) (tables : Tables) :
    Except WorkspaceStoreError ((DecodedProjection × Bool) × Tables) :=
  match findCreated tables idempotencyKey with
  | some event =>
    match replayedProjection store tables event (requestDigest request) with
    | .error error => .error error
    | .ok decoded => .ok ((decoded, true), tables)
  | none =>
    match createNew store env idempotencyKey request tables with
    | .error error => .error error
    | .ok (decoded, tables) => .ok ((decoded, false), tables)

def create (env : CallEnv) (idempotencyKey : String)
    (request : CreateWorkspaceRequest) (tables : Tables) : Outcome CreateWorkspaceResult :=
  match parseIdempotencyKey idempotencyKey with
  | .error error => (.error error, tables)
  | .ok idempotencyKey =>
  match orInvalid (request.normalize store.toLowercase) with
  | .error error => (.error error, tables)
  | .ok request =>
    thenView (inTransaction tables (createTransaction store env idempotencyKey request))
      fun (decoded, replayed) tables =>
        match view store tables decoded.record decoded.lifecycle with
        | .error error => .error error
        | .ok workspace => .ok { workspace := workspace, replayed := replayed }

/-! ### Changes of a record -/

def updateProjection (workspaceId : Uuid) (recordJson : String) (updatedAtUnixMs : Int64)
    (tables : Tables) : Tables :=
  match tables.projection[workspaceId]? with
  | none => tables
  | some row =>
    { tables with
      projection := tables.projection.insert workspaceId
        { row with recordJson := recordJson, updatedAtUnixMs := updatedAtUnixMs } }

/-- `UPDATE workspace_lifecycle_projection` after the repositories changed. -/
def updateWorktreeCount (workspaceId : Uuid) (worktreeCount : ℕ) (observedAtUnixMs : Int64)
    (tables : Tables) : Tables :=
  match tables.lifecycle[workspaceId]? with
  | none => tables
  | some row =>
    { tables with
      lifecycle := tables.lifecycle.insert workspaceId
        { row with worktreeCount := worktreeCount, observedAtUnixMs := observedAtUnixMs } }

def viewDecoded (decoded : DecodedProjection) (tables : Tables) :
    Except WorkspaceStoreError WorkspaceView :=
  view store tables decoded.record decoded.lifecycle

def renameTransaction (env : CallEnv) (workspaceId : Uuid) (title : String) (tables : Tables) :
    Except WorkspaceStoreError (DecodedProjection × Tables) :=
  match requireProjection store tables workspaceId with
  | .error error => .error error
  | .ok decoded =>
  match unixTimeMs env with
  | .error error => .error error
  | .ok updatedAtUnixMs =>
  let record :=
    { decoded.record with
      workspaceLeaf := workspaceLeafFromName title workspaceId
      displayName := some title
      updatedAtUnixMs := updatedAtUnixMs }
  match validateRecord store record with
  | .error error => .error error
  | .ok () =>
  match boundedRecordJson record with
  | .error error => .error error
  | .ok recordJson =>
    .ok ({ decoded with record := record },
      updateProjection workspaceId recordJson updatedAtUnixMs tables)

def rename (env : CallEnv) (workspaceId : Uuid)
    (request : RenameWorkspaceRequest) (tables : Tables) : Outcome WorkspaceView :=
  match orInvalid request.normalize with
  | .error error => (.error error, tables)
  | .ok request =>
    thenView (inTransaction tables (renameTransaction store env workspaceId request.title))
      (viewDecoded store)

/-- The repositories in their canonical order. -/
def sortPlans (plans : List WorkspaceRepositoryPlan) :
    List WorkspaceRepositoryPlan :=
  plans.insertionSort fun left right =>
    repositoryKey store.toLowercase left.repositoryId left.label left.baseRef ≤
      repositoryKey store.toLowercase right.repositoryId right.label right.baseRef

/-- The lifecycle after a change of the repositories: a materialized workspace has a worktree for
each. -/
def recountLifecycle (record : WorkspaceRecord) (lifecycle : WorkspaceLifecycleSummary) :
    Except WorkspaceStoreError WorkspaceLifecycleSummary :=
  if lifecycle.materializationState = .materialized then
    if record.repositories.length < 2 ^ 32 then
      .ok
        { lifecycle with
          worktreeCount := UInt32.ofNat record.repositories.length
          observedAtUnixMs := some record.updatedAtUnixMs }
    else
      .error (.corruptRecord "workspace repository count exceeds the lifecycle limit")
  else
    .ok lifecycle

/-- The statements that write a record whose repositories changed. -/
def writeRepositories (record : WorkspaceRecord) (lifecycle : WorkspaceLifecycleSummary)
    (recordJson : String) (tables : Tables) : Tables :=
  let tables :=
    updateProjection record.workspaceId recordJson record.updatedAtUnixMs tables
  if lifecycle.materializationState = .materialized then
    updateWorktreeCount record.workspaceId lifecycle.worktreeCount.toNat record.updatedAtUnixMs
      tables
  else
    tables

def addRepositoryTransaction (env : CallEnv) (workspaceId : Uuid)
    (repository : WorkspaceRepositoryRequest) (tables : Tables) :
    Except WorkspaceStoreError (DecodedProjection × Tables) :=
  match requireProjection store tables workspaceId with
  | .error error => .error error
  | .ok decoded =>
  let requestId := env.fresh 0
  let plan : WorkspaceRepositoryPlan :=
    { requestId := requestId
      repositoryId := repository.repositoryId
      label := repository.label
      baseRef := repository.baseRef
      worktreeLeaf := repositoryLeaf repository.label requestId }
  match unixTimeMs env with
  | .error error => .error error
  | .ok updatedAtUnixMs =>
  let record :=
    { decoded.record with
      repositories := sortPlans store (decoded.record.repositories ++ [plan])
      updatedAtUnixMs := updatedAtUnixMs }
  match recountLifecycle record decoded.lifecycle with
  | .error error => .error error
  | .ok lifecycle =>
  match validateRecord store record with
  | .error error => .error error
  | .ok () =>
  match validateLifecycle record lifecycle with
  | .error error => .error error
  | .ok () =>
  match boundedRecordJson record with
  | .error error => .error error
  | .ok recordJson =>
    .ok ({ record := record, lifecycle := lifecycle },
      writeRepositories record lifecycle recordJson tables)

def addRepository (env : CallEnv) (workspaceId : Uuid)
    (repository : WorkspaceRepositoryRequest) (tables : Tables) : Outcome WorkspaceView :=
  thenView (inTransaction tables (addRepositoryTransaction store env workspaceId repository))
    (viewDecoded store)

/-- The removal has no check of the size of the JSON text. -/
def removeRepositoryTransaction (env : CallEnv) (workspaceId : Uuid)
    (repositoryId : String) (tables : Tables) :
    Except WorkspaceStoreError (DecodedProjection × Tables) :=
  match requireProjection store tables workspaceId with
  | .error error => .error error
  | .ok decoded =>
  let repositories := decoded.record.repositories.filter fun plan =>
    plan.repositoryId ≠ some repositoryId
  if repositories.length = decoded.record.repositories.length then
    .error (.workspaceNotFound workspaceId)
  else
    match unixTimeMs env with
    | .error error => .error error
    | .ok updatedAtUnixMs =>
    let record :=
      { decoded.record with repositories := repositories, updatedAtUnixMs := updatedAtUnixMs }
    match recountLifecycle record decoded.lifecycle with
    | .error error => .error error
    | .ok lifecycle =>
    match validateRecord store record with
    | .error error => .error error
    | .ok () =>
    match validateLifecycle record lifecycle with
    | .error error => .error error
    | .ok () =>
      .ok ({ record := record, lifecycle := lifecycle },
        writeRepositories record lifecycle record.toJson.print tables)

def removeRepository (env : CallEnv) (workspaceId : Uuid)
    (repositoryId : String) (tables : Tables) : Outcome WorkspaceView :=
  thenView (inTransaction tables (removeRepositoryTransaction store env workspaceId repositoryId))
    (viewDecoded store)

def observeLifecycleTransaction (env : CallEnv) (workspaceId : Uuid)
    (materializationState : WorkspaceMaterializationState) (worktreeCount : UInt32)
    (tables : Tables) : Except WorkspaceStoreError (WorkspaceLifecycleSummary × Tables) :=
  match loadProjection store tables workspaceId with
  | .error error => .error error
  | .ok none =>
    .error (.corruptRecord "lifecycle observation refers to a missing workspace")
  | .ok (some decoded) =>
  match unixTimeMs env with
  | .error error => .error error
  | .ok observedAtUnixMs =>
  let lifecycle : WorkspaceLifecycleSummary :=
    { materializationState := materializationState
      worktreeCount := worktreeCount
      observedAtUnixMs := some observedAtUnixMs }
  match validateLifecycle decoded.record lifecycle with
  | .error error => .error error
  | .ok () =>
  match recordVersionColumn decoded.record.recordVersion with
  | .error error => .error error
  | .ok version =>
    .ok (lifecycle,
      { tables with
        lifecycle := tables.lifecycle.insert workspaceId
          { workspaceRecordVersion := version
            materializationState := materializationState
            worktreeCount := worktreeCount.toNat
            observedAtUnixMs := observedAtUnixMs } })

def observeLifecycle (env : CallEnv) (workspaceId : Uuid)
    (materializationState : WorkspaceMaterializationState) (worktreeCount : UInt32)
    (tables : Tables) : Outcome WorkspaceLifecycleSummary :=
  if materializationState = .unknown then
    (.error (.corruptRecord "an unknown lifecycle observation cannot be persisted"), tables)
  else
    inTransaction tables
      (observeLifecycleTransaction store env workspaceId materializationState worktreeCount)

def isAsciiHexDigit (c : Char) : Bool :=
  (Json.hexValue c).isSome

def validateEffectDigest (value : String) : Except WorkspaceStoreError Unit :=
  match stripPrefix "sha256:" value with
  | none => .error .invalidEffectDigest
  | some hex =>
    if hex.toList.length ≠ 64 ∨ ¬ hex.toList.all isAsciiHexDigit then
      .error .invalidEffectDigest
    else
      .ok ()

def validateTombstoneResultJson (value : String) :
    Except WorkspaceStoreError Unit :=
  if value = "" ∨ value.utf8ByteSize > 64 * 1024 then
    .error (.corruptRecord "workspace tombstone result exceeds the store limit")
  else if ¬ store.acceptsJson value then
    .error .serialization
  else
    .ok ()

def tombstoneOfEvent (event : TombstoneEvent) : WorkspaceTombstone where
  workspaceId := event.workspaceId
  idempotencyKey := event.idempotencyKey
  effectDigest := event.effectDigest
  resultJson := event.resultJson
  removedAtUnixMs := event.removedAtUnixMs

/-- Insert a tombstone: its identifier, workspace and key are unique. -/
def insertTombstone (event : TombstoneEvent) (tables : Tables) :
    Except WorkspaceStoreError Tables :=
  if tables.tombstoneEvents.any fun other =>
      other.eventId = event.eventId ∨ other.workspaceId = event.workspaceId ∨
        other.idempotencyKey = event.idempotencyKey then
    .error .database
  else
    .ok { tables with tombstoneEvents := tables.tombstoneEvents ++ [event] }

def tombstoneTransaction (env : CallEnv) (workspaceId idempotencyKey : Uuid)
    (effectDigest resultJson : String) (tables : Tables) :
    Except WorkspaceStoreError (TombstoneWorkspaceResult × Tables) :=
  match tables.tombstoneEvents.find? fun event => event.idempotencyKey = idempotencyKey with
  | some existing =>
    if existing.workspaceId ≠ workspaceId ∨ existing.effectDigest ≠ effectDigest then
      .error (.tombstoneIdempotencyConflict idempotencyKey)
    else
      .ok ({ tombstone := tombstoneOfEvent existing, replayed := true }, tables)
  | none =>
    if tables.tombstoned workspaceId then
      .error (.workspaceAlreadyTombstoned workspaceId)
    else
      match loadProjection store tables workspaceId with
      | .error error => .error error
      | .ok none =>
        .error (.corruptRecord "workspace tombstone refers to a missing workspace")
      | .ok (some _) =>
      match unixTimeMs env with
      | .error error => .error error
      | .ok removedAtUnixMs =>
      let event : TombstoneEvent :=
        { eventId := env.fresh 0
          workspaceId := workspaceId
          idempotencyKey := idempotencyKey
          effectDigest := effectDigest
          resultJson := resultJson
          removedAtUnixMs := removedAtUnixMs }
      match insertTombstone event tables with
      | .error error => .error error
      | .ok tables =>
        .ok ({ tombstone := tombstoneOfEvent event, replayed := false }, tables)

def tombstone (env : CallEnv) (workspaceId : Uuid)
    (idempotencyKey effectDigest resultJson : String) (tables : Tables) :
    Outcome TombstoneWorkspaceResult :=
  match parseIdempotencyKey idempotencyKey with
  | .error error => (.error error, tables)
  | .ok idempotencyKey =>
  match validateEffectDigest effectDigest with
  | .error error => (.error error, tables)
  | .ok () =>
  match validateTombstoneResultJson store resultJson with
  | .error error => (.error error, tables)
  | .ok () =>
    inTransaction tables
      (tombstoneTransaction store env workspaceId idempotencyKey effectDigest resultJson)

/-! ### Board and workflow -/

/-- `apply_lane_order`: the workspaces get the ranks from the given one on. -/
def applyLaneOrder (updatedAtUnixMs : Int64) :
    List Uuid → ℕ → Tables → Except WorkspaceStoreError Tables
  | [], _, tables => .ok tables
  | workspaceId :: rest, rank, tables =>
    if rank > maxInteger then
      .error (.corruptRecord "workspace board rank overflowed")
    else
      match tables.placement[workspaceId]? with
      | none => .error (.corruptRecord "workspace board placement projection is missing")
      | some row =>
        applyLaneOrder updatedAtUnixMs rest (rank + 1)
          { tables with
            placement := tables.placement.insert workspaceId
              { row with laneRank := rank, updatedAtUnixMs := updatedAtUnixMs } }

/-- Insert a workflow event: its identifier and the revision of its workspace are unique. -/
def insertWorkflowEvent (event : WorkflowEvent) (tables : Tables) :
    Except WorkspaceStoreError Tables :=
  if tables.workflowEvents.any fun other =>
      other.eventId = event.eventId ∨
        other.workspaceId = event.workspaceId ∧
          other.workflowRevision = event.workflowRevision then
    .error .database
  else
    .ok { tables with workflowEvents := tables.workflowEvents ++ [event] }

def insertPlacementEvent (event : BoardPlacementEvent) (tables : Tables) :
    Except WorkspaceStoreError Tables :=
  if tables.placementEvents.any fun other =>
      other.eventId = event.eventId ∨
        other.workspaceId = event.workspaceId ∧
          other.workflowRevision = event.workflowRevision then
    .error .database
  else
    .ok { tables with placementEvents := tables.placementEvents ++ [event] }

def persistWorkflowEvent (workspaceId : Uuid) (current : WorkspaceWorkflowSummary)
    (targetState : WorkspaceWorkflowState) (updatedAtUnixMs : Int64) (tables : Tables) :
    Except WorkspaceStoreError Tables :=
  if current.state ≠ targetState then
    insertWorkflowEvent
      { eventId := env.fresh 0
        workspaceId := workspaceId
        fromState := current.state
        toState := targetState
        workflowRevision := current.revision + 1
        createdAtUnixMs := updatedAtUnixMs }
      tables
  else
    .ok tables

/-- `UPDATE workspace_workflow_projection` where the revision is still the one that was read. -/
def updateWorkflow (workspaceId : Uuid) (targetState : WorkspaceWorkflowState)
    (expected revision : ℕ) (updatedAtUnixMs : Int64) (tables : Tables) :
    Except WorkspaceStoreError Tables :=
  match (tables.workflow[workspaceId]?).filter fun row => row.workflowRevision = expected with
  | none =>
    .error (.corruptRecord "workspace workflow projection changed during its transaction")
  | some _ =>
    .ok
      { tables with
        workflow := tables.workflow.insert workspaceId
          { state := targetState, workflowRevision := revision,
            updatedAtUnixMs := updatedAtUnixMs } }

/-- `UPDATE workspace_board_placement_projection`. -/
def updatePlacement (workspaceId : Uuid) (row : PlacementRow) (tables : Tables) :
    Except WorkspaceStoreError Tables :=
  match tables.placement[workspaceId]? with
  | none => .error (.corruptRecord "workspace board placement projection is missing")
  | some _ => .ok { tables with placement := tables.placement.insert workspaceId row }

/-- The revision, the events and the projections of a change. A change of the state draws the
identifier of its workflow event first. -/
def persistWorkflowChange (workspaceId : Uuid) (current : WorkspaceWorkflowSummary)
    (targetState : WorkspaceWorkflowState) (targetMode : WorkspaceBoardPlacementMode)
    (targetRank : ℕ) (eventType : BoardEventType) (updatedAtUnixMs : Int64) (tables : Tables) :
    Except WorkspaceStoreError (WorkspaceWorkflowSummary × Tables) :=
  let revision := current.revision + 1
  if revision > maxInteger then
    .error (.corruptRecord "workspace workflow revision exceeds SQLite integer range")
  else if targetRank > maxInteger ∨ current.placement.rank > maxInteger then
    .error (.corruptRecord "workspace board rank exceeds SQLite range")
  else
    match persistWorkflowEvent env workspaceId current targetState updatedAtUnixMs tables with
    | .error error => .error error
    | .ok tables =>
    match insertPlacementEvent
        { eventId := if current.state ≠ targetState then env.fresh 1 else env.fresh 0
          workspaceId := workspaceId
          eventType := eventType
          fromState := current.state
          toState := targetState
          fromMode := current.placement.mode
          toMode := targetMode
          fromRank := current.placement.rank
          toRank := targetRank
          workflowRevision := revision
          createdAtUnixMs := updatedAtUnixMs } tables with
    | .error error => .error error
    | .ok tables =>
    match updateWorkflow workspaceId targetState current.revision revision updatedAtUnixMs
        tables with
    | .error error => .error error
    | .ok tables =>
    match updatePlacement workspaceId
        { mode := targetMode, laneRank := targetRank, updatedAtUnixMs := updatedAtUnixMs }
        tables with
    | .error error => .error error
    | .ok tables =>
      .ok
        ({ state := targetState
           revision := revision
           updatedAtUnixMs := updatedAtUnixMs
           placement := { mode := targetMode, rank := targetRank } }, tables)

/-- The head of the three calls: the workspace is live and its revision is the expected one. -/
def requireRevision (workspaceId : Uuid) (expectedRevision : ℕ)
    (tables : Tables) : Except WorkspaceStoreError WorkspaceWorkflowSummary :=
  match requireProjection store tables workspaceId with
  | .error error => .error error
  | .ok _ =>
  match loadWorkflow tables workspaceId with
  | .error error => .error error
  | .ok current =>
    if expectedRevision ≠ current.revision then
      .error (.workspaceWorkflowConflict expectedRevision current.revision)
    else
      .ok current

def transitionWorkflowTransaction (env : CallEnv) (workspaceId : Uuid)
    (request : TransitionWorkspaceWorkflowRequest) (tables : Tables) :
    Except WorkspaceStoreError (WorkspaceWorkflowSummary × Tables) :=
  match requireRevision store workspaceId request.expectedRevision tables with
  | .error error => .error error
  | .ok current =>
  if current.placement.mode = .pinned ∨ request.state = current.state then
    .ok (current, tables)
  else
    match unixTimeMs env with
    | .error error => .error error
    | .ok updatedAtUnixMs =>
    let source := loadLaneWorkspaceIds tables current.state (some workspaceId)
    match applyLaneOrder updatedAtUnixMs source 0 tables with
    | .error error => .error error
    | .ok tables =>
    let target := loadLaneWorkspaceIds tables request.state (some workspaceId)
    match applyLaneOrder updatedAtUnixMs (target ++ [workspaceId]) 0 tables with
    | .error error => .error error
    | .ok tables =>
      persistWorkflowChange env workspaceId current request.state .automatic target.length
        .autoTransitioned updatedAtUnixMs tables

def transitionWorkflow (env : CallEnv) (workspaceId : Uuid)
    (request : TransitionWorkspaceWorkflowRequest) (tables : Tables) :
    Outcome WorkspaceWorkflowSummary :=
  inTransaction tables (transitionWorkflowTransaction store env workspaceId request)

/-- The position of the card in the target lane. -/
def insertionIndex (request : PlaceWorkspaceOnBoardRequest) (target : List Uuid) :
    Except WorkspaceStoreError ℕ :=
  match request.beforeWorkspaceId.or request.afterWorkspaceId with
  | none => .ok target.length
  | some anchor =>
    match target.findIdx? fun candidate => candidate = anchor with
    | none => .error .invalidWorkspaceBoardPlacement
    | some index =>
      if request.afterWorkspaceId.isSome then .ok (index + 1) else .ok index

def placeWorkspaceTransaction (env : CallEnv) (workspaceId : Uuid)
    (request : PlaceWorkspaceOnBoardRequest) (tables : Tables) :
    Except WorkspaceStoreError (WorkspaceWorkflowSummary × Tables) :=
  match requireRevision store workspaceId request.expectedRevision tables with
  | .error error => .error error
  | .ok current =>
  let others := loadLaneWorkspaceIds tables request.state (some workspaceId)
  match insertionIndex request others with
  | .error error => .error error
  | .ok index =>
  let target := others.insertIdx index workspaceId
  match unixTimeMs env with
  | .error error => .error error
  | .ok updatedAtUnixMs =>
  match
    if current.state ≠ request.state then
      applyLaneOrder updatedAtUnixMs
        (loadLaneWorkspaceIds tables current.state (some workspaceId)) 0 tables
    else
      .ok tables with
  | .error error => .error error
  | .ok tables =>
  match applyLaneOrder updatedAtUnixMs target 0 tables with
  | .error error => .error error
  | .ok tables =>
    persistWorkflowChange env workspaceId current request.state .pinned index .placed
      updatedAtUnixMs tables

def placeWorkspaceOnBoard (env : CallEnv) (workspaceId : Uuid)
    (request : PlaceWorkspaceOnBoardRequest) (tables : Tables) :
    Outcome WorkspaceWorkflowSummary :=
  if request.beforeWorkspaceId.isSome ∧ request.afterWorkspaceId.isSome then
    (.error .invalidWorkspaceBoardPlacement, tables)
  else if (request.beforeWorkspaceId.or request.afterWorkspaceId).any fun anchor =>
      anchor = 0 ∨ anchor = workspaceId then
    (.error .invalidWorkspaceBoardPlacement, tables)
  else
    inTransaction tables (placeWorkspaceTransaction store env workspaceId request)

def followWorkspaceTransaction (env : CallEnv) (workspaceId : Uuid)
    (request : FollowWorkspaceAgentRequest) (tables : Tables) :
    Except WorkspaceStoreError (WorkspaceWorkflowSummary × Tables) :=
  match requireRevision store workspaceId request.expectedRevision tables with
  | .error error => .error error
  | .ok current =>
  if current.placement.mode = .automatic then
    .ok (current, tables)
  else
    match unixTimeMs env with
    | .error error => .error error
    | .ok updatedAtUnixMs =>
      persistWorkflowChange env workspaceId current current.state .automatic
        current.placement.rank .followAgent updatedAtUnixMs tables

def followWorkspaceAgent (env : CallEnv) (workspaceId : Uuid)
    (request : FollowWorkspaceAgentRequest) (tables : Tables) : Outcome WorkspaceWorkflowSummary :=
  inTransaction tables (followWorkspaceTransaction store env workspaceId request)

def allowedFiles : List String :=
  ["README.md", "PLAN.md", "FINDINGS.md", "KANBAN.md", "PROGRAM-BACKLOG.md"]

/-- The keys that are observed in documents: stricter than the keys that are linked. -/
def validObservedKey (value : String) : Bool :=
  match splitOnce '-' value with
  | none => false
  | some (project, number) =>
    let project := project.toList
    let number := number.toList
    2 ≤ project.length && project.length ≤ 16 && project.head?.any isAsciiUppercase &&
      project.all (fun c => isAsciiUppercase c || c.isDigit) && 1 ≤ number.length &&
      number.length ≤ 10 && number.head? ≠ some '0' && number.all Char.isDigit

def validObservedWorkItem (observation : ObservedWorkItem) : Bool :=
  validObservedKey observation.issueKey && 0 ≤ observation.observedAtUnixMs &&
    observation.sourceFiles ≠ [] && observation.sourceFiles.length ≤ allowedFiles.length &&
    observation.sourceFiles.all fun source => source ∈ allowedFiles

def validateObservedWorkItems (observations : List ObservedWorkItem) :
    Except WorkspaceStoreError Unit :=
  if observations.length > 64 then
    .error (.corruptRecord "work-item observation count exceeds the store limit")
  else if ¬ observations.all validObservedWorkItem then
    .error (.corruptRecord "work-item observation is invalid")
  else
    .ok ()

/-- Insert an observation: a workspace has an issue and a source file once. -/
def insertObservation (row : ObservationRow) (tables : Tables) :
    Except WorkspaceStoreError Tables :=
  if tables.observations.any fun other =>
      other.workspaceId = row.workspaceId ∧ other.issueKey = row.issueKey ∧
        other.sourceFile = row.sourceFile then
    .error .database
  else
    .ok { tables with observations := tables.observations ++ [row] }

def insertObservations : List ObservationRow → Tables → Except WorkspaceStoreError Tables
  | [], tables => .ok tables
  | row :: rest, tables =>
    match insertObservation row tables with
    | .error error => .error error
    | .ok tables => insertObservations rest tables

def observationRows (workspaceId : Uuid) (observations : List ObservedWorkItem) :
    List ObservationRow :=
  observations.flatMap fun observation =>
    observation.sourceFiles.map fun sourceFile =>
      { workspaceId := workspaceId
        issueKey := observation.issueKey
        sourceFile := sourceFile
        observedAtUnixMs := observation.observedAtUnixMs }

def replaceObservedTransaction (workspaceId : Uuid)
    (observations : List ObservedWorkItem) (tables : Tables) :
    Except WorkspaceStoreError (Unit × Tables) :=
  match requireProjection store tables workspaceId with
  | .error error => .error error
  | .ok _ =>
  match insertObservations (observationRows workspaceId observations)
      { tables with
        observations := tables.observations.filter fun row => row.workspaceId ≠ workspaceId } with
  | .error error => .error error
  | .ok tables => .ok ((), tables)

def replaceObservedWorkItems (workspaceId : Uuid)
    (observations : List ObservedWorkItem) (tables : Tables) : Outcome (List ObservedWorkItem) :=
  match validateObservedWorkItems observations with
  | .error error => (.error error, tables)
  | .ok () =>
    thenView (inTransaction tables (replaceObservedTransaction store workspaceId observations))
      fun () tables => .ok (loadObservedWorkItems tables workspaceId)

end Wts.Store
