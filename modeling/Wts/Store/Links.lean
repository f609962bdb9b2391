/-
Module: Wts.Store.Links
Purpose: The links of a workspace to work items: a confirmed preview links an issue, an unlink
  removes the link again.
-/
import Wts.Store.Sqlite

namespace Wts.Store

open Text

/-- The order of the roles in a listing. -/
def roleRank : StoredWorkItemRole → ℕ
  | .primary => 0
  | .createdFromWorkspace => 1
  | .related => 2

/-- A row as it is read: every error of its validation is reported as a corrupt record. -/
def decodeLink (link : StoredWorkspaceWorkItemLink) :
    Except WorkspaceStoreError StoredWorkspaceWorkItemLink :=
  match validateWorkItemLink link with
  | .error _ => .error (.corruptRecord "workspace work-item link projection is invalid")
  | .ok () => .ok link

variable (tables : Tables)

/-- The links of a workspace by role, then by their creation, then by identifier. -/
def loadWorkItemLinks (workspaceId : Uuid) :
    Except WorkspaceStoreError (List StoredWorkspaceWorkItemLink) :=
  let rows := tables.links.rows.filter fun link => link.workspaceId = workspaceId
  let ordered := rows.insertionSort fun left right =>
    roleRank left.role < roleRank right.role ∨ roleRank left.role = roleRank right.role ∧
      (left.createdAtUnixMs < right.createdAtUnixMs ∨
        left.createdAtUnixMs = right.createdAtUnixMs ∧ left.linkId ≤ right.linkId)
  ordered.mapM decodeLink

def loadWorkItemLink (workspaceId linkId : Uuid) :
    Except WorkspaceStoreError (Option StoredWorkspaceWorkItemLink) :=
  match loadWorkItemLinks tables workspaceId with
  | .error error => .error error
  | .ok links => .ok (links.find? fun link => link.linkId = linkId)

def loadWorkItemLinkByIssue (workspaceId : Uuid)
    (provider : StoredWorkItemProvider) (issueKey : String) :
    Except WorkspaceStoreError (Option StoredWorkspaceWorkItemLink) :=
  match loadWorkItemLinks tables workspaceId with
  | .error error => .error error
  | .ok links =>
    .ok (links.find? fun link => link.provider = provider ∧ link.snapshot.issueKey = issueKey)

/-! ### Confirmations -/

/-- The recorded confirmation of a key. -/
def findConfirmation (idempotencyKey : Uuid) : Option WorkItemLinkConfirmation :=
  tables.links.confirmations.find? fun confirmation => confirmation.idempotencyKey = idempotencyKey

variable (store : WorkspaceStore)

/-- The link that a confirmation returned. -/
def decodeConfirmation (confirmation : WorkItemLinkConfirmation) :
    Except WorkspaceStoreError StoredWorkspaceWorkItemLink :=
  match (Json.parse confirmation.resultJson).bind StoredWorkspaceWorkItemLink.ofJson with
  | none => .error (.corruptRecord (store.linkJsonError confirmation.resultJson))
  | some link =>
    match validateWorkItemLink link with
    | .error error => .error error
    | .ok () => .ok link

/-- The lookup that the confirmation and its replay share. -/
def recordedConfirmation (workspaceId idempotencyKey : Uuid)
    (previewDigest : String) (tables : Tables) :
    Except WorkspaceStoreError (Option ConfirmStoredWorkItemLinkResult) :=
  match findConfirmation tables idempotencyKey with
  | none => .ok none
  | some confirmation =>
    if confirmation.workspaceId ≠ workspaceId ∨ confirmation.previewDigest ≠ previewDigest then
      .error (.workItemLinkIdempotencyConflict idempotencyKey)
    else
      match decodeConfirmation store confirmation with
      | .error error => .error error
      | .ok link => .ok (some { link := link, replayed := true })

def insertConfirmation (confirmation : WorkItemLinkConfirmation) (tables : Tables) :
    Except WorkspaceStoreError Tables :=
  if (findConfirmation tables confirmation.idempotencyKey).isSome then
    .error .database
  else
    .ok
      { tables with
        links :=
          { tables.links with
            confirmations := tables.links.confirmations ++ [confirmation] } }

/-- The statements of a confirmation, in their order. -/
def insertConfirmedLink (env : CallEnv) (idempotencyKey : Uuid) (previewDigest : String)
    (link : StoredWorkspaceWorkItemLink) (tables : Tables) : Except WorkspaceStoreError Tables :=
  match insertLink link tables with
  | .error error => .error error
  | .ok tables =>
  match insertLinkEvent
      { eventId := env.fresh 1
        workspaceId := link.workspaceId
        linkId := link.linkId
        linkRevision := 1
        change := .linked link
        createdAtUnixMs := link.createdAtUnixMs } tables with
  | .error error => .error error
  | .ok tables =>
    insertConfirmation
      { idempotencyKey := idempotencyKey
        workspaceId := link.workspaceId
        previewDigest := previewDigest
        resultJson := link.toJson.print
        createdAtUnixMs := link.createdAtUnixMs } tables

/-- `SELECT EXISTS` of a primary link. -/
def hasPrimaryLink (workspaceId : Uuid) : Bool :=
  tables.links.rows.any fun link => link.workspaceId = workspaceId ∧ link.role = .primary

def confirmNewLink (env : CallEnv) (workspaceId idempotencyKey : Uuid) (previewDigest : String)
    (provider : StoredWorkItemProvider) (role : StoredWorkItemRole)
    (snapshot : StoredWorkItemSnapshot) (tables : Tables) :
    Except WorkspaceStoreError (ConfirmStoredWorkItemLinkResult × Tables) :=
  match loadWorkItemLinkByIssue tables workspaceId provider snapshot.issueKey with
  | .error error => .error error
  | .ok (some _) => .error .workItemLinkAlreadyExists
  | .ok none =>
  if role = .primary ∧ hasPrimaryLink tables workspaceId then
    .error .primaryWorkItemLinkAlreadyExists
  else
    match unixTimeMs env with
    | .error error => .error error
    | .ok createdAtUnixMs =>
    let link : StoredWorkspaceWorkItemLink :=
      { linkId := env.fresh 0
        workspaceId := workspaceId
        provider := provider
        role := role
        snapshot := snapshot
        revision := 1
        createdAtUnixMs := createdAtUnixMs
        updatedAtUnixMs := createdAtUnixMs }
    match validateWorkItemLink link with
    | .error error => .error error
    | .ok () =>
    match insertConfirmedLink env idempotencyKey previewDigest link tables with
    | .error error => .error error
    | .ok tables => .ok ({ link := link, replayed := false }, tables)

def confirmTransaction (env : CallEnv) (workspaceId idempotencyKey : Uuid)
    (previewDigest : String) (provider : StoredWorkItemProvider) (role : StoredWorkItemRole)
    (snapshot : StoredWorkItemSnapshot) (tables : Tables) :
    Except WorkspaceStoreError (ConfirmStoredWorkItemLinkResult × Tables) :=
  match requireProjection store tables workspaceId with
  | .error error => .error error
  | .ok _ =>
  match recordedConfirmation store workspaceId idempotencyKey previewDigest tables with
  | .error error => .error error
  | .ok (some result) => .ok (result, tables)
  | .ok none =>
    confirmNewLink env workspaceId idempotencyKey previewDigest provider role snapshot tables

def confirmWorkItemLink (env : CallEnv) (workspaceId : Uuid)
    (idempotencyKey previewDigest : String) (provider : StoredWorkItemProvider)
    (role : StoredWorkItemRole) (snapshot : StoredWorkItemSnapshot) (tables : Tables) :
    Outcome ConfirmStoredWorkItemLinkResult :=
  match parseIdempotencyKey idempotencyKey with
  | .error error => (.error error, tables)
  | .ok idempotencyKey =>
  if ¬ validSha256Digest previewDigest then
    (.error .staleWorkItemLinkPreview, tables)
  else
    match validateWorkItemSnapshot snapshot with
    | .error error => (.error error, tables)
    | .ok () =>
      inTransaction tables
        (confirmTransaction store env workspaceId idempotencyKey previewDigest provider role
          snapshot)

/-- The replay takes no snapshot and does not look at the workspace. -/
def confirmedWorkItemLinkReplay (workspaceId : Uuid)
    (idempotencyKey previewDigest : String) (tables : Tables) :
    Except WorkspaceStoreError (Option ConfirmStoredWorkItemLinkResult) :=
  match parseIdempotencyKey idempotencyKey with
  | .error error => .error error
  | .ok idempotencyKey =>
  if ¬ validSha256Digest previewDigest then
    .error .staleWorkItemLinkPreview
  else
    recordedConfirmation store workspaceId idempotencyKey previewDigest tables

/-- The row that `DELETE` removes. -/
def matchesLink (workspaceId linkId : Uuid) (revision : UInt64)
    (link : StoredWorkspaceWorkItemLink) : Bool :=
  link.workspaceId = workspaceId && link.linkId = linkId && link.revision = revision

def unlinkTransaction (env : CallEnv) (workspaceId linkId : Uuid)
    (expectedRevision : UInt64) (tables : Tables) :
    Except WorkspaceStoreError (StoredWorkItemUnlinkResult × Tables) :=
  match requireProjection store tables workspaceId with
  | .error error => .error error
  | .ok _ =>
  match loadWorkItemLink tables workspaceId linkId with
  | .error error => .error error
  | .ok none => .error (.workItemLinkNotFound linkId)
  | .ok (some link) =>
  if link.revision ≠ expectedRevision then
    .error (.workItemLinkConflict expectedRevision link.revision)
  else if expectedRevision.toNat > maxInteger then
    .error .invalidWorkItemLink
  else if tables.links.rows.countP (matchesLink workspaceId linkId expectedRevision) ≠ 1 then
    .error (.workItemLinkConflict expectedRevision link.revision)
  else
    match unixTimeMs env with
    | .error error => .error error
    | .ok createdAtUnixMs =>
    match insertLinkEvent
        { eventId := env.fresh 0
          workspaceId := workspaceId
          linkId := linkId
          linkRevision := link.revision
          change := .unlinked link.revision link.snapshot.issueKey
          createdAtUnixMs := createdAtUnixMs }
        { tables with
          links :=
            { tables.links with
              rows := tables.links.rows.filter fun row =>
                !matchesLink workspaceId linkId expectedRevision row } } with
    | .error error => .error error
    | .ok tables =>
      .ok
        ({ workspaceId := workspaceId, linkId := linkId, removedRevision := link.revision },
          tables)

def unlinkWorkItemLink (env : CallEnv) (workspaceId linkId : Uuid)
    (expectedRevision : UInt64) (tables : Tables) : Outcome StoredWorkItemUnlinkResult :=
  if expectedRevision = 0 then
    (.error .invalidWorkItemLink, tables)
  else
    inTransaction tables (unlinkTransaction store env workspaceId linkId expectedRevision)

end Wts.Store
