/-
Module: Wts.Store.Calls
Purpose: Runs of the store: the calls that can write with their arguments, what each returns, and
  the tables after a sequence of calls.
-/
import Wts.Store.Links
import Wts.Store.Reviews

namespace Wts.Store

open Workspace

/-- A call of the store with its arguments. -/
inductive Call where
  | create (idempotencyKey : String) (request : CreateWorkspaceRequest)
  | rename (workspaceId : Uuid) (request : RenameWorkspaceRequest)
  | addRepository (workspaceId : Uuid) (repository : WorkspaceRepositoryRequest)
  | removeRepository (workspaceId : Uuid) (repositoryId : String)
  | observeLifecycle (workspaceId : Uuid) (materializationState : WorkspaceMaterializationState)
      (worktreeCount : UInt32)
  | tombstone (workspaceId : Uuid) (idempotencyKey effectDigest resultJson : String)
  | transitionWorkflow (workspaceId : Uuid) (request : TransitionWorkspaceWorkflowRequest)
  | placeWorkspaceOnBoard (workspaceId : Uuid) (request : PlaceWorkspaceOnBoardRequest)
  | followWorkspaceAgent (workspaceId : Uuid) (request : FollowWorkspaceAgentRequest)
  | confirmWorkItemLink (workspaceId : Uuid) (idempotencyKey previewDigest : String)
      (provider : StoredWorkItemProvider) (role : StoredWorkItemRole)
      (snapshot : StoredWorkItemSnapshot)
  | unlinkWorkItemLink (workspaceId linkId : Uuid) (expectedRevision : UInt64)
  | createReviewThread (workspaceId : Uuid) (target : StoredReviewTarget)
      (author : StoredReviewAuthor) (body : String)
  | resolveReviewThread (workspaceId threadId : Uuid) (expectedRevision : UInt64)
  | replaceObservedWorkItems (workspaceId : Uuid) (observations : List ObservedWorkItem)

/-- What a call returns. -/
inductive Response where
  | created (result : Except WorkspaceStoreError CreateWorkspaceResult)
  | viewed (result : Except WorkspaceStoreError WorkspaceView)
  | observed (result : Except WorkspaceStoreError WorkspaceLifecycleSummary)
  | removed (result : Except WorkspaceStoreError TombstoneWorkspaceResult)
  | moved (result : Except WorkspaceStoreError WorkspaceWorkflowSummary)
  | linked (result : Except WorkspaceStoreError ConfirmStoredWorkItemLinkResult)
  | unlinked (result : Except WorkspaceStoreError StoredWorkItemUnlinkResult)
  | reviewed (result : Except WorkspaceStoreError StoredReviewThread)
  | replaced (result : Except WorkspaceStoreError (List ObservedWorkItem))

def Response.isError : Response → Bool
  | .created (.error _) | .viewed (.error _) | .observed (.error _) | .removed (.error _)
  | .moved (.error _) | .linked (.error _) | .unlinked (.error _) | .reviewed (.error _)
  | .replaced (.error _) => true
  | _ => false

/-- One call on the tables. -/
def perform (store : WorkspaceStore) (env : CallEnv) (tables : Tables) : Call → Response × Tables
  | .create key request =>
    let (result, tables) := create store env key request tables
    (.created result, tables)
  | .rename workspaceId request =>
    let (result, tables) := rename store env workspaceId request tables
    (.viewed result, tables)
  | .addRepository workspaceId repository =>
    let (result, tables) := addRepository store env workspaceId repository tables
    (.viewed result, tables)
  | .removeRepository workspaceId repositoryId =>
    let (result, tables) := removeRepository store env workspaceId repositoryId tables
    (.viewed result, tables)
  | .observeLifecycle workspaceId materializationState worktreeCount =>
    let (result, tables) :=
      observeLifecycle store env workspaceId materializationState worktreeCount tables
    (.observed result, tables)
  | .tombstone workspaceId key effectDigest resultJson =>
    let (result, tables) := tombstone store env workspaceId key effectDigest resultJson tables
    (.removed result, tables)
  | .transitionWorkflow workspaceId request =>
    let (result, tables) := transitionWorkflow store env workspaceId request tables
    (.moved result, tables)
  | .placeWorkspaceOnBoard workspaceId request =>
    let (result, tables) := placeWorkspaceOnBoard store env workspaceId request tables
    (.moved result, tables)
  | .followWorkspaceAgent workspaceId request =>
    let (result, tables) := followWorkspaceAgent store env workspaceId request tables
    (.moved result, tables)
  | .confirmWorkItemLink workspaceId key previewDigest provider role snapshot =>
    let (result, tables) :=
      confirmWorkItemLink store env workspaceId key previewDigest provider role snapshot tables
    (.linked result, tables)
  | .unlinkWorkItemLink workspaceId linkId expectedRevision =>
    let (result, tables) :=
      unlinkWorkItemLink store env workspaceId linkId expectedRevision tables
    (.unlinked result, tables)
  | .createReviewThread workspaceId target author body =>
    let (result, tables) := createReviewThread store env workspaceId target author body tables
    (.reviewed result, tables)
  | .resolveReviewThread workspaceId threadId expectedRevision =>
    let (result, tables) :=
      resolveReviewThread store env workspaceId threadId expectedRevision tables
    (.reviewed result, tables)
  | .replaceObservedWorkItems workspaceId observations =>
    let (result, tables) := replaceObservedWorkItems store workspaceId observations tables
    (.replaced result, tables)

/-- The tables after a sequence of calls, each with what it gets from outside. -/
def run (store : WorkspaceStore) : List (Call × CallEnv) → Tables → Tables
  | [], tables => tables
  | (call, env) :: rest, tables => run store rest (perform store env tables call).2

end Wts.Store
