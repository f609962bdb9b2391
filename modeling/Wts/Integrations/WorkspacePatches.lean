/-
Module: Wts.Integrations.WorkspacePatches
Purpose: The patch of a merge request that is fetched for a repository of a workspace.
Trusted boundary: url::Url::parse and serde_json, whose values are given
-/
import Wts.Integrations.GitlabPatches
import Wts.Integrations.GitlabReviews
import Wts.Library.Json

namespace Wts.Gitlab

/-- The changes of a merge request with the flag that `fetch_review_patch` does not read. -/
structure WorkspaceChangesResponse extends ReviewChangesResponse where
  overflow : Bool

/-- What the provider answers; the metadata and the changes are read from one output. -/
structure WorkspacePatchAnswers where
  executable : Bool
  user : Answer GitlabCurrentUser
  metadata : Answer MergeRequestNode
  changes : Answer WorkspaceChangesResponse
  now : ℕ

section Calls

variable (parseUrl : String → Option Url)

def expectedRepository (repository : GitlabTrustedRepository) (planBaseBranch : Option String)
    (sourceBranch : String) : Option GitlabTrustedRepository :=
  if sourceBranch = repository.sourceBranch then
    some repository
  else if planBaseBranch = some sourceBranch then
    GitlabTrustedRepository.fromOrigin parseUrl repository.repositoryId
      (httpsOrigin repository.host repository.projectPath) sourceBranch repository.headCommitOid
  else
    none

def checkedMetadata (repository : GitlabTrustedRepository) (iid : ℕ) (planBaseBranch : Option String)
    (node : MergeRequestNode) : Except String GitlabMergeRequest :=
  if node.iid ≠ iid then
    .error "reviewNotFound"
  else
    match (expectedRepository parseUrl repository planBaseBranch node.sourceBranch).bind fun source =>
        validatedMergeRequest parseUrl node source node.authorUsername with
    | none => .error "reviewNotFound"
    | some metadata => .ok metadata

/-- The closure `fetched` of `workspace_review_patch`. -/
def buildWorkspaceReviewPatch (answers : WorkspacePatchAnswers) (repository : GitlabTrustedRepository)
    (iid : ℕ) (planBaseBranch : Option String) : Except String GitlabReviewPatch :=
  if !answers.executable then
    .error "glabMissing"
  else
    match currentUserIdentity answers.user with
    | .error _ => .error "providerFailed"
    | .ok _ => do
      let node ← answers.metadata.required
      let metadata ← checkedMetadata parseUrl repository iid planBaseBranch node
      let response ← answers.changes.required
      let base ← requiredOid response.baseSha
      let start ← requiredOid response.startSha
      let head ← requiredOid response.headSha
      if metadata.sourceHeadCommitOid.any fun oid => oid ≠ toAsciiLowercase head then
        .error "providerResponseInvalid"
      else do
        let (patch, truncated) ← reviewChangesPatch response.changes
        .ok {
          schemaVersion := schemaVersion
          repositoryId := repository.repositoryId
          iid := iid
          baseCommitOid := toAsciiLowercase base
          startCommitOid := toAsciiLowercase start
          headCommitOid := toAsciiLowercase head
          selectedCommitOid := none
          commits := []
          discussions := []
          patch := patch
          patchTruncated := truncated || response.overflow
          fromCache := false
          fetchedAtUnixMs := answers.now }

/-! ### The call -/

def workspaceReviewCacheTtlMs : ℕ := 30000

/-- The patches that `workspace_review_patch` holds, by the JSON text of what it was asked for. -/
abbrev WorkspacePatches := Std.TreeMap String GitlabReviewPatch

def workspacePatchKey (repository : GitlabTrustedRepository) (iid : ℕ)
    (planBaseBranch : Option String) : String :=
  (Json.array [.string repository.repositoryId, .string repository.host, .string repository.projectPath,
    .string repository.sourceBranch, planBaseBranch.elim .null .string, .number iid]).print

/-- The loop that removes the oldest patches; it runs at most once for each patch. -/
def evictPatches : ℕ → WorkspacePatches → WorkspacePatches
  | 0, patches => patches
  | rounds + 1, patches =>
    if maxSavedReviewPatches < patches.size then
      match patches.toList.argmin fun entry => entry.2.fetchedAtUnixMs with
      | none => patches
      | some (key, _) => evictPatches rounds (patches.erase key)
    else
      patches

/-- `now` is the time at the start of the call. -/
def workspaceReviewPatch (now : ℕ) (answers : WorkspacePatchAnswers)
    (repository : GitlabTrustedRepository) (iid : ℕ) (planBaseBranch : Option String) (refresh : Bool)
    (patches : WorkspacePatches) : WorkspacePatches × Except String GitlabReviewPatch :=
  if iid = 0 ∨ maxIid < iid then
    (patches, .error "reviewNotFound")
  else
    let key := workspacePatchKey repository iid planBaseBranch
    match patches[key]?.filter fun patch =>
        !refresh && now - patch.fetchedAtUnixMs < workspaceReviewCacheTtlMs with
    | some recent => (patches, .ok recent)
    | none =>
      match buildWorkspaceReviewPatch parseUrl answers repository iid planBaseBranch with
      | .ok patch =>
        let held := patches.insert key patch
        (evictPatches held.size held, .ok patch)
      | .error error =>
        match patches[key]? with
        | some cached =>
          if error = "providerFailed" ∨ error = "glabMissing" then (patches, .ok cached.cached)
          else (patches, .error error)
        | none => (patches, .error error)

end Calls

end Wts.Gitlab
