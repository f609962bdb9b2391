/-
Module: Wts.Integrations.GitlabMergeRequests
Purpose: The inbox of merge requests of the managed branches, with the cache that stands in for it
  when the provider fails.
Trusted boundary: url::Url::parse and serde_json, whose readings are given
-/
import Wts.Integrations.GitlabValues

namespace Wts.Gitlab

open Text

inductive GitlabMergeRequestStatus where
  | open
  | merged
  | closed
deriving DecidableEq

structure GitlabMergeRequest where
  id : String
  repositoryId : String
  projectPath : String
  webUrl : String
  iid : ℕ
  title : String
  authorUsername : String
  sourceBranch : String
  targetBranch : String
  sourceHeadCommitOid : Option String
  updatedAt : String
  draft : Bool
  status : GitlabMergeRequestStatus
deriving DecidableEq

structure GitlabMergeRequestInbox where
  schemaVersion : ℕ
  state : InboxState
  mergeRequests : List GitlabMergeRequest
  fetchedAtUnixMs : Option ℕ
  detail : String
  diagnosticCode : Option DiagnosticCode

structure MergeRequestNode where
  id : ℕ
  iid : ℕ
  title : String
  webUrl : String
  state : String
  sourceBranch : String
  sourceProjectId : Option ℕ
  targetProjectId : Option ℕ
  sha : Option String
  targetBranch : String
  authorUsername : String
  reviewers : List String
  updatedAt : String
  draft : Bool
  userNotesCount : ℕ
  blockingDiscussionsResolved : Option Bool

structure CacheEntry where
  fetchedAtUnixMs : ℕ
  mergeRequests : List GitlabMergeRequest

abbrev MergeRequestCache : Type :=
  String → Option CacheEntry

/-- `iter().take(MAX_TRUSTED_REPOSITORIES).cloned().collect::<BTreeSet<_>>()`. -/
def trustedSet {ρ : Type} [LinearOrder ρ] (repositories : List ρ) : List ρ :=
  (repositories.take maxTrustedRepositories).toFinset.sort (· ≤ ·)

/-- The distinct hosts in order. -/
def hostSet (hosts : List String) : List String :=
  hosts.toFinset.sort (· ≤ ·)

section Nodes

variable (parseUrl : String → Option Url)

/-- The parts of a URL that may not be there, apart from its path. -/
def plainHttps (url : Url) (host : String) : Bool :=
  url.scheme = "https" && url.host = some host && url.port.isNone && url.username = "" &&
    url.password.isNone && url.query.isNone && url.fragment.isNone

def validateMergeRequestUrl (candidate : String) (repository : GitlabTrustedRepository) (iid : ℕ) :
    Bool :=
  (parseUrl candidate).any fun url =>
    plainHttps url repository.host &&
      url.path = "/" ++ repository.projectPath ++ "/-/merge_requests/" ++ decimal iid

def mergeRequestStatus : String → Option GitlabMergeRequestStatus
  | "opened" => some .open
  | "merged" => some .merged
  | "closed" => some .closed
  | _ => none

def validatedBranchMergeRequest (node : MergeRequestNode) (repository : GitlabTrustedRepository) :
    Option GitlabMergeRequest := do
  let status ← mergeRequestStatus node.state
  if node.id = 0 ∨ node.iid = 0 ∨ maxIid < node.iid ∨
      node.sourceBranch ≠ repository.sourceBranch then
    none
  else if !validateMergeRequestUrl parseUrl node.webUrl repository node.iid then
    none
  else do
    let title ← boundedText node.title 256
    let author ← validatedUsername node.authorUsername
    let targetBranch ← validatedBranch node.targetBranch
    let updatedAt ← boundedText node.updatedAt maxTextChars
    some {
      id := decimal node.id
      repositoryId := repository.repositoryId
      projectPath := repository.projectPath
      webUrl := node.webUrl
      iid := node.iid
      title := title
      authorUsername := author
      sourceBranch := repository.sourceBranch
      targetBranch := targetBranch
      sourceHeadCommitOid := (node.sha.bind validatedOid).map toAsciiLowercase
      updatedAt := updatedAt
      draft := node.draft
      status := status }

def validatedMergeRequest (node : MergeRequestNode) (repository : GitlabTrustedRepository)
    (username : String) : Option GitlabMergeRequest :=
  if eqIgnoreAsciiCase node.authorUsername username then
    validatedBranchMergeRequest parseUrl node repository
  else
    none

/-! ### Collecting -/

/-- What the provider answers in one call. -/
structure ListAnswers where
  executable : Bool
  user : String → Answer GitlabCurrentUser
  mergeRequests : GitlabTrustedRepository → Answer (List MergeRequestNode)
  linkedUser : GitlabTrustedRepository → Answer GitlabCurrentUser
  linked : GitlabTrustedRepository → ℕ → Answer MergeRequestNode
  now : ℕ

def queryRepository (answers : ListAnswers) (repository : GitlabTrustedRepository) :
    Except Failure (List GitlabMergeRequest) := do
  let nodes ← (answers.mergeRequests repository).read
  .ok ((nodes.take maxPerRepository).filterMap fun node =>
    validatedBranchMergeRequest parseUrl node repository)

def queryLinkedMergeRequest (answers : ListAnswers) (repository : GitlabTrustedRepository)
    (iid : ℕ) : Except Failure GitlabMergeRequest :=
  if iid = 0 ∨ maxIid < iid then
    .error .invalid
  else do
    let user ← currentUserIdentity (answers.linkedUser repository)
    let node ← (answers.linked repository iid).read
    if node.iid ≠ iid ∨ node.sourceProjectId = none ∨
        node.sourceProjectId ≠ node.targetProjectId then
      .error .invalid
    else
      match GitlabTrustedRepository.fromOrigin parseUrl repository.repositoryId
          (httpsOrigin repository.host repository.projectPath) node.sourceBranch
          repository.headCommitOid with
      | none => .error .invalid
      | some source =>
        match validatedMergeRequest parseUrl node source user.username with
        | none => .error .invalid
        | some linked => .ok linked

/-- The merge requests of one repository after those found before. -/
def collectRepository (answers : ListAnswers) (links : String → Option ℕ)
    (found : List GitlabMergeRequest) (repository : GitlabTrustedRepository) :
    Except Failure (List GitlabMergeRequest) := do
  let mergeRequests ← queryRepository parseUrl answers repository
  let found := found ++ mergeRequests
  match links repository.repositoryId with
  | none => .ok found
  | some iid => do
    let linked ← queryLinkedMergeRequest parseUrl answers repository iid
    if found.any fun mr => mr.repositoryId = linked.repositoryId && mr.iid = iid then
      .ok found
    else
      .ok (found ++ [linked])

/-- The order of the list: the last update first, then by repository and number. -/
def GitlabMergeRequest.sortKey (mergeRequest : GitlabMergeRequest) :
    Stringᵒᵈ ×ₗ String ×ₗ ℕ :=
  toLex (OrderDual.toDual mergeRequest.updatedAt,
    toLex (mergeRequest.repositoryId, mergeRequest.iid))

/-- The order of the fallback: the last update first. -/
def GitlabMergeRequest.updateKey (mergeRequest : GitlabMergeRequest) : Stringᵒᵈ :=
  OrderDual.toDual mergeRequest.updatedAt

def collectMergeRequests (answers : ListAnswers) (links : String → Option ℕ)
    (repositories : List GitlabTrustedRepository) : Except Failure (List GitlabMergeRequest) :=
  if !answers.executable then
    .error .missing
  else do
    -- Every repository has its host among those with an identity.
    (hostSet (repositories.map GitlabTrustedRepository.host)).forM fun host => do
      let _ ← currentUserIdentity (answers.user host)
      .ok ()
    let found ← repositories.foldlM (collectRepository parseUrl answers links) []
    .ok ((found.insertionSort fun left right => left.sortKey ≤ right.sortKey).take
      maxMergeRequests)

end Nodes

def cacheKey (repository : GitlabTrustedRepository) : String :=
  repository.host ++ "/" ++ toAsciiLowercase repository.projectPath ++ "/" ++ repository.sourceBranch

def inbox (state : InboxState) (mergeRequests : List GitlabMergeRequest)
    (fetchedAtUnixMs : Option ℕ) (diagnosticCode : Option DiagnosticCode) (detail : String) :
    GitlabMergeRequestInbox where
  schemaVersion := schemaVersion
  state := state
  mergeRequests := mergeRequests
  fetchedAtUnixMs := fetchedAtUnixMs
  detail := detail
  diagnosticCode := diagnosticCode

/-- The cache after a fresh list: each repository keeps the merge requests with its identifier. -/
def storeMergeRequests (repositories : List GitlabTrustedRepository)
    (found : List GitlabMergeRequest) (fetchedAt : ℕ) (cache : MergeRequestCache) :
    MergeRequestCache :=
  repositories.foldl (fun cache repository =>
    Function.update cache (cacheKey repository) (some {
      fetchedAtUnixMs := fetchedAt
      mergeRequests := found.filter fun mergeRequest =>
        mergeRequest.repositoryId = repository.repositoryId })) cache

def failure (cache : MergeRequestCache) (repositories : List GitlabTrustedRepository)
    (error : Failure) : GitlabMergeRequestInbox :=
  let entries := repositories.filterMap fun repository => cache (cacheKey repository)
  let complete := repositories.all fun repository => (cache (cacheKey repository)).isSome
  let fetchedAt := (entries.map CacheEntry.fetchedAtUnixMs).min?
  let cached := entries.flatMap CacheEntry.mergeRequests
  let (state, code, detail) := error.contract
  if complete && fetchedAt.isSome then
    inbox .stale
      ((cached.insertionSort fun left right => left.updateKey ≤ right.updateKey).take
        maxMergeRequests)
      fetchedAt (some code) "GitLab is unavailable. Showing the last verified merge request status."
  else
    inbox state [] none (some code) detail

/-- The cache and the inbox after the call. -/
def listWithLinks (parseUrl : String → Option Url) (answers : ListAnswers)
    (repositories : List GitlabTrustedRepository) (links : String → Option ℕ)
    (cache : MergeRequestCache) : MergeRequestCache × GitlabMergeRequestInbox :=
  let repositories := trustedSet repositories
  if repositories = [] then
    (cache, inbox .fresh [] (some answers.now) none
      "No managed GitLab repositories are available.")
  else
    match collectMergeRequests parseUrl answers links repositories with
    | .error error => (cache, failure cache repositories error)
    | .ok found =>
      (storeMergeRequests repositories found answers.now cache,
        inbox .fresh found (some answers.now) none
          "GitLab returned merge requests for the managed branches.")

end Wts.Gitlab
