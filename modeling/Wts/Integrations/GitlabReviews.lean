/-
Module: Wts.Integrations.GitlabReviews
Purpose: The reviews that are requested from the user, the project that each of them is opened in,
  and the patches that are fetched and cached for them.
Trusted boundary: url::Url::parse and serde_json, whose readings are given
-/
import Wts.Integrations.GitlabMergeRequests
import Wts.Integrations.GitlabPatches

namespace Wts.Gitlab

open Text

inductive GitlabReviewState where
  | requested
  | approved
  | changesAfterApproval
deriving DecidableEq

structure GitlabReview where
  id : String
  repositoryId : String
  repository : String
  number : ℕ
  title : String
  authorLogin : String
  sourceBranch : String
  targetBranch : String
  headCommitOid : Option String
  updatedAt : String
  draft : Bool
  reviewState : GitlabReviewState
  status : GitlabMergeRequestStatus
  commentCount : ℕ
  discussionsResolved : Option Bool
deriving DecidableEq

structure GitlabReviewInbox where
  schemaVersion : ℕ
  state : InboxState
  reviews : List GitlabReview
  fetchedAtUnixMs : Option ℕ
  detail : String
  diagnosticCode : Option DiagnosticCode

structure ReviewCacheEntry where
  fetchedAtUnixMs : ℕ
  reviews : List GitlabReview

abbrev ReviewCache : Type :=
  String → Option ReviewCacheEntry

/-- The origin that a review is opened in, by repository and number. -/
abbrev ReviewTargets : Type :=
  String × ℕ → Option String

structure ReviewSystemNote where
  system : Bool
  body : String
  authorUsername : String

/-- What the adapter holds, and the file that its patches are saved in, if it has one. -/
structure Adapter where
  reviewCache : ReviewCache
  reviewTargets : ReviewTargets
  reviewPatches : ReviewPatches
  savesPatches : Bool
  cacheFile : Option CacheFile

/-- `new_with_review_patch_cache`. -/
def Adapter.new (savesPatches : Bool) (cacheFile : Option CacheFile) : Adapter where
  reviewCache := fun _ => none
  reviewTargets := fun _ => none
  reviewPatches := if savesPatches then loadSavedReviewPatches cacheFile else ∅
  savesPatches := savesPatches
  cacheFile := cacheFile

section Nodes

variable (parseUrl : String → Option Url)

def reviewProjectPath (candidate host : String) (iid : ℕ) : Option String := do
  let url ← parseUrl candidate
  let suffix := "/-/merge_requests/" ++ decimal iid
  if !(plainHttps url host && endsWith suffix url.path) then
    none
  else do
    let path ← stripPrefix "/" url.path
    let projectPath ← stripSuffix suffix path
    validatedProjectPath projectPath

def reviewStatus (state : String) (reviewState : GitlabReviewState) :
    Option GitlabMergeRequestStatus :=
  match state with
  | "opened" => some .open
  | "merged" => if reviewState = .approved then some .merged else none
  | "closed" => if reviewState = .approved then some .closed else none
  | _ => none

/-- The review of a node, and the origin that it is opened in. -/
def validatedReview (node : MergeRequestNode) (host : String)
    (repositories : List GitlabReviewTrustedRepository) (username : String)
    (reviewState : GitlabReviewState) : Option (GitlabReview × String) := do
  let status ← reviewStatus node.state reviewState
  if node.id = 0 ∨ node.iid = 0 ∨ maxIid < node.iid ∨
      ¬ node.reviewers.any (fun reviewer => eqIgnoreAsciiCase reviewer username) then
    none
  else do
    let projectPath ← reviewProjectPath parseUrl node.webUrl host node.iid
    let catalog := repositories.find? fun repository =>
      repository.host = host && eqIgnoreAsciiCase repository.projectPath projectPath
    let title ← boundedText node.title 256
    let author ← validatedUsername node.authorUsername
    let sourceBranch ← validatedBranch node.sourceBranch
    let targetBranch ← validatedBranch node.targetBranch
    let updatedAt ← boundedText node.updatedAt maxTextChars
    some ({
      id := decimal node.id
      repositoryId := (catalog.map GitlabReviewTrustedRepository.repositoryId).getD
        ("gitlab-review-" ++ decimal node.id)
      repository := projectPath
      number := node.iid
      title := title
      authorLogin := author
      sourceBranch := sourceBranch
      targetBranch := targetBranch
      headCommitOid := (node.sha.bind validatedOid).map toAsciiLowercase
      updatedAt := updatedAt
      draft := node.draft
      reviewState := reviewState
      status := status
      commentCount := min node.userNotesCount 10000
      discussionsResolved := node.blockingDiscussionsResolved }, httpsOrigin host projectPath)

/-- What the provider answers about one host in one call. -/
structure HostAnswers where
  user : Answer GitlabCurrentUser
  requested : Answer (List MergeRequestNode)
  approved : Answer (List MergeRequestNode)
  notes : String → ℕ → Answer (List ReviewSystemNote)

/-- What the first telling note says about commits after the approval. -/
def notesShowChanges (username : String) : List ReviewSystemNote → Bool
  | [] => false
  | note :: rest =>
    if !note.system then
      notesShowChanges username rest
    else if note.body = "approved this merge request" &&
        eqIgnoreAsciiCase note.authorUsername username then
      false
    else
      let body := toAsciiLowercase note.body
      if ((startsWith "added " body || startsWith "pushed " body) &&
          containsText " commit" body) || containsText "force-pushed" body then
        true
      else
        notesShowChanges username rest

def changesAfterApproval (answers : HostAnswers) (projectPath : String) (iid : ℕ)
    (username : String) : Bool :=
  match answers.notes projectPath iid with
  | .ok (some notes) => notesShowChanges username notes
  | _ => false

/-- The reviews of the nodes with their origins; `checks` continuity checks were made before. -/
def reviewsFrom (host : String) (user : GitlabCurrentUser)
    (repositories : List GitlabReviewTrustedRepository) (answers : HostAnswers)
    (approvedIds : List ℕ) (checks : ℕ) : List MergeRequestNode → List (GitlabReview × String)
  | [] => []
  | node :: rest =>
    let reviewState :=
      if approvedIds.contains node.id then GitlabReviewState.approved else .requested
    match validatedReview parseUrl node host repositories user.username reviewState with
    | none => reviewsFrom host user repositories answers approvedIds checks rest
    | some (review, origin) =>
      if review.reviewState = .approved ∧ review.status = .open ∧
          review.headCommitOid.isSome ∧ checks < 10 then
        let state :=
          if changesAfterApproval answers review.repository review.number user.username then
            GitlabReviewState.changesAfterApproval
          else
            review.reviewState
        ({ review with reviewState := state }, origin) ::
          reviewsFrom host user repositories answers approvedIds (checks + 1) rest
      else
        (review, origin) ::
          reviewsFrom host user repositories answers approvedIds checks rest

def queryReviews (host : String) (user : GitlabCurrentUser)
    (repositories : List GitlabReviewTrustedRepository) (answers : HostAnswers) :
    Except Failure (List (GitlabReview × String)) := do
  let nodes ← answers.requested.read
  let approved ← answers.approved.read
  .ok (reviewsFrom parseUrl host user repositories answers (approved.map MergeRequestNode.id) 0
    (nodes.take maxMergeRequests))

/-- The reviews of a host after those found before. -/
def collectHost (repositories : List GitlabReviewTrustedRepository) (answers : String → HostAnswers)
    (found : List (GitlabReview × String)) (host : String) :
    Except Failure (List (GitlabReview × String)) := do
  let user ← currentUserIdentity (answers host).user
  let reviews ← queryReviews parseUrl host user repositories (answers host)
  .ok (found ++ reviews)

/-- What the provider answers in one call. -/
structure ReviewAnswers where
  executable : Bool
  hosts : String → HostAnswers
  now : ℕ

def reviewHosts (repositories : List GitlabReviewTrustedRepository) : List String :=
  hostSet (repositories.map GitlabReviewTrustedRepository.host)

/-- All reviews with their origins, in the order of the hosts. -/
def collectReviews (answers : ReviewAnswers) (repositories : List GitlabReviewTrustedRepository) :
    Except Failure (List (GitlabReview × String)) :=
  if !answers.executable then
    .error .missing
  else
    (reviewHosts repositories).foldlM (collectHost parseUrl repositories answers.hosts) []

end Nodes

/-- The order of the list: the last update first, then by project and number. -/
def GitlabReview.sortKey (review : GitlabReview) : Stringᵒᵈ ×ₗ String ×ₗ ℕ :=
  toLex (OrderDual.toDual review.updatedAt, toLex (review.repository, review.number))

/-- The order of the fallback: the last update first. -/
def GitlabReview.updateKey (review : GitlabReview) : Stringᵒᵈ :=
  OrderDual.toDual review.updatedAt

def GitlabReview.targetKey (review : GitlabReview) : String × ℕ :=
  (review.repositoryId, review.number)

def freshReviews (collected : List (GitlabReview × String)) : List GitlabReview :=
  ((collected.map Prod.fst).insertionSort fun left right => left.sortKey ≤ right.sortKey).take
    maxMergeRequests

/-- The targets of the collected reviews; a later one replaces an earlier one with its key. -/
def collectedTargets (collected : List (GitlabReview × String)) : ReviewTargets := fun key =>
  (collected.reverse.find? fun entry => entry.1.targetKey = key).map Prod.snd

def reviewCacheKey (host : String) : String :=
  toAsciiLowercase host

/-- A host keeps the reviews that are opened in it, or that have the path of one of its projects. -/
def belongsTo (repositories : List GitlabReviewTrustedRepository) (targets : ReviewTargets)
    (host : String) (review : GitlabReview) : Bool :=
  (targets review.targetKey).any (startsWith ("https://" ++ host ++ "/")) ||
    repositories.any fun repository =>
      repository.host = host && eqIgnoreAsciiCase repository.projectPath review.repository

def storeReviews (repositories : List GitlabReviewTrustedRepository) (targets : ReviewTargets)
    (found : List GitlabReview) (fetchedAt : ℕ) (cache : ReviewCache) : ReviewCache :=
  (reviewHosts repositories).foldl (fun cache host =>
    Function.update cache (reviewCacheKey host) (some {
      fetchedAtUnixMs := fetchedAt
      reviews := found.filter (belongsTo repositories targets host) })) cache

def reviewInbox (state : InboxState) (reviews : List GitlabReview) (fetchedAtUnixMs : Option ℕ)
    (diagnosticCode : Option DiagnosticCode) (detail : String) : GitlabReviewInbox where
  schemaVersion := schemaVersion
  state := state
  reviews := reviews
  fetchedAtUnixMs := fetchedAtUnixMs
  detail := detail
  diagnosticCode := diagnosticCode

def reviewFailure (cache : ReviewCache) (repositories : List GitlabReviewTrustedRepository)
    (error : Failure) : GitlabReviewInbox :=
  let hosts := reviewHosts repositories
  let entries := hosts.filterMap fun host => cache (reviewCacheKey host)
  let complete := hosts.all fun host => (cache (reviewCacheKey host)).isSome
  let fetchedAt := (entries.map ReviewCacheEntry.fetchedAtUnixMs).min?
  let cached := entries.flatMap ReviewCacheEntry.reviews
  let (state, code, detail) := error.contract
  if complete && fetchedAt.isSome then
    reviewInbox .stale
      ((cached.insertionSort fun left right => left.updateKey ≤ right.updateKey).take
        maxMergeRequests)
      fetchedAt (some code) "GitLab is unavailable. Showing the last verified review list."
  else
    reviewInbox state [] none (some code) detail

def listReviews (parseUrl : String → Option Url) (answers : ReviewAnswers)
    (repositories : List GitlabReviewTrustedRepository) (adapter : Adapter) :
    Adapter × GitlabReviewInbox :=
  let repositories := trustedSet repositories
  if repositories = [] then
    (adapter, reviewInbox .fresh [] (some answers.now) none
      "No linked GitLab repositories are available.")
  else
    match collectReviews parseUrl answers repositories with
    | .error error => (adapter, reviewFailure adapter.reviewCache repositories error)
    | .ok collected =>
      let found := freshReviews collected
      let targets := collectedTargets collected
      ({ adapter with
          reviewCache :=
            storeReviews repositories targets found answers.now adapter.reviewCache
          reviewTargets := targets
          reviewPatches := ∅ },
        reviewInbox .fresh found (some answers.now) none
          "GitLab returned current review requests and approved merge requests.")

def cachedReviewOrigin (adapter : Adapter) (repositoryId : String) (iid : ℕ) : Option String :=
  adapter.reviewTargets (repositoryId, iid)

def Adapter.target (adapter : Adapter) (repositoryId : String) (iid : ℕ) (origin : String) :
    Adapter :=
  { adapter with
    reviewTargets := Function.update adapter.reviewTargets (repositoryId, iid) (some origin) }

def rememberReviewRepository (repository : GitlabReviewTrustedRepository) (iid : ℕ)
    (adapter : Adapter) : Adapter × Except String Unit :=
  if iid = 0 ∨ maxIid < iid then
    (adapter, .error "reviewNotFound")
  else
    (adapter.target repository.repositoryId iid (httpsOrigin repository.host repository.projectPath),
      .ok ())

def projectOfOrigin (parseUrl : String → Option Url) (origin : String) : Option (String × String) := do
  let (host, path) ← originParts parseUrl origin
  let host ← validatedGitlabHost host
  let projectPath ← validatedProjectPath path
  some (host, projectPath)

def reviewTargetParts (parseUrl : String → Option Url) (adapter : Adapter) (repositoryId : String)
    (iid : ℕ) : Option (String × String) :=
  (cachedReviewOrigin adapter repositoryId iid).bind (projectOfOrigin parseUrl)

/-- The answers of the provider for a project on a host. -/
abbrev PatchProvider : Type :=
  String → String → PatchAnswers

def selectedCommit : Option String → Option (Option String)
  | none => some none
  | some value => (validatedOid value).map fun oid => some (toAsciiLowercase oid)

/-- Puts a fetched patch into the cache and saves it. -/
def Adapter.insertPatch (jsonLength : SavedReviewPatchCache → ℕ) (adapter : Adapter)
    (key : ReviewPatchKey) (patch : GitlabReviewPatch) : Adapter :=
  let patches := adapter.reviewPatches.insert key patch
  { adapter with
    reviewPatches := patches
    cacheFile :=
      if adapter.savesPatches then saveReviewPatches jsonLength patches adapter.cacheFile
      else adapter.cacheFile }

section Calls

variable (parseUrl : String → Option Url) (jsonLength : SavedReviewPatchCache → ℕ)

def fetchReviewPatch (provider : PatchProvider) (repositoryId : String) (iid : ℕ)
    (host projectPath : String) (commitOid : Option String) (refresh : Bool) (adapter : Adapter) :
    Adapter × Except String GitlabReviewPatch :=
  match selectedCommit commitOid with
  | none => (adapter, .error "invalidCommit")
  | some selected =>
    let key : ReviewPatchKey :=
      { repositoryId := repositoryId, iid := iid, selectedCommitOid := selected }
    let cachedPatch := adapter.reviewPatches[key]?
    match refresh, cachedPatch with
    | false, some patch => (adapter, .ok patch)
    | _, _ =>
      match buildReviewPatch (provider host projectPath) repositoryId iid selected
          cachedPatch with
      | .ok patch => (adapter.insertPatch jsonLength key patch, .ok patch)
      | .error error =>
        match cachedPatch with
        | some cached => (adapter, .ok cached.cached)
        | none => (adapter, .error error)

def reviewPatch (provider : PatchProvider) (repositoryId : String) (iid : ℕ)
    (commitOid : Option String) (refresh : Bool) (adapter : Adapter) :
    Adapter × Except String GitlabReviewPatch :=
  match reviewTargetParts parseUrl adapter repositoryId iid with
  | none => (adapter, .error "reviewNotFound")
  | some (host, projectPath) =>
    fetchReviewPatch jsonLength provider repositoryId iid host projectPath commitOid refresh adapter

def reviewPatchForOrigin (provider : PatchProvider) (repositoryId : String) (iid : ℕ)
    (origin : String) (commitOid : Option String) (refresh : Bool) (adapter : Adapter) :
    Adapter × Except String GitlabReviewPatch :=
  match projectOfOrigin parseUrl origin with
  | none => (adapter, .error "reviewNotFound")
  | some (host, projectPath) =>
    fetchReviewPatch jsonLength provider repositoryId iid host projectPath commitOid refresh
      (adapter.target repositoryId iid origin)

/-! ### Comments -/

structure GitlabReviewCommentRequest where
  body : String
  filePath : Option String
  side : Option String
  line : Option ℕ
  expectedPosition : Option GitlabReviewDiscussionPosition
  workspaceId : Option String

/-- Where an inline comment is placed. -/
structure CommentPosition where
  position : GitlabReviewDiscussionPosition
  path : String
  side : String
  line : ℕ

/-- What is sent to the provider: to a project on a host, about one merge request. -/
structure CommentPost where
  host : String
  projectPath : String
  iid : ℕ
  body : String
  position : Option CommentPosition

/-- A comment call: what the provider is asked, whether it takes the post, and the answer. -/
structure CommentProvider where
  executable : Bool
  patches : PatchProvider
  accepts : CommentPost → Bool

def validPosition (position : GitlabReviewDiscussionPosition) : Bool :=
  [position.baseCommitOid, position.startCommitOid, position.headCommitOid].all fun oid =>
    (validatedOid oid).isSome

def samePosition (position : GitlabReviewDiscussionPosition) (patch : GitlabReviewPatch) : Bool :=
  eqIgnoreAsciiCase position.baseCommitOid patch.baseCommitOid &&
    eqIgnoreAsciiCase position.startCommitOid patch.startCommitOid &&
    eqIgnoreAsciiCase position.headCommitOid patch.headCommitOid

/-- The adapter, the post that was sent, and the result of a comment call. -/
structure CommentEnding where
  adapter : Adapter
  posted : Option CommentPost
  result : Except String Unit

variable (provider : CommentProvider)

def sendComment (post : CommentPost) (adapter : Adapter) :
    CommentEnding where
  adapter := adapter
  posted := some post
  result := if provider.accepts post then .ok () else .error "providerFailed"

def refuseComment (adapter : Adapter) (error : String) : CommentEnding where
  adapter := adapter
  posted := none
  result := .error error

/-- An inline comment at the current refs of the merge request. -/
def publishInline (repositoryId : String) (iid : ℕ)
    (host projectPath body : String) (expected : Option GitlabReviewDiscussionPosition)
    (path side : String) (line : ℕ) (verified : Option GitlabReviewPatch) (adapter : Adapter) :
    CommentEnding :=
  let (adapter, fetched) :=
    match verified with
    | some patch => (adapter, Except.ok patch)
    | none =>
      fetchReviewPatch jsonLength provider.patches repositoryId iid host projectPath none true
        adapter
  match fetched with
  | .error error => refuseComment adapter error
  | .ok patch =>
    if patch.fromCache then
      refuseComment adapter "providerFailed"
    else if expected.any fun position => !samePosition position patch then
      refuseComment adapter "reviewPositionChanged"
    else if side ≠ "additions" ∧ side ≠ "deletions" then
      refuseComment adapter "invalidComment"
    else
      sendComment provider {
        host := host
        projectPath := projectPath
        iid := iid
        body := body
        position := some {
          position := {
            baseCommitOid := patch.baseCommitOid
            startCommitOid := patch.startCommitOid
            headCommitOid := patch.headCommitOid }
          path := path
          side := side
          line := line } } adapter

def publishReviewCommentToTarget (repositoryId : String) (iid : ℕ)
    (host projectPath : String) (request : GitlabReviewCommentRequest)
    (verified : Option GitlabReviewPatch) (adapter : Adapter) : CommentEnding :=
  let body := trim request.body
  if request.workspaceId.isSome ∨ request.expectedPosition.any (fun position =>
      !validPosition position) ∨ body = "" ∨ maxReviewCommentChars < body.length then
    refuseComment adapter "invalidComment"
  else if !provider.executable then
    refuseComment adapter "glabMissing"
  else
    match request.filePath, request.side, request.line with
    | some path, some side, some line =>
      match validatedFilePath path with
      | none => refuseComment adapter "invalidComment"
      | some path =>
        publishInline jsonLength provider repositoryId iid host projectPath body
          request.expectedPosition path side line verified adapter
    | none, none, none =>
      if request.expectedPosition.isSome then
        refuseComment adapter "invalidComment"
      else
        sendComment provider
          { host := host, projectPath := projectPath, iid := iid, body := body, position := none }
          adapter
    | _, _, _ => refuseComment adapter "invalidComment"

def publishReviewComment (repositoryId : String) (iid : ℕ)
    (request : GitlabReviewCommentRequest) (adapter : Adapter) : CommentEnding :=
  match reviewTargetParts parseUrl adapter repositoryId iid with
  | none => refuseComment adapter "reviewNotFound"
  | some (host, projectPath) =>
    publishReviewCommentToTarget jsonLength provider repositoryId iid host projectPath request none
      adapter

def publishReviewCommentForOrigin (repositoryId : String) (iid : ℕ)
    (origin : String) (request : GitlabReviewCommentRequest) (adapter : Adapter) : CommentEnding :=
  match projectOfOrigin parseUrl origin with
  | none => refuseComment adapter "reviewNotFound"
  | some (host, projectPath) =>
    publishReviewComment parseUrl jsonLength provider repositoryId iid request
      (adapter.target repositoryId iid (httpsOrigin host projectPath))

end Calls

end Wts.Gitlab
