/-
Module: Wts.Integrations.GitlabDiscussions
Purpose: The discussions of a merge request: how they are read page by page, the cache that stands
  in for them when the provider fails, and the reply that invalidates it.
Trusted boundary: url::Url::parse, serde_json and the digest of a scope, whose values are given
-/
import Wts.Integrations.GitlabReviews

namespace Wts.Gitlab

open Text

structure GitlabDiscussions where
  schemaVersion : ℕ
  repositoryId : String
  iid : ℕ
  scopeId : String
  viewerLogin : String
  discussions : List GitlabReviewDiscussion
  fetchedAtUnixMs : ℕ
  fromCache : Bool
  truncated : Bool

/-- A merge request of a project on a host. -/
structure MergeRequestPlace where
  host : String
  projectPath : String
  iid : ℕ

structure DiscussionContext where
  host : String
  projectPath : String
  user : GitlabCurrentUser
deriving DecidableEq

/-- What the digest of a scope is made from: the merge request and the user. -/
structure DiscussionScope where
  place : MergeRequestPlace
  userId : ℕ

def DiscussionContext.place (context : DiscussionContext) (iid : ℕ) : MergeRequestPlace where
  host := context.host
  projectPath := context.projectPath
  iid := iid

def DiscussionContext.scope (context : DiscussionContext) (iid : ℕ) : DiscussionScope where
  place := context.place iid
  userId := context.user.id

def isDiscussionIdCharacter (c : Char) : Bool :=
  isAsciiAlphanumeric c || c = '-' || c = '_'

def validDiscussionId (value : String) : Bool :=
  value ≠ "" && value.utf8ByteSize ≤ 128 && value.toList.all isDiscussionIdCharacter

/-- The answers of the provider, by page. -/
abbrev DiscussionPages : Type :=
  ℕ → Answer (List ReviewDiscussionNode)

/-- The loop of `fetch_discussions` over the given pages, after the nodes read before. -/
def readPages (pages : DiscussionPages) (nodes : List ReviewDiscussionNode) (truncated : Bool) :
    List ℕ → Except String (List ReviewDiscussionNode × Bool)
  | [] => .ok (nodes, truncated)
  | page :: rest => do
    let batch ← (pages page).required
    if batch.length > discussionsPerPage ∨
        (batch.any fun node => !validDiscussionId node.id) = true then
      .error "providerResponseInvalid"
    else if batch.length < discussionsPerPage then
      .ok (nodes ++ batch, truncated)
    else
      readPages pages (nodes ++ batch)
        (truncated || maxReviewDiscussions ≤ (nodes ++ batch).length) rest

/-- `1..=MAX_REVIEW_DISCUSSIONS / DISCUSSIONS_PER_PAGE`. -/
def pageNumbers : List ℕ :=
  (List.range (maxReviewDiscussions / discussionsPerPage)).map (· + 1)

def noteCount (nodes : List ReviewDiscussionNode) : ℕ :=
  ((nodes.flatMap ReviewDiscussionNode.notes).filter fun note => !note.system).length

def fetchDiscussions (pages : DiscussionPages) :
    Except String (List GitlabReviewDiscussion × Bool) := do
  let (nodes, truncated) ← readPages pages [] false pageNumbers
  let discussions := validatedReviewDiscussions nodes
  .ok (discussions, truncated || commentCount discussions < noteCount nodes)

structure DiscussionKey where
  scopeId : String
  repositoryId : String
deriving DecidableEq

def DiscussionKey.toPair (key : DiscussionKey) : String ×ₗ String :=
  toLex (key.scopeId, key.repositoryId)

theorem DiscussionKey.toPair_injective : Function.Injective DiscussionKey.toPair := by
  rintro ⟨_, _⟩ ⟨_, _⟩ same
  simpa [DiscussionKey.toPair] using same

instance : LinearOrder DiscussionKey :=
  LinearOrder.lift' DiscussionKey.toPair DiscussionKey.toPair_injective

instance : Std.LawfulEqCmp (compare : DiscussionKey → DiscussionKey → Ordering) :=
  ⟨fun same => compare_eq_iff_eq.1 same⟩

abbrev DiscussionEntries : Type :=
  Std.TreeMap DiscussionKey GitlabDiscussions compare

structure DiscussionCache where
  generation : UInt64
  entries : DiscussionEntries

def DiscussionCache.empty : DiscussionCache where
  generation := 0
  entries := ∅

/-- The key of the entry that was fetched first. -/
def oldest (entries : DiscussionEntries) : Option DiscussionKey :=
  (entries.toList.argmin fun entry => entry.2.fetchedAtUnixMs).map Prod.fst

/-- The loop that removes the oldest entries; it runs at most once for each entry. -/
def evict : ℕ → DiscussionEntries → DiscussionEntries
  | 0, entries => entries
  | rounds + 1, entries =>
    if maxSavedReviewPatches < entries.size then
      match oldest entries with
      | none => entries
      | some key => evict rounds (entries.erase key)
    else
      entries

/-- The end of a read that succeeded: the result is kept unless the generation has changed. -/
def DiscussionCache.store (generation : UInt64) (key : DiscussionKey) (result : GitlabDiscussions)
    (cache : DiscussionCache) : DiscussionCache :=
  if cache.generation ≠ generation then
    cache
  else
    let entries := cache.entries.insert key result
    { cache with entries := evict entries.size entries }

/-- What a reply does to the cache: a new generation, and no entries of its scope. -/
def DiscussionCache.invalidate (scopeId : String) (cache : DiscussionCache) : DiscussionCache where
  generation := cache.generation + 1
  entries := cache.entries.filter fun key _ => key.scopeId ≠ scopeId

section Calls

variable (parseUrl : String → Option Url) (scopeId : DiscussionScope → String)

/-- What the provider answers while the context is established. -/
structure ContextAnswers where
  executable : Bool
  user : String → Answer GitlabCurrentUser
  mergeRequest : MergeRequestPlace → Answer MergeRequestNode

def discussionPlace (adapter : Adapter) (repositoryId : String) (iid : ℕ)
    (workspaceRepository : Option GitlabTrustedRepository) : Option (String × String) :=
  match workspaceRepository with
  | some repository =>
    if repository.repositoryId = repositoryId then some (repository.host, repository.projectPath)
    else none
  | none => do
    let (host, projectPath) ← reviewTargetParts parseUrl adapter repositoryId iid
    let host ← validatedGitlabHost host
    let projectPath ← validatedProjectPath projectPath
    some (host, projectPath)

def discussionContext (answers : ContextAnswers) (adapter : Adapter) (repositoryId : String)
    (iid : ℕ) (workspaceRepository : Option GitlabTrustedRepository) :
    Except String DiscussionContext :=
  if iid = 0 ∨ maxIid < iid then
    .error "reviewNotFound"
  else
    match discussionPlace parseUrl adapter repositoryId iid workspaceRepository with
    | none => .error "reviewNotFound"
    | some (host, projectPath) =>
      if !answers.executable then
        .error "glabMissing"
      else
        match currentUserIdentity (answers.user host) with
        | .error _ => .error "providerFailed"
        | .ok user =>
          let context : DiscussionContext :=
            { host := host, projectPath := projectPath, user := user }
          match workspaceRepository with
          | none => .ok context
          | some repository => do
            let node ← (answers.mergeRequest (context.place iid)).required
            if node.iid ≠ iid ∨
                validatedMergeRequest parseUrl node repository user.username = none then
              .error "reviewNotFound"
            else
              .ok context

/-- The result of a read that succeeded. -/
def freshDiscussions (context : DiscussionContext) (repositoryId : String) (iid now : ℕ)
    (read : List GitlabReviewDiscussion × Bool) : GitlabDiscussions where
  schemaVersion := schemaVersion
  repositoryId := repositoryId
  iid := iid
  scopeId := scopeId (context.scope iid)
  viewerLogin := context.user.username
  discussions := read.1
  fetchedAtUnixMs := now
  fromCache := false
  truncated := read.2

def discussionKey (context : DiscussionContext) (repositoryId : String) (iid : ℕ) :
    DiscussionKey where
  scopeId := scopeId (context.scope iid)
  repositoryId := repositoryId

/-- The end of `get_discussions` after the provider was read: the cache, and the result. -/
def finishDiscussions (context : DiscussionContext) (repositoryId : String) (iid : ℕ)
    (generation : UInt64) (pages : DiscussionPages) (now : ℕ) (cache : DiscussionCache) :
    DiscussionCache × Except String GitlabDiscussions :=
  let key := discussionKey scopeId context repositoryId iid
  match fetchDiscussions pages with
  | .ok read =>
    let result := freshDiscussions scopeId context repositoryId iid now read
    (cache.store generation key result, .ok result)
  | .error error =>
    match cache.entries[key]? with
    | some cached =>
      (cache, .ok { cached with fromCache := true, viewerLogin := context.user.username })
    | none => (cache, .error error)

/-! ### Replies -/

structure ReplyRequest where
  repositoryId : String
  iid : ℕ
  workspaceRepository : Option GitlabTrustedRepository
  discussionId : String
  body : String

structure ReplyGitlabDiscussionResult where
  schemaVersion : ℕ
  repositoryId : String
  iid : ℕ
  discussionId : String
  comment : GitlabReviewDiscussionComment

def validatedDiscussionComment (note : ReviewDiscussionNoteNode) :
    Option GitlabReviewDiscussionComment :=
  if note.id = 0 ∨ note.system then none else validatedComment note

/-- The part of `reply_discussion` before the reply is posted. -/
def replyContext (answers : ContextAnswers) (thread : MergeRequestPlace → Answer ReviewDiscussionNode)
    (adapter : Adapter) (request : ReplyRequest) : Except String DiscussionContext :=
  let body := trim request.body
  if containsAnyChar request.body ['\r'] ∨ !validDiscussionId request.discussionId ∨ body = "" ∨
      maxReviewCommentChars < body.length ∨ containsAnyChar body ['\x00'] then
    .error "invalidComment"
  else do
    let context ← discussionContext parseUrl answers adapter request.repositoryId request.iid
      request.workspaceRepository
    let node ← (thread (context.place request.iid)).required
    if node.id ≠ request.discussionId ∨
        (node.notes.all fun note => note.system) = true then
      .error "discussionNotFound"
    else
      .ok context

/-- The part of `reply_discussion` after the cache was invalidated, from the answer to the post. -/
def replyResult (context : DiscussionContext) (request : ReplyRequest)
    (posted : Answer ReviewDiscussionNoteNode) : Except String ReplyGitlabDiscussionResult := do
  let note ← posted.required
  match validatedDiscussionComment note with
  | none => .error "providerResponseInvalid"
  | some comment =>
    if !eqIgnoreAsciiCase comment.authorLogin context.user.username then
      .error "providerResponseInvalid"
    else
      .ok {
        schemaVersion := schemaVersion
        repositoryId := request.repositoryId
        iid := request.iid
        discussionId := request.discussionId
        comment := comment }

end Calls

end Wts.Gitlab
