/-
Module: Wts.Integrations.GithubReviews
Purpose: The reviews that GitHub requests from the user, with the cache that stands in for them when
  the provider fails.
Trusted boundary: url::Url and serde_json, whose readings and texts are given
-/
import Wts.Integrations.GitlabMergeRequests

namespace Wts.Github

open Text
open Gitlab (ProbeFailure Answer Url toAsciiLowercase eqIgnoreAsciiCase containsAnyChar trimEndMatches
  trimStartMatches plainHttps trustedSet hostSet maxIid)

def schemaVersion : ℕ := 1
def maxReviews : ℕ := 50
def maxTextChars : ℕ := 512

inductive GithubReviewInboxState where
  | fresh
  | stale
  | auth
  | error
deriving DecidableEq

inductive GithubReviewDiagnosticCode where
  | ghMissing
  | authenticationRequired
  | providerTimedOut
  | providerOutputTooLarge
  | providerFailed
  | providerResponseInvalid

structure GithubReview where
  id : String
  repositoryId : String
  repository : String
  number : ℕ
  title : String
  url : String
  authorLogin : String
  updatedAt : String
  draft : Bool
deriving DecidableEq

structure GithubReviewInbox where
  schemaVersion : ℕ
  state : GithubReviewInboxState
  reviews : List GithubReview
  fetchedAtUnixMs : Option ℕ
  detail : String
  diagnosticCode : Option GithubReviewDiagnosticCode

structure GithubTrustedRepository where
  repositoryId : String
  host : String
  nameWithOwner : String
deriving DecidableEq

/-- The derived order compares the fields one after the other. -/
def GithubTrustedRepository.fields (repository : GithubTrustedRepository) : List String :=
  [repository.repositoryId, repository.host, repository.nameWithOwner]

theorem GithubTrustedRepository.fields_injective :
    Function.Injective GithubTrustedRepository.fields := by
  rintro ⟨_, _, _⟩ ⟨_, _, _⟩ same
  simpa [GithubTrustedRepository.fields] using same

instance : LinearOrder GithubTrustedRepository :=
  LinearOrder.lift' GithubTrustedRepository.fields GithubTrustedRepository.fields_injective

structure CacheEntry where
  fetchedAtUnixMs : ℕ
  reviews : List GithubReview

abbrev ReviewCache : Type :=
  String → Option CacheEntry

inductive Failure where
  | missing
  | auth
  | provider (failure : ProbeFailure)
  | invalid

def Failure.contract :
    Failure → GithubReviewInboxState × GithubReviewDiagnosticCode × String
  | .missing => (.auth, .ghMissing, "Install GitHub CLI and sign in to load review requests.")
  | .auth => (.auth, .authenticationRequired, "Sign in with GitHub CLI to load review requests.")
  | .provider .timedOut => (.error, .providerTimedOut, "GitHub did not answer before the timeout.")
  | .provider .outputUnavailable => (.error, .providerOutputTooLarge,
      "The GitHub response exceeded the local safety limit.")
  | .provider _ => (.error, .providerFailed, "GitHub could not load review requests.")
  | .invalid => (.error, .providerResponseInvalid, "GitHub returned an invalid review response.")

structure RequestedReviewer where
  kind : String
  login : Option String

structure PullRequestNode where
  id : String
  number : ℕ
  title : String
  url : String
  updatedAt : String
  isDraft : Bool
  author : Option String
  nameWithOwner : String
  repositoryUrl : String
  reviewRequests : List RequestedReviewer

structure GraphqlData where
  viewer : String
  nodes : List PullRequestNode

/-- What the provider answers in one call; a response without data reads as `some none`. -/
structure ListAnswers where
  executable : Bool
  authenticated : Bool
  query : Answer (Option GraphqlData)
  now : ℕ

/-! ### One review -/

def isLoginCharacter (c : Char) : Bool :=
  isAsciiAlphanumeric c || c = '-'

def validatedLogin (value : String) : Option String :=
  if value ≠ "" ∧ value.utf8ByteSize ≤ 39 ∧ value.toList.all isLoginCharacter then
    some value
  else
    none

def boundedText (value : String) : Option String :=
  if value ≠ "" ∧ value.length ≤ maxTextChars ∧ containsAnyChar value ['\x00', '\r'] = false then
    some value
  else
    none

section Nodes

variable (parseUrl : String → Option Url) (urlText : Url → String)

def pathSegments (url : Url) : Option (List String) :=
  (stripPrefix "/" url.path).map (split '/')

def validatedReview (node : PullRequestNode) (repository : GithubTrustedRepository) :
    Option GithubReview :=
  if node.number = 0 ∨ maxIid < node.number ∨ node.id = "" ∨ 128 < node.id.utf8ByteSize then
    none
  else do
    let title ← boundedText node.title
    let authorLogin ← node.author.bind validatedLogin
    let updatedAt ← boundedText node.updatedAt
    let url ← parseUrl node.url
    let segments ← pathSegments url
    let names := split '/' repository.nameWithOwner
    let owner ← names[0]?
    let name ← names[1]?
    match segments with
    | [first, second, third, fourth] =>
      if plainHttps url repository.host && eqIgnoreAsciiCase first owner &&
          eqIgnoreAsciiCase second name && third = "pull" && fourth = decimal node.number then
        some {
          id := node.id
          repositoryId := repository.repositoryId
          repository := repository.nameWithOwner
          number := node.number
          title := title
          url := urlText url
          authorLogin := authorLogin
          updatedAt := updatedAt
          draft := node.isDraft }
      else
        none
    | _ => none

def validatedRepositoryUrl (candidate : String) (repository : GithubTrustedRepository) : Bool :=
  (parseUrl candidate).any fun url =>
    plainHttps url repository.host &&
      trimEndMatches '/' (trimStartMatches '/' url.path) = repository.nameWithOwner

/-- The review of a node, if it is requested from the viewer in a trusted repository. -/
def reviewOf (repositories : List GithubTrustedRepository) (host viewer : String)
    (node : PullRequestNode) : Option GithubReview := do
  let repository ← repositories.find? fun trusted =>
    trusted.host = host && eqIgnoreAsciiCase trusted.nameWithOwner node.nameWithOwner
  if !validatedRepositoryUrl parseUrl node.repositoryUrl repository then
    none
  else if !node.reviewRequests.any fun request =>
      request.kind = "User" && request.login.any fun login => eqIgnoreAsciiCase login viewer then
    none
  else
    validatedReview parseUrl urlText node repository

def query (answers : ListAnswers) (host : String) (repositories : List GithubTrustedRepository) :
    Except Failure (List GithubReview) :=
  match answers.query with
  | .error failure => .error (.provider failure)
  | .ok none => .error .invalid
  | .ok (some none) => .error .invalid
  | .ok (some (some data)) =>
    match validatedLogin data.viewer with
    | none => .error .invalid
    | some viewer =>
      .ok ((data.nodes.take (maxReviews * 2)).filterMap
        (reviewOf parseUrl urlText repositories host viewer))

/-- The order of the list: the last update first, then by repository and number. -/
def GithubReview.sortKey (review : GithubReview) : Stringᵒᵈ ×ₗ String ×ₗ ℕ :=
  toLex (OrderDual.toDual review.updatedAt, toLex (review.repository, review.number))

/-- The order of the fallback: the last update first. -/
def GithubReview.updateKey (review : GithubReview) : Stringᵒᵈ :=
  OrderDual.toDual review.updatedAt

def collectReviews (answers : ListAnswers) (repositories : List GithubTrustedRepository) :
    Except Failure (List GithubReview) :=
  if !answers.executable then
    .error .missing
  else
    match hostSet (repositories.map GithubTrustedRepository.host) with
    | [host] =>
      if !answers.authenticated then
        .error .auth
      else do
        let reviews ← query parseUrl urlText answers host repositories
        .ok ((reviews.insertionSort fun left right => left.sortKey ≤ right.sortKey).take maxReviews)
    | _ => .error .invalid

end Nodes

def cacheKey (repository : GithubTrustedRepository) : String :=
  repository.host ++ "/" ++ toAsciiLowercase repository.nameWithOwner

def inbox (state : GithubReviewInboxState) (reviews : List GithubReview)
    (fetchedAtUnixMs : Option ℕ) (diagnosticCode : Option GithubReviewDiagnosticCode)
    (detail : String) : GithubReviewInbox where
  schemaVersion := schemaVersion
  state := state
  reviews := reviews
  fetchedAtUnixMs := fetchedAtUnixMs
  detail := detail
  diagnosticCode := diagnosticCode

/-- The cache after a fresh list: each repository keeps the reviews with its name. -/
def storeReviews (repositories : List GithubTrustedRepository) (found : List GithubReview)
    (fetchedAt : ℕ) (cache : ReviewCache) : ReviewCache :=
  repositories.foldl (fun cache repository =>
    Function.update cache (cacheKey repository) (some {
      fetchedAtUnixMs := fetchedAt
      reviews := found.filter fun review =>
        eqIgnoreAsciiCase review.repository repository.nameWithOwner })) cache

def failure (cache : ReviewCache) (repositories : List GithubTrustedRepository) (failure : Failure) :
    GithubReviewInbox :=
  let entries := repositories.filterMap fun repository => cache (cacheKey repository)
  let cached := entries.flatMap CacheEntry.reviews
  let fetchedAt := (entries.map CacheEntry.fetchedAtUnixMs).min?
  let (state, code, detail) := failure.contract
  if fetchedAt.isSome then
    inbox .stale
      ((cached.insertionSort fun left right => left.updateKey ≤ right.updateKey).take maxReviews)
      fetchedAt (some code) "GitHub is unavailable. Showing the last successful review list."
  else
    inbox state [] none (some code) detail

/-- The cache and the inbox after `GithubReviewsAdapter::list`. -/
def list (parseUrl : String → Option Url) (urlText : Url → String) (answers : ListAnswers)
    (repositories : List GithubTrustedRepository) (cache : ReviewCache) :
    ReviewCache × GithubReviewInbox :=
  let repositories := trustedSet repositories
  if repositories = [] then
    (cache, inbox .fresh [] (some answers.now) none "No linked GitHub repositories are available.")
  else
    match collectReviews parseUrl urlText answers repositories with
    | .error error => (cache, failure cache repositories error)
    | .ok found =>
      (storeReviews repositories found answers.now cache,
        inbox .fresh found (some answers.now) none
          "GitHub returned the current individual review requests.")

end Wts.Github
