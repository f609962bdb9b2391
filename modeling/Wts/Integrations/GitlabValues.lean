/-
Module: Wts.Integrations.GitlabValues
Purpose: The values that the GitLab adapter accepts from a catalog, from a caller or from the provider,
  and what an answer of the provider is: a failed call, an answer that does not parse, or its value.
Trusted boundary: url::Url::parse, which is given
-/
import Wts.Library.Text
import Wts.Library.Words

namespace Wts.Gitlab

open Text

def schemaVersion : ℕ := 1
def glabMaxOutputBytes : ℕ := 256 * 1024
def maxTrustedRepositories : ℕ := 20
def maxMergeRequests : ℕ := 50
def maxPerRepository : ℕ := 20
def maxTextChars : ℕ := 512
def maxReviewCommentChars : ℕ := 16384
def maxReviewCommits : ℕ := 50
def maxReviewDiscussions : ℕ := 100
def maxReviewDiscussionComments : ℕ := 200
def discussionsPerPage : ℕ := 50
def maxSavedReviewPatches : ℕ := 64
def maxSavedReviewCacheBytes : ℕ := 20 * 1024 * 1024
/-- `i64::MAX as u64`. -/
def maxIid : ℕ := 2 ^ 63 - 1

def isAscii (c : Char) : Bool :=
  c.toNat < 128

def toAsciiLowercase (value : String) : String :=
  String.ofList (value.toList.map Char.toLower)

def eqIgnoreAsciiCase (first second : String) : Bool :=
  toAsciiLowercase first = toAsciiLowercase second

def containsAnyChar (value : String) (chars : List Char) : Bool :=
  value.toList.any fun c => chars.contains c

def trimEndMatches (c : Char) (value : String) : String :=
  String.ofList (value.toList.rdropWhile (· = c))

def trimStartMatches (c : Char) (value : String) : String :=
  String.ofList (value.toList.dropWhile (· = c))

def stripSuffix (ending value : String) : Option String :=
  if ending.toList.isSuffixOf value.toList then
    some (String.ofList (value.toList.take (value.length - ending.length)))
  else
    none

def isHexDigit (c : Char) : Bool :=
  c.isDigit || ('a' ≤ c && c ≤ 'f') || ('A' ≤ c && c ≤ 'F')

def validatedOid (value : String) : Option String :=
  if (value.length = 40 ∨ value.length = 64) ∧ value.toList.all isHexDigit then some value else none

def isUsernameCharacter (c : Char) : Bool :=
  isAsciiAlphanumeric c || c = '-' || c = '_' || c = '.'

def validatedUsername (value : String) : Option String :=
  if value ≠ "" ∧ value.utf8ByteSize ≤ 255 ∧ trim value = value ∧
      value.toList.all isUsernameCharacter then
    some value
  else
    none

def boundedText (value : String) (limit : ℕ) : Option String :=
  if value ≠ "" ∧ value.length ≤ limit ∧ containsAnyChar value ['\x00', '\r'] = false then
    some value
  else
    none

def validatedFilePath (value : String) : Option String :=
  if value ≠ "" ∧ value.utf8ByteSize ≤ 4096 ∧ trim value = value ∧ startsWith "/" value = false ∧
      containsAnyChar value ['\x00', '\n', '\r', '\\'] = false ∧
      (split '/' value).all (fun part => part ≠ "" && part ≠ "..") then
    some value
  else
    none

def isBranchForbidden (c : Char) : Bool :=
  c.toNat < 32 || c.toNat = 127 || [' ', '~', '^', ':', '?', '*', '[', '\\'].contains c

def validatedBranch (value : String) : Option String :=
  if value ≠ "" ∧ value.utf8ByteSize ≤ 255 ∧ trim value = value ∧
      startsWith "/" value = false ∧ startsWith "-" value = false ∧
      endsWith "/" value = false ∧ endsWith "." value = false ∧ containsText ".." value = false ∧
      containsText "@\x7b" value = false ∧ containsText "//" value = false ∧
      value.toList.any isBranchForbidden = false then
    some value
  else
    none

/-! ### Hosts and projects -/

def validHostLabel (label : String) : Bool :=
  label ≠ "" && label.utf8ByteSize ≤ 63 && !startsWith "-" label && !endsWith "-" label &&
    label.toList.all fun c => isAsciiAlphanumeric c || c = '-'

def validatedGitlabHost (host : String) : Option String :=
  if host = "" ∨ 253 < host.utf8ByteSize ∨ ¬ host.toList.all isAscii then
    none
  else
    let host := toAsciiLowercase host
    let labels := split '.' host
    if labels.length < 2 ∨ (host ≠ "gitlab.com" ∧ labels.head? ≠ some "gitlab") ∨
        ¬ labels.all validHostLabel then
      none
    else
      some host

def validProjectSegment (segment : String) : Bool :=
  segment ≠ "" && segment.utf8ByteSize ≤ 255 && segment ≠ "." && segment ≠ ".." &&
    segment.toList.all isUsernameCharacter

def validatedProjectPath (path : String) : Option String :=
  let trimmed := trimEndMatches '/' path
  let path := (stripSuffix ".git" trimmed).getD trimmed
  let segments := split '/' path
  if segments.length < 2 ∨ ¬ segments.all validProjectSegment then
    none
  else
    some ("/".intercalate segments)

/-- What is read from a parsed URL. -/
structure Url where
  scheme : String
  username : String
  password : Option String
  host : Option String
  port : Option ℕ
  path : String
  query : Option String
  fragment : Option String

section Origins

variable (parseUrl : String → Option Url)

def originParts (origin : String) : Option (String × String) :=
  if origin = "" ∨ trim origin ≠ origin ∨
      containsAnyChar origin ['\x00', '\n', '\r', '\t', '?', '#'] then
    none
  else if startsWith "https://" origin ∨ startsWith "ssh://" origin then do
    let url ← parseUrl origin
    let usernameIsValid :=
      if url.scheme = "https" then url.username = "" else url.username = "" ∨ url.username = "git"
    if url.query.isSome ∨ url.fragment.isSome ∨ ¬ usernameIsValid ∨ url.password.isSome ∨
        url.port.isSome then
      none
    else do
      let host ← url.host
      some (host, trimStartMatches '/' url.path)
  else do
    let (authority, path) ← splitOnce ':' origin
    let (username, host) :=
      match Words.rsplitOnce '@' authority.toList with
      | some (username, host) => (some (String.ofList username), String.ofList host)
      | none => (none, authority)
    if username.any (· ≠ "git") ∨ host.toList.contains ':' then
      none
    else
      some (host, path)

/-- The address of a project on a host. -/
def httpsOrigin (host projectPath : String) : String :=
  "https://" ++ host ++ "/" ++ projectPath ++ ".git"

def validRepositoryId (repositoryId : String) : Bool :=
  repositoryId ≠ "" && repositoryId.utf8ByteSize ≤ 160 && trim repositoryId = repositoryId &&
    !containsAnyChar repositoryId ['\x00', '\n', '\r', '\t']

structure GitlabReviewTrustedRepository where
  repositoryId : String
  host : String
  projectPath : String

structure GitlabTrustedRepository where
  repositoryId : String
  host : String
  projectPath : String
  sourceBranch : String
  headCommitOid : String

def GitlabTrustedRepository.fromOrigin (repositoryId origin sourceBranch headCommitOid : String) :
    Option GitlabTrustedRepository :=
  if validRepositoryId repositoryId then do
    let (host, path) ← originParts parseUrl origin
    let host ← validatedGitlabHost host
    let projectPath ← validatedProjectPath path
    let branch ← validatedBranch sourceBranch
    let oid ← validatedOid headCommitOid
    some { repositoryId := repositoryId, host := host, projectPath := projectPath,
           sourceBranch := branch, headCommitOid := toAsciiLowercase oid }
  else
    none

end Origins

/-- The derived order compares the fields one after the other. -/
def GitlabReviewTrustedRepository.fields (repository : GitlabReviewTrustedRepository) : List String :=
  [repository.repositoryId, repository.host, repository.projectPath]

theorem GitlabReviewTrustedRepository.fields_injective :
    Function.Injective GitlabReviewTrustedRepository.fields := by
  rintro ⟨_, _, _⟩ ⟨_, _, _⟩ same
  simpa [GitlabReviewTrustedRepository.fields] using same

instance : LinearOrder GitlabReviewTrustedRepository :=
  LinearOrder.lift' GitlabReviewTrustedRepository.fields
    GitlabReviewTrustedRepository.fields_injective

def GitlabTrustedRepository.fields (repository : GitlabTrustedRepository) : List String :=
  [repository.repositoryId, repository.host, repository.projectPath, repository.sourceBranch,
    repository.headCommitOid]

theorem GitlabTrustedRepository.fields_injective :
    Function.Injective GitlabTrustedRepository.fields := by
  rintro ⟨_, _, _, _, _⟩ ⟨_, _, _, _, _⟩ same
  simpa [GitlabTrustedRepository.fields] using same

instance : LinearOrder GitlabTrustedRepository :=
  LinearOrder.lift' GitlabTrustedRepository.fields GitlabTrustedRepository.fields_injective

inductive ProbeFailure where
  | resolution
  | spawn
  | timedOut
  | unsuccessfulExit
  | outputUnavailable

inductive Failure where
  | missing
  | auth
  | provider (failure : ProbeFailure)
  | invalid

/-- What a call of the provider's command line gives: a failure, or its output read as JSON, which is
`none` if it does not have the expected form. -/
abbrev Answer (α : Type) : Type :=
  Except ProbeFailure (Option α)

def providerFailure : ProbeFailure → Failure
  | .unsuccessfulExit => .auth
  | other => .provider other

def Answer.read {α : Type} : Answer α → Except Failure α
  | .error failure => .error (providerFailure failure)
  | .ok none => .error .invalid
  | .ok (some value) => .ok value

inductive InboxState where
  | fresh
  | stale
  | auth
  | error
deriving DecidableEq

inductive DiagnosticCode where
  | glabMissing
  | authenticationRequired
  | providerTimedOut
  | providerOutputTooLarge
  | providerFailed
  | providerResponseInvalid

def Failure.contract : Failure → InboxState × DiagnosticCode × String
  | .missing => (.auth, .glabMissing,
      "Install and configure GitLab CLI in Terminal to check merge requests.")
  | .auth => (.auth, .authenticationRequired,
      "Configure GitLab CLI in Terminal to check merge requests.")
  | .provider .timedOut => (.error, .providerTimedOut, "GitLab did not answer before the timeout.")
  | .provider .outputUnavailable => (.error, .providerOutputTooLarge,
      "The GitLab response exceeded the local safety limit.")
  | .provider _ => (.error, .providerFailed, "GitLab could not check merge requests.")
  | .invalid => (.error, .providerResponseInvalid,
      "GitLab returned an invalid merge request response.")

structure GitlabCurrentUser where
  id : ℕ
  username : String
deriving DecidableEq

def currentUserIdentity (answer : Answer GitlabCurrentUser) : Except Failure GitlabCurrentUser := do
  let user ← answer.read
  if user.id = 0 ∨ validatedUsername user.username = none then
    .error .invalid
  else
    .ok user

end Wts.Gitlab
