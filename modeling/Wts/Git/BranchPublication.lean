/-
Module: Wts.Git.BranchPublication
Purpose: What is read of a worktree for its publication: the remote that a base belongs to, the
  tracking branch of the current branch, and the number of changed files, which three functions count
  for themselves in the output of `git status`.
Trusted boundary: the answers of Git
-/
import Wts.Git.Repository
import Wts.Git.Worktree

namespace Wts.Worktree

open Text

def stdoutLimit : ℕ := 64 * 1024

/-- A finished command, with what was kept of its output. -/
structure CommandOutput where
  success : Bool
  stdout : List UInt8
  stdoutTruncated : Bool

/-- `read_bounded` on the output of a command. -/
def readBounded (success : Bool) (written : List UInt8) : CommandOutput where
  success := success
  stdout := written.take stdoutLimit
  stdoutTruncated := stdoutLimit < written.length

/-- What Git answers besides `GitAnswers`. `remoteLines` are the lines of `git remote`, `status` is the
exit and the whole output of `git status --porcelain=v1 -z --untracked-files=all`, `revList` the commits
behind and ahead of a range, and `subject` the subject of `HEAD`. -/
structure RemoteAnswers where
  remoteLines : PathBuf → Except GitError (List String)
  optionalConfig : PathBuf → String → Except GitError (Option String)
  status : PathBuf → Except GitError (Bool × List UInt8)
  revList : PathBuf → String → Except GitError (UInt32 × UInt32)
  subject : PathBuf → Except GitError String

def gitStatus (remote : RemoteAnswers) (root : PathBuf) : Except GitError CommandOutput := do
  let (success, written) ← remote.status root
  return readBounded success written

/-! ### Remotes -/

def validRemoteName (value : String) : Bool :=
  value ≠ "" && value.utf8ByteSize ≤ 128 && !startsWith "-" value &&
    value.toList.all fun c => isAsciiAlphanumeric c || c = '-' || c = '_' || c = '.' || c = '/'

structure TrackingRemote where
  name : String
  branch : String

section Answers

variable (answers : GitAnswers) (remote : RemoteAnswers)

def remoteNames (root : PathBuf) : Except GitError (List String) := do
  let lines ← remote.remoteLines root
  let names := (lines.map trim).filter (· ≠ "")
  if names.all validRemoteName then return names else throw .invalidRepositoryMetadata

def remoteDisplayUrl (root : PathBuf) (remoteName : String) : Except GitError (Option String) := do
  let remotes ← remoteNames remote root
  if !validRemoteName remoteName || remoteName ∉ remotes then
    throw .invalidRepositoryMetadata
  else
    let value ← remote.optionalConfig root ("remote." ++ remoteName ++ ".url")
    return value.bind fun url =>
      (Repository.sanitizeOriginUrl (trim url).toList).map String.ofList

def resolveRemoteBase (repository : RepositoryInspection) (requested : String)
    (tracking : TrackingRemote) : Except GitError ResolvedBase := do
  if !validRemoteName tracking.name then throw .invalidRepositoryMetadata
  else if ← answers.checkRefFormat repository.worktreeRoot tracking.branch then
    let fullRef := "refs/remotes/" ++ tracking.name ++ "/" ++ tracking.branch
    match ← commitForRef answers repository.worktreeRoot fullRef with
    | none => throw .baseReferenceNotFound
    | some commitOid =>
      return { requested := requested, name := tracking.branch, fullRef := fullRef,
               commitOid := commitOid }
  else
    throw .invalidBaseReference

/-- The remote that a request names, and its branch. -/
def explicitRemote (root : PathBuf) (remotes : List String) (requested : String) :
    Except GitError (Option String × String) :=
  match stripPrefix "refs/remotes/" requested with
  | some remoteRef =>
    match splitOnce '/' remoteRef with
    | none => throw .invalidBaseReference
    | some (name, branch) => return (some name, branch)
  | none =>
    match splitOnce '/' requested with
    | none => return (none, requested)
    | some (name, branch) => do
      let localTracking ← remote.optionalConfig root ("branch." ++ requested ++ ".remote")
      if localTracking.isSome then return (none, requested)
      else
        let commit ← commitForRef answers root ("refs/heads/" ++ requested)
        if commit.isNone && remotes.contains name then return (some name, branch)
        else return (none, requested)

/-- The remotes that have a branch. -/
def matchingRemotes (root : PathBuf) (branch : String) :
    List String → Except GitError (List String)
  | [] => return []
  | name :: rest => do
    let commit ← commitForRef answers root ("refs/remotes/" ++ name ++ "/" ++ branch)
    let others ← matchingRemotes root branch rest
    return if commit.isSome then name :: others else others

/-- The remote of a branch that names none: the configured one, else `origin`, else the only one that
has the branch. -/
def impliedRemote (root : PathBuf) (remotes : List String) (branch : String)
    (configured : Option String) : Except GitError String :=
  match configured with
  | some name => return name
  | none =>
    if remotes.contains "origin" then return "origin"
    else do
      match ← matchingRemotes answers root branch (sortDedup remotes) with
      | [name] => return name
      | _ => throw .invalidRepositoryMetadata

/-- The remote of a request: the one it names, which must exist, or the one that is implied. -/
def chosenRemote (root : PathBuf) (remotes : List String) (branch : String)
    (explicit configured : Option String) : Except GitError String :=
  match explicit with
  | some name => if remotes.contains name then return name else throw .invalidRepositoryMetadata
  | none => impliedRemote answers root remotes branch configured

def resolveTrackingRemote (repository : RepositoryInspection) (requested : String) :
    Except GitError TrackingRemote :=
  if !validUserRef requested then .error .invalidBaseReference
  else do
    let root := repository.worktreeRoot
    let remotes ← remoteNames remote root
    let requested := (stripPrefix "refs/heads/" requested).getD requested
    let (explicit, branch) ← explicitRemote answers remote root remotes requested
    if ← answers.checkRefFormat root branch then
      let configured ← remote.optionalConfig root ("branch." ++ branch ++ ".remote")
      let configured := (configured.map trim).filter remotes.contains
      let name ← chosenRemote answers root remotes branch explicit configured
      if validRemoteName name then return { name := name, branch := branch }
      else throw .invalidRepositoryMetadata
    else
      throw .invalidBaseReference

/-- The fields of an output that are ended by zero bytes, with what follows the last. -/
def fields (stdout : List UInt8) : List (List UInt8) :=
  stdout.splitOn 0

/-- `u32::try_from`. -/
def toU32 (count : ℕ) : Except GitError ℕ :=
  if count < 2 ^ 32 then .ok count else .error .invalidRepositoryMetadata

structure WorktreeActivity where
  changedFileCount : ℕ
  commitsAhead : UInt32

/-- The count of `inspect_worktree_activity`: the fields with a blank after two bytes. -/
def activityCount (output : CommandOutput) : ℕ :=
  ((fields output.stdout).filter fun entry => 3 ≤ entry.length && entry[2]? = some 32).length

/-- The count of the other two: the fields that are not empty. -/
def fieldCount (output : CommandOutput) : ℕ :=
  ((fields output.stdout).filter fun entry => !entry.isEmpty).length

def inspectWorktreeActivity (path : PathBuf) (baseCommitOid : String) :
    Except GitError WorktreeActivity :=
  if !isHexOid baseCommitOid then .error .other
  else do
    let repository ← answers.inspectRepository path
    let output ← gitStatus remote repository.worktreeRoot
    if !output.success then throw .other
    else if output.stdoutTruncated then throw .other
    else
      let (_, ahead) ← remote.revList repository.worktreeRoot (baseCommitOid ++ "..HEAD")
      let changedFileCount ← toU32 (activityCount output)
      return { changedFileCount := changedFileCount, commitsAhead := ahead }

def changedFileCount (path : PathBuf) : Except GitError ℕ := do
  let repository ← answers.inspectRepository path
  let output ← gitStatus remote repository.worktreeRoot
  if !output.success then throw .other
  else if output.stdoutTruncated then throw .other
  else toU32 (fieldCount output)

structure BranchPublicationInspection where
  branchName : String
  headCommitOid : String
  commitSubject : String
  upstreamFullRef : String
  upstreamRemoteName : String
  upstreamBranchName : String
  upstreamCommitOid : Option String
  remoteUrl : String
  ahead : UInt32
  behind : UInt32
  changedFileCount : ℕ

/-- `ok_or(GitError::InvalidRepositoryMetadata)`. -/
def orInvalid {α : Type} (value : Option α) : Except GitError α :=
  match value with
  | some value => .ok value
  | none => .error .invalidRepositoryMetadata

/-- The local name of the current branch. -/
def currentBranchName (repository : RepositoryInspection) : Except GitError String :=
  orInvalid (repository.currentBranchFullRef.bind (stripPrefix "refs/heads/"))

/-- The remote and the branch of a tracking reference. -/
def upstreamSplit (upstreamFullRef : String) : Except GitError (String × String) := do
  let upstream ← orInvalid (stripPrefix "refs/remotes/" upstreamFullRef)
  orInvalid ((splitOnce '/' upstream).filter fun names => names.1 ≠ "" && names.2 ≠ "")

def headCommitOid (path : PathBuf) : Except GitError String := do
  let repository ← answers.inspectRepository path
  let branchName ← currentBranchName repository
  let commit ← commitForRef answers repository.worktreeRoot ("refs/heads/" ++ branchName)
  orInvalid commit

def inspectBranchPublication (path : PathBuf) : Except GitError BranchPublicationInspection := do
  let repository ← answers.inspectRepository path
  let root := repository.worktreeRoot
  let branchName ← currentBranchName repository
  if branchName = "" then throw .invalidRepositoryMetadata
  else
    let upstreamFullRef ← orInvalid repository.upstreamFullRef
    let (upstreamRemoteName, upstreamBranchName) ← upstreamSplit upstreamFullRef
    let url ← remoteDisplayUrl remote root upstreamRemoteName
    let remoteUrl ← orInvalid url
    let head ← headCommitOid answers root
    let upstreamCommitOid ← commitForRef answers root upstreamFullRef
    let (behind, ahead) ← remote.revList root (upstreamFullRef ++ "...HEAD")
    let output ← gitStatus remote root
    if !output.success || output.stdoutTruncated then throw .invalidRepositoryMetadata
    else
      let count ← toU32 (fieldCount output)
      let subject ← remote.subject root
      return {
        branchName := branchName
        headCommitOid := head
        commitSubject := String.ofList ((trim subject).toList.take 256)
        upstreamFullRef := upstreamFullRef
        upstreamRemoteName := upstreamRemoteName
        upstreamBranchName := upstreamBranchName
        upstreamCommitOid := upstreamCommitOid
        remoteUrl := remoteUrl
        ahead := ahead
        behind := behind
        changedFileCount := count }

end Answers

end Wts.Worktree
