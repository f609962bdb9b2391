/-
Module: Wts.Git.Worktree
Purpose: The plan of the worktrees of a workspace: every selected repository is inspected, its base
  is resolved to a commit and its target is a new entry of the workspace root.
Trusted boundary: the answers of Git
-/
import Wts.Library.StdTypes
import Wts.Library.Text

namespace Wts.Worktree

open Text

/-- The errors that a caller tells apart; `other` stands for the rest. -/
inductive GitError where
  | gitUnavailable
  | workspaceRootUnavailable
  | workspaceRootSymlink
  | defaultBranchNotFound
  | invalidBaseReference
  | baseReferenceNotFound
  | invalidBranchName
  | emptyRepositorySet
  | duplicateRepository
  | workspaceOverlapsRepository
  | targetPathConflict
  | branchConflict
  | repositoryChanged
  | rollbackProvenanceMismatch
  | worktreeHasChanges
  | worktreeHasIgnoredFiles
  | invalidRepositoryMetadata
  | filesystem
  | other
deriving DecidableEq

def isAsciiHexdigit (c : Char) : Bool :=
  c.isDigit || ('a' ≤ c && c ≤ 'f') || ('A' ≤ c && c ≤ 'F')

def isHexOid (value : String) : Bool :=
  (value.toList.length = 40 || value.toList.length = 64) && value.toList.all isAsciiHexdigit

def toAsciiLowercase (text : String) : String :=
  String.ofList (text.toList.map Char.toLower)

/-- The loop of `slug`: the letters and digits in lower case, a dash for what is between them, at most
`limit` characters. -/
def slugChars (limit : ℕ) : List Char → List Char → Bool → List Char
  | [], output, _ => output
  | c :: rest, output, pendingDash =>
    if isAsciiAlphanumeric c then
      let output :=
        if pendingDash && output ≠ [] && output.length < limit then output ++ ['-'] else output
      slugChars limit rest
        (if output.length < limit then output ++ [c.toLower] else output) false
    else
      slugChars limit rest output true

/-- `slug` of the Git crate. -/
def slug (value : String) : String :=
  let output := (slugChars 48 value.toList [] false).rdropWhile (· = '-')
  if output = [] then "repository" else String.ofList output

/-! ### Repositories -/

structure DefaultBranch where
  name : String
  fullRef : String
  commitOid : String
  /-- `resolve_default_branch` takes no reference without a commit. -/
  valid : fullRef ≠ "" ∧ isHexOid commitOid = true

structure RepositoryInspection where
  id : String
  label : String
  worktreeRoot : PathBuf
  gitCommonDir : PathBuf
  currentBranchFullRef : Option String
  upstreamFullRef : Option String
  originUrl : Option String
  defaultBranch : DefaultBranch
  /-- `read_ref_snapshot` accepts no other upstream. -/
  validUpstream : ∀ upstream ∈ upstreamFullRef, startsWith "refs/" upstream = true

/-- A readable directory name of this repository. -/
def RepositoryInspection.worktreeLeaf (inspection : RepositoryInspection) : String :=
  slug inspection.label ++ "--" ++ String.ofList (inspection.id.toList.take 12)

structure ResolvedBase where
  requested : String
  name : String
  fullRef : String
  commitOid : String
deriving DecidableEq

structure RepositoryRequest where
  trustedPath : PathBuf
  baseRef : Option String

structure WorkspaceWorktreeRequest where
  workspaceRoot : PathBuf
  branchName : String
  repositories : List RepositoryRequest

structure PlannedWorktree where
  repository : RepositoryInspection
  base : ResolvedBase
  targetPath : PathBuf
  branchName : String

structure WorktreePlan where
  workspaceRoot : PathBuf
  workspaceRootWillBeCreated : Bool
  branchName : String
  repositories : List PlannedWorktree

structure CreatedWorktree where
  repositoryId : String
  repositoryLabel : String
  sourceRepository : PathBuf
  targetPath : PathBuf
  branchName : String
  baseCommitOid : String

structure WorktreeReceipt where
  workspaceRoot : PathBuf
  workspaceRootCreated : Bool
  branchName : String
  worktrees : List CreatedWorktree

/-- What Git and the file system answer. `revParse` is the text that `git rev-parse --verify` prints
for the commit of a reference, `targetPresent` whether there is an entry at a path, none if that cannot
be told. -/
structure GitAnswers where
  inspectRepository : PathBuf → Except GitError RepositoryInspection
  checkRefFormat : PathBuf → String → Except GitError Bool
  localBranchExists : PathBuf → String → Except GitError Bool
  objectIsCommit : PathBuf → String → Except GitError Bool
  revParse : PathBuf → String → Except GitError (Option String)
  targetPresent : PathBuf → Option Bool

def validUserRef (value : String) : Bool :=
  value ≠ "" && value.utf8ByteSize ≤ 256 && trim value = value && !startsWith "-" value &&
    !value.toList.any fun c => c = '\x00' || c = '\n' || c = '\r'

def validateRefInput (value : String) : Except GitError Unit :=
  if !validUserRef value || startsWith "refs/tags/" value ||
      (startsWith "refs/" value && !startsWith "refs/heads/" value &&
        !startsWith "refs/remotes/origin/" value) then
    .error .invalidBaseReference
  else
    .ok ()

section Answers

variable (answers : GitAnswers)

def commitForRef (root : PathBuf) (fullRef : String) : Except GitError (Option String) := do
  match ← answers.revParse root fullRef with
  | none => return none
  | some text =>
    if isHexOid (trim text) then return some (trim text)
    else throw .invalidRepositoryMetadata

/-- The name of a requested base and the references that it can mean, in their order. -/
def baseCandidates (requested : String) : String × List String :=
  match stripPrefix "refs/heads/" requested with
  | some name => (name, ["refs/heads/" ++ name])
  | none =>
  match stripPrefix "refs/remotes/origin/" requested with
  | some name => (name, ["refs/remotes/origin/" ++ name])
  | none =>
  match stripPrefix "origin/" requested with
  | some name => (name, ["refs/remotes/origin/" ++ name])
  | none => (requested, ["refs/heads/" ++ requested, "refs/remotes/origin/" ++ requested])

def firstCommit (root : PathBuf) : List String → Except GitError (String × String)
  | [] => throw .baseReferenceNotFound
  | fullRef :: rest => do
    match ← commitForRef answers root fullRef with
    | some commitOid => return (fullRef, commitOid)
    | none => firstCommit root rest

/-- The branch that is the base when a request names none. -/
def DefaultBranch.base (branch : DefaultBranch) : ResolvedBase where
  requested := branch.name
  name := branch.name
  fullRef := branch.fullRef
  commitOid := branch.commitOid

/-- `resolve_base` of a requested reference. -/
def resolveRequested (repository : RepositoryInspection) (requested : String) :
    Except GitError ResolvedBase := do
  validateRefInput requested
  if isHexOid requested then
    if ← answers.objectIsCommit repository.worktreeRoot requested then
      let commitOid := toAsciiLowercase requested
      return { requested := requested, name := commitOid, fullRef := commitOid,
               commitOid := commitOid }
    else
      throw .baseReferenceNotFound
  else
    let (name, candidates) := baseCandidates requested
    if ← answers.checkRefFormat repository.worktreeRoot name then
      let (fullRef, commitOid) ← firstCommit answers repository.worktreeRoot candidates
      return { requested := requested, name := name, fullRef := fullRef, commitOid := commitOid }
    else
      throw .invalidBaseReference

def resolveBase (repository : RepositoryInspection) (requested : Option String) :
    Except GitError ResolvedBase :=
  match requested with
  | none => .ok repository.defaultBranch.base
  | some requested => resolveRequested answers repository requested

def validateBranchName (repository : RepositoryInspection) (name : String) :
    Except GitError Unit := do
  if !validUserRef name then throw .invalidBranchName
  else if ← answers.checkRefFormat repository.worktreeRoot name then return ()
  else throw .invalidBranchName

def pathsOverlap (left right : PathBuf) : Bool :=
  left.startsWith right || right.startsWith left

/-- The target is a new entry; it is an entry of the root by the way it is built. -/
def ensureCleanTarget (target : PathBuf) : Except GitError Unit :=
  match answers.targetPresent target with
  | some true => .error .targetPathConflict
  | some false => .ok ()
  | none => .error .filesystem

/-- One repository of a plan, after it is known not to be selected twice. -/
def planWorktree (root : PathBuf) (branchName : String) (repository : RepositoryInspection)
    (baseRef : Option String) : Except GitError PlannedWorktree := do
  if pathsOverlap root repository.worktreeRoot then throw .workspaceOverlapsRepository
  else
    validateBranchName answers repository branchName
    if ← answers.localBranchExists repository.worktreeRoot branchName then throw .branchConflict
    else
      let base ← resolveBase answers repository baseRef
      let targetPath := root.join repository.worktreeLeaf
      ensureCleanTarget answers targetPath
      return { repository := repository, base := base, targetPath := targetPath,
               branchName := branchName }

/-- The loop of `preflight` with the identifiers of the repositories before. -/
def planWorktrees (root : PathBuf) (branchName : String) :
    List String → List RepositoryRequest → Except GitError (List PlannedWorktree)
  | _, [] => return []
  | repositoryIds, requested :: rest => do
    let repository ← answers.inspectRepository requested.trustedPath
    if repository.id ∈ repositoryIds then throw .duplicateRepository
    else
      let planned ← planWorktree answers root branchName repository requested.baseRef
      let others ← planWorktrees root branchName (repository.id :: repositoryIds) rest
      return planned :: others

/-- `preflight` with what `resolve_workspace_root` finds: the canonical root and whether it is still
to be created. -/
def preflight (resolved : Except GitError (PathBuf × Bool)) (request : WorkspaceWorktreeRequest) :
    Except GitError WorktreePlan := do
  if request.repositories = [] then throw .emptyRepositorySet
  else
    let (workspaceRoot, willBeCreated) ← resolved
    let repositories ← planWorktrees answers workspaceRoot request.branchName []
      request.repositories
    return { workspaceRoot := workspaceRoot, workspaceRootWillBeCreated := willBeCreated,
             branchName := request.branchName, repositories := repositories }

end Answers

def createdWorktree (planned : PlannedWorktree) : CreatedWorktree where
  repositoryId := planned.repository.id
  repositoryLabel := planned.repository.label
  sourceRepository := planned.repository.worktreeRoot
  targetPath := planned.targetPath
  branchName := planned.branchName
  baseCommitOid := planned.base.commitOid

/-- The receipt of a plan all of whose worktrees were created and verified. -/
def WorktreePlan.receipt (plan : WorktreePlan) (workspaceRootCreated : Bool) : WorktreeReceipt where
  workspaceRoot := plan.workspaceRoot
  workspaceRootCreated := workspaceRootCreated
  branchName := plan.branchName
  worktrees := plan.repositories.map createdWorktree

end Wts.Worktree
