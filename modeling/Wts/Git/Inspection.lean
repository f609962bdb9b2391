/-
Module: Wts.Git.Inspection
Purpose: How `inspect_repository` assembles what it reads of a checkout: the identifier of the
  repository, its label and the display form of its origin.
Trusted boundary: what Git and the file system report of a checkout
Main exports: repositoryId, inspectRepository
-/
import Wts.Git.Repository
import Wts.Git.Worktree
import Wts.Library.Paths
import Wts.Library.RecordFiles
import Wts.Library.Sha256

namespace Wts.Worktree

open Text

/-- What is read of a checkout: its directories, the setting `remote.origin.url`, and the references of
which the default branch is one. -/
structure RepositoryReads where
  worktreeRoot : PathBuf
  gitCommonDir : PathBuf
  originUrl : Option String
  currentBranchFullRef : Option String
  upstreamFullRef : Option String
  defaultBranch : DefaultBranch
  validUpstream : ∀ upstream ∈ upstreamFullRef, startsWith "refs/" upstream = true

/-- The identifier that `inspect_repository` makes of the common directory of a repository. -/
def repositoryId (gitCommonDir : PathBuf) : String :=
  "repo_" ++ Sha256.hexEncode
    (Sha256.sha256 (utf8Bytes "wts-local-repository-v1\x00" ++ utf8Bytes gitCommonDir.display))

/-- The last part of an origin without its ending. -/
def labelFromOrigin (origin : String) : Option String :=
  match Repository.sanitizeOriginUrl origin.toList with
  | none => none
  | some sanitized =>
    let trimmed := sanitized.rdropWhile (· = '/')
    let last := String.ofList (trimmed.rtakeWhile fun c => c ≠ '/' && c ≠ ':')
    let leaf := (RecordFiles.stripSuffix ".git" last).getD last
    if leaf = "" then none else some leaf

def inspectRepository (reads : RepositoryReads) : RepositoryInspection :=
  let originUrl := reads.originUrl.bind fun value =>
    (Repository.sanitizeOriginUrl (trim value).toList).map String.ofList
  let label := (originUrl.bind labelFromOrigin).or reads.worktreeRoot.fileName
  { id := repositoryId reads.gitCommonDir
    label := (label.filter fun value => trim value ≠ "").getD "repository"
    worktreeRoot := reads.worktreeRoot
    gitCommonDir := reads.gitCommonDir
    currentBranchFullRef := reads.currentBranchFullRef
    upstreamFullRef := reads.upstreamFullRef
    originUrl := originUrl
    defaultBranch := reads.defaultBranch
    validUpstream := reads.validUpstream }

@[simp] theorem inspectRepository_id (reads : RepositoryReads) :
    (inspectRepository reads).id = repositoryId (inspectRepository reads).gitCommonDir := rfl

end Wts.Worktree
