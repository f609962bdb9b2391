/-
Module: Wts.App.Materialization
Purpose: The manifest that setup publishes in a workspace, the other documents beside it, and the
  three readers of the manifest: the receipt of a materialized workspace, the receipt of a removal
  and the observation of the lifecycle.
Trusted boundary: serde_json, which reads back what it wrote; Unicode lower case, which is given
-/
import Wts.App.CodeWorkspace
import Wts.Git.Worktree
import Wts.Library.Paths
import Wts.Store.Tables

namespace Wts.Materialization

open Text Workspace
open Store (WorkspaceView WorkspaceRepositoryPlan WorkspaceStoreError)
open Wts.CodeWorkspace (RepositorySummary RepositoryCatalog eqIgnoreAsciiCase)
open Worktree (isAsciiHexdigit slugChars)

def manifestSchemaVersion : ℕ := 1
def evidenceSchemaVersion : ℕ := 1
def maxGeneratedFileBytes : ℕ := 256 * 1024

def legacyCodeWorkspaceFile : String := "wts.code-workspace"
def wtsGuideFile : String := "WTS.md"
def workspaceAgentsFile : String := "AGENTS.md"
def workspaceClaudeFile : String := "CLAUDE.md"
def workspaceCursorRulesFile : String := ".cursorrules"
def workspaceCopilotDir : String := ".github"
def materializationManifestFile : String := ".wts-workspace.json"
def reviewInboxFile : String := "review-inbox.json"
def evidenceDirectory : String := ".wts"

structure MaterializedGitState where
  headCommitOid : String
  originUrl : Option String
  upstreamFullRef : Option String
deriving DecidableEq

structure MaterializedWorktreeActivity where
  changedFileCount : ℕ
  commitsAhead : ℕ
deriving DecidableEq

structure MaterializedWorktree where
  repositoryId : String
  label : String
  targetDisplayPath : PathBuf
  branchName : String
  baseCommitOid : String
  gitState : Option MaterializedGitState
  activity : Option MaterializedWorktreeActivity
deriving DecidableEq

inductive GraphWorkspaceStatus where
  | notStarted
  | ready
deriving DecidableEq

structure GraphWorkspaceSummary where
  status : GraphWorkspaceStatus
  detail : String
deriving DecidableEq

structure WorkspaceMaterialization where
  schemaVersion : ℕ
  workspaceId : Uuid
  workspaceRecordVersion : UInt64
  effectDigest : String
  workspaceDisplayPath : PathBuf
  codeWorkspaceDisplayPath : PathBuf
  branchName : String
  worktrees : List MaterializedWorktree
  runtime : Option RuntimePlanSelection
  planning : Option WorkspacePlanningSelection
  graph : GraphWorkspaceSummary
deriving DecidableEq

structure CodeWorkspaceFolder where
  name : String
  path : PathBuf
deriving DecidableEq

structure CodeWorkspace where
  folders : List CodeWorkspaceFolder
deriving DecidableEq

/-! ### Evidence -/

structure EvidenceRepository where
  repositoryId : String
  label : String
  requestedBaseRef : String
  resolvedBaseRef : String
  baseCommitOid : String
  worktreeDisplayPath : PathBuf
deriving DecidableEq

structure WorkspaceEvidenceContext where
  schemaVersion : ℕ
  workspaceId : Uuid
  workspaceRecordVersion : UInt64
  title : String
  intent : WorkspaceIntent
  preferredProvider : WorkspaceProvider
  branchName : String
  workspaceDisplayPath : PathBuf
  codeWorkspaceDisplayPath : PathBuf
  evidenceDisplayPath : PathBuf
  createdAtUnixMs : Int64
  wtsVersion : String
  repositories : List EvidenceRepository
  allowedRepositoryIds : List String
deriving DecidableEq

inductive WorkspaceGraphEvidenceStatus where
  | notStarted
  | ready
  | failed
deriving DecidableEq

structure WorkspaceGraphManifest where
  schemaVersion : ℕ
  workspaceId : Uuid
  status : WorkspaceGraphEvidenceStatus
  graphDisplayPath : Option PathBuf
  detail : String
deriving DecidableEq

structure VerificationCheck where
  id : String
  label : String
  repositoryId : Option String
  workingDirectory : PathBuf
deriving DecidableEq

structure WorkspaceVerificationPlan where
  schemaVersion : ℕ
  workspaceId : Uuid
  revision : UInt64
  updatedAtUnixMs : Int64
  checks : List VerificationCheck
deriving DecidableEq

inductive VerificationStatus where
  | notRun
  | running
  | passed
  | failed
  | blocked
  | cancelled
deriving DecidableEq

structure WorkspaceVerificationResult where
  schemaVersion : ℕ
  workspaceId : Uuid
  planRevision : UInt64
  status : VerificationStatus
  startedAtUnixMs : Option Int64
  completedAtUnixMs : Option Int64
  warnings : List String
deriving DecidableEq

/-- What a file was written from. `text` also stands for bytes that cannot be read as any of the
others. -/
inductive Document where
  | manifest (value : WorkspaceMaterialization)
  | codeWorkspace (value : CodeWorkspace)
  | context (value : WorkspaceEvidenceContext)
  | graph (value : WorkspaceGraphManifest)
  | verificationPlan (value : WorkspaceVerificationPlan)
  | verificationResult (value : WorkspaceVerificationResult)
  | verificationHistory (values : List WorkspaceVerificationResult)
  | text (value : String)
deriving DecidableEq

/-- What `symlink_metadata` says of an entry. -/
inductive Entry where
  | file (document : Document)
  | directory
  | symlink
  | unreadable
deriving DecidableEq

/-- The workspace root and what is in it, by the names on the way from the root, which itself is at
the empty list. The canonical path of the root, or where nothing is there yet the path that it would
get, is none if it cannot be resolved. -/
structure Disk where
  canonicalRoot : Option PathBuf
  entries : List String → Option Entry

def Disk.put (disk : Disk) (path : List String) (entry : Entry) : Disk :=
  { disk with entries := Function.update disk.entries path (some entry) }

/-- A regular file that is not longer than a generated file can be. -/
def Disk.generatedFile (disk : Disk) (size : Document → ℕ) (path : List String) : Option Document :=
  match disk.entries path with
  | some (.file document) => if size document ≤ maxGeneratedFileBytes then some document else none
  | _ => none

/-- The entry is a directory, and its path, below a root with the given path, is canonical. -/
def Disk.canonicalDirectory (disk : Disk) (root : PathBuf) (path : List String) : Bool :=
  disk.entries path = some .directory && disk.canonicalRoot = some root

inductive PreflightBlockerCode where
  | repositoryMissing
  | repositoryAmbiguous
  | gitUnavailable
  | baseReferenceUnavailable
  | branchConflict
  | targetConflict
  | unsafeWorkspacePath
  | runtimeAnalysisStale
  | gitPreflightFailed
deriving DecidableEq

structure PreflightBlocker where
  code : PreflightBlockerCode
  message : String
  repositoryLabel : Option String
  repositoryId : Option String
  requestedBaseRef : Option String

inductive LocalWtsError where
  | workspaceNotFound
  | repositoryCatalogUnavailable
  | notMaterialized
  | invalidMaterializationManifest
  | invalidWorkspaceEvidence
  | workspaceGitStateChanged
  | stalePreflight
  | preflightBlocked (blockers : List PreflightBlocker)
  | materializationFailed (cleanupComplete : Bool)
  | generatedFileFailed (cleanupComplete : Bool)
  | invalidRepositoryBase
  | repositoryNotFound
  | repositoryChanged
  | repositoryAlreadyInWorkspace
  | repositorySyncBusy
  | repositoryAdditionStale
  | repositoryAdditionFailed (cleanupComplete : Bool)
  | repositoryRemovalBlocked
  | repositoryRemovalFailed
  | workspaceRenameBusy
  | workspaceRenameConflict
  | workspaceRenameFailed (cleanupComplete : Bool)
  | store (error : WorkspaceStoreError)

/-- `slug` of the service. -/
def slug (value : String) : String :=
  let output := slugChars 40 value.toList [] false
  if output = [] then "workspace" else String.ofList (output.rdropWhile (· = '-'))

/-- What a workspace is named after. -/
def intentIdentity : WorkspaceIntent → String
  | .jira issueKey => issueKey
  | .openProject _ displayId => displayId
  | .repositorySet label => label

def workspaceBranchName (view : WorkspaceView) : String :=
  "wts/" ++ slug (intentIdentity view.intent) ++ "-" ++
    String.ofList ((hexDigits 32 view.workspaceId.val).take 8)

def codeWorkspaceFileName (intent : WorkspaceIntent) (title : String) : String :=
  let identity := slug (intentIdentity intent)
  let title := slug title
  if title = identity ∨ title = "workspace" then identity ++ ".code-workspace"
  else identity ++ "-" ++ title ++ ".code-workspace"

def displayCodeWorkspaceFileName (displayName : String) : String :=
  slug displayName ++ ".code-workspace"

def isCodeWorkspaceName (intent : WorkspaceIntent) (title : String) (displayName : Option String)
    (name : String) : Bool :=
  name = codeWorkspaceFileName intent title ||
    displayName.any (fun displayName =>
      name = displayCodeWorkspaceFileName displayName ||
        name = codeWorkspaceFileName intent displayName) ||
    name = legacyCodeWorkspaceFile

def isWorkspaceCodeFile (intent : WorkspaceIntent) (title : String) (displayName : Option String)
    (workspacePath candidate : PathBuf) : Bool :=
  candidate.parent = some workspacePath &&
    candidate.fileName.any (isCodeWorkspaceName intent title displayName)

def planningFolderLeaf : WorkspacePlanningFolder → String
  | .plans => "plans"
  | .plansAndKanban => "plans-and-kanban"

def workspacePath (view : WorkspaceView) : PathBuf :=
  PathBuf.ofText view.workspaceDisplayPath

def graphSummary : GraphWorkspaceSummary where
  status := .notStarted
  detail := "Workspace-local Graphify indexing is not started automatically."

/-- The worktree of a saved repository: by its identifier if the repository is pinned, else by its
label. -/
def selects (plan : WorkspaceRepositoryPlan) (worktree : MaterializedWorktree) : Bool :=
  match plan.repositoryId with
  | none => eqIgnoreAsciiCase worktree.label plan.label
  | some repositoryId => worktree.repositoryId = repositoryId

/-- The worktrees that a saved repository selects and that are not matched yet, by their position. -/
def candidates (plan : WorkspaceRepositoryPlan) (worktrees : List MaterializedWorktree)
    (matched : List Bool) : List ℕ :=
  (List.range worktrees.length).filter fun index =>
    matched[index]? = some false && (worktrees[index]?).any (selects plan)

/-- The loop over the saved repositories: each takes its only candidate. -/
def matchPlans (worktrees : List MaterializedWorktree) :
    List WorkspaceRepositoryPlan → List Bool → Bool
  | [], matched => matched.all id
  | plan :: rest, matched =>
    match candidates plan worktrees matched with
    | [index] => matchPlans worktrees rest (matched.set index true)
    | _ => false

def materializationMatchesRepositoryPlans (plans : List WorkspaceRepositoryPlan)
    (worktrees : List MaterializedWorktree) : Bool :=
  plans.length = worktrees.length && (worktrees.map MaterializedWorktree.repositoryId).Nodup &&
    matchPlans worktrees plans (List.replicate worktrees.length false)

def validCommitOid (value : String) : Bool :=
  (value.toList.length = 40 || value.toList.length = 64) && value.toList.all isAsciiHexdigit

def validGitState (state : MaterializedGitState) : Bool :=
  validCommitOid state.headCommitOid && state.upstreamFullRef.all (startsWith "refs/")

def validWorktree (workspacePath : PathBuf) (worktree : MaterializedWorktree) : Bool :=
  worktree.targetDisplayPath.parent = some workspacePath &&
    validCommitOid worktree.baseCommitOid && worktree.gitState.all validGitState

/-- What all readers ask of a manifest apart from its files. -/
def identifies (view : WorkspaceView) (materialization : WorkspaceMaterialization) : Bool :=
  materialization.schemaVersion = manifestSchemaVersion &&
    materialization.workspaceId = view.workspaceId &&
    materialization.workspaceRecordVersion = view.recordVersion &&
    materialization.workspaceDisplayPath = workspacePath view &&
    materialization.worktrees.length = view.repositories.length &&
    materialization.planning = view.planning &&
    materialization.branchName = workspaceBranchName view &&
    startsWith "sha256:" materialization.effectDigest &&
    materializationMatchesRepositoryPlans view.repositories materialization.worktrees &&
    materialization.worktrees.all (validWorktree (workspacePath view))

def planningFolderName : WorkspacePlanningFolder → String
  | .plans => "Plans"
  | .plansAndKanban => "Plans & Kanban"

def legacyCodeWorkspaceFolders (materialization : WorkspaceMaterialization) :
    List CodeWorkspaceFolder :=
  materialization.worktrees.map (fun worktree =>
      { name := worktree.label, path := worktree.targetDisplayPath }) ++
    (materialization.planning.map fun planning =>
      { name := planningFolderName planning.folder
        path := materialization.workspaceDisplayPath.join
          (planningFolderLeaf planning.folder) }).toList

def codeWorkspaceFolders (materialization : WorkspaceMaterialization) : List CodeWorkspaceFolder :=
  { name := "Workspace (WTS)", path := materialization.workspaceDisplayPath } ::
    legacyCodeWorkspaceFolders materialization

section Readers

variable (size : Document → ℕ) (disk : Disk) (view : WorkspaceView)

/-- `validate_generated_file` and `validate_code_workspace` for the code-workspace file: it is a
generated file of the root that lists the folders of the manifest. -/
def validCodeWorkspace (materialization : WorkspaceMaterialization) : Bool :=
  let path := materialization.codeWorkspaceDisplayPath
  path.parent = some (workspacePath view) &&
    path.fileName.any fun leaf =>
      match disk.generatedFile size [leaf] with
      | some (.codeWorkspace actual) =>
        actual = { folders := codeWorkspaceFolders materialization } ||
          actual = { folders := legacyCodeWorkspaceFolders materialization }
      | _ => false

/-- `validate_planning_home`: the folder is missing or a directory of its own. -/
def validPlanningHome (planning : Option WorkspacePlanningSelection) : Bool :=
  planning.all fun planning =>
    let leaf := planningFolderLeaf planning.folder
    disk.entries [leaf] = none || disk.canonicalDirectory (workspacePath view) [leaf]

/-- The manifest in the root: nothing if no entry is there, an error if it is not a manifest. -/
def readManifest : Except Unit (Option WorkspaceMaterialization) :=
  match disk.entries [materializationManifestFile] with
  | none => .ok none
  | some _ =>
    match disk.generatedFile size [materializationManifestFile] with
    | some (.manifest materialization) => .ok (some materialization)
    | _ => .error ()

def validReceipt (materialization : WorkspaceMaterialization) : Bool :=
  identifies view materialization && materialization.runtime = view.runtime &&
    validCodeWorkspace size disk view materialization &&
    validPlanningHome disk view materialization.planning

/-- `read_materialization_receipt` of the workspace with the given view. -/
def readMaterializationReceipt : Except LocalWtsError WorkspaceMaterialization :=
  match disk.entries [materializationManifestFile] with
  | none => .error .notMaterialized
  | some .unreadable => .error .notMaterialized
  | some _ =>
    match readManifest size disk with
    | .ok (some materialization) =>
      if validReceipt size disk view materialization then .ok materialization
      else .error .invalidMaterializationManifest
    | _ => .error .invalidMaterializationManifest

/-- The code-workspace file has one of the names that setup and a rename give it. -/
def namesCodeFile (materialization : WorkspaceMaterialization) : Bool :=
  isWorkspaceCodeFile view.intent view.title view.displayName (workspacePath view)
    materialization.codeWorkspaceDisplayPath

/-- `removal_materialization`: missing worktrees and generated files are accepted. -/
def removalMaterialization : Except LocalWtsError (Option WorkspaceMaterialization) :=
  match readManifest size disk with
  | .ok none => .ok none
  | .ok (some materialization) =>
    if identifies view materialization && namesCodeFile view materialization then
      .ok (some materialization)
    else
      .error .invalidMaterializationManifest
  | .error () => .error .invalidMaterializationManifest

def legacyLifecycleObservation : WorkspaceMaterializationState × ℕ :=
  match readManifest size disk with
  | .ok none => (.notMaterialized, 0)
  | .ok (some materialization) =>
    if identifies view materialization && namesCodeFile view materialization &&
        materialization.runtime = view.runtime && materialization.worktrees.length < 2 ^ 32 then
      (.materialized, materialization.worktrees.length)
    else
      (.needsAttention, 0)
  | .error () => (.needsAttention, 0)

end Readers

end Wts.Materialization
