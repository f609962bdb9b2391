/-
Module: Wts.App.ServiceState
Purpose: What the service changes: the registry, the files of a workspace and the worktrees that Git
  has registered.
Trusted boundary: the answers of Git; serde_json; Unicode lower case; the graph adapter
-/
import Wts.App.WorkspaceSetup
import Wts.Store.Sqlite

namespace Wts.Service

open Text Workspace Worktree Interrupt Materialization
open Interrupt.Proc
open Store (Tables WorkspaceStore CallEnv WorkspaceView WorkspaceRepositoryPlan WorkspaceStoreError)
open Wts.CodeWorkspace (RepositorySummary RepositoryCatalog eqIgnoreAsciiCase)

def maxRepositoryIdBytes : ℕ := 512
def maxVerificationHistory : ℕ := 10
def agentReportFile : String := "agent-report.json"
def agentRunsDirectory : String := "agent-runs"
def logsDirectory : String := "logs"

/-- A worktree that Git has registered at a path, and what it finds there. -/
structure LinkedWorktree where
  repositoryId : String
  targetPath : PathBuf
  branchName : String
  headCommitOid : String
  hasChanges : Bool
  hasIgnoredFiles : Bool

/-- The registry, the files of the workspace and the worktrees. -/
structure ServiceState where
  tables : Tables
  disk : Disk
  worktrees : List LinkedWorktree

structure AddWorkspaceRepositoryRequest where
  repositoryId : String
  baseRef : String

structure WorkspaceRepositoryAdditionPreflight where
  workspaceId : Uuid
  repositoryId : String
  repositoryLabel : String
  baseRef : String
  resolvedBaseRef : String
  baseCommitOid : String
  targetDisplayPath : PathBuf
  branchName : String
  effectDigest : String

/-- What a call gets from outside. `idle` is the answer of the locks and of the agent sessions;
`retainAgentRuns` is the disk without the agent runs beyond the retention, none if there are no such
runs; it touches nothing else. -/
structure ServiceEnv extends SetupEnv where
  store : WorkspaceStore
  call : CallEnv
  idle : Except LocalWtsError Unit
  retainAgentRuns : Disk → Except LocalWtsError (Option Disk)
  additionJson : WorkspaceRepositoryAdditionPreflight → List UInt8
  removalJson : Uuid → String → List MaterializedWorktree → List UInt8
  indexGraph : WorkspaceMaterialization → Except WorkspaceGraphManifest WorkspaceGraphManifest
  retained : ∀ disk kept, retainAgentRuns disk = .ok (some kept) →
    kept.canonicalRoot = disk.canonicalRoot ∧
      ∀ path, ¬ [evidenceDirectory, agentRunsDirectory] <+: path →
        kept.entries path = disk.entries path

section Service

variable (env : ServiceEnv) (workspaceId : Uuid)

/-- The view of a workspace that must exist. -/
def liveView (tables : Tables) : Except LocalWtsError WorkspaceView :=
  match Store.get env.store workspaceId tables with
  | .error error => .error (.store error)
  | .ok none => .error .workspaceNotFound
  | .ok (some view) => .ok view

variable (state : ServiceState)

/-- `read_materialization_receipt`. -/
def receipt : Except LocalWtsError WorkspaceMaterialization := do
  let view ← liveView env workspaceId state.tables
  readMaterializationReceipt env.size state.disk view

/-- `validate_materialization`. -/
def validated : Except LocalWtsError WorkspaceMaterialization := do
  let materialization ← receipt env workspaceId state
  env.checkWorktrees materialization

/-! ### Worktrees -/

/-- The name in the root, as a path of the disk. -/
def leafOf (path : PathBuf) : List String := path.fileName.toList

variable (disk : Disk)

/-- Whether an entry of the root is there, as Git sees it before it creates a worktree. -/
def targetPresent (path : PathBuf) : Option Bool :=
  match disk.entries (leafOf path) with
  | none => some false
  | some .unreadable => none
  | some _ => some true

/-- Git in a state of the disk. -/
def gitAnswers : GitAnswers :=
  { env.git with targetPresent := targetPresent disk }

def Disk.without (path : List String) : Disk :=
  { disk with entries := Function.update disk.entries path none }

def ServiceState.linked (path : PathBuf) : Option LinkedWorktree :=
  state.worktrees.find? fun worktree => worktree.targetPath = path

/-- A new worktree appears. -/
def ServiceState.link (planned : PlannedWorktree) (state : ServiceState) : ServiceState :=
  { state with
    disk := state.disk.put (leafOf planned.targetPath) .directory
    worktrees := state.worktrees ++
      [{ repositoryId := planned.repository.id, targetPath := planned.targetPath,
         branchName := planned.branchName, headCommitOid := planned.base.commitOid,
         hasChanges := false, hasIgnoredFiles := false }] }

/-- A worktree disappears. -/
def ServiceState.unlink (path : PathBuf) (state : ServiceState) : ServiceState :=
  { state with
    disk := Disk.without state.disk (leafOf path)
    worktrees := state.worktrees.filter fun worktree => worktree.targetPath ≠ path }

structure WorktreeRemovalRequest where
  sourceRepository : PathBuf
  workspaceRoot : PathBuf
  targetPath : PathBuf
  repositoryId : String
  branchName : String

structure WorktreeRemovalInspection where
  headCommitOid : String
  present : Bool
  hasChanges : Bool
  hasIgnoredFiles : Bool

def validRemovalPaths (request : WorktreeRemovalRequest) : Bool :=
  request.workspaceRoot.absolute && request.targetPath.absolute &&
    !(request.workspaceRoot.components.contains "..") &&
    !(request.targetPath.components.contains "..") &&
    request.targetPath.parent = some request.workspaceRoot &&
    match disk.entries [] with
    | some .directory => disk.canonicalRoot = some request.workspaceRoot
    | some .symlink | some (.file _) => false
    | none | some .unreadable => disk.entries (leafOf request.targetPath) = none

/-- The provenance of a worktree that is there. -/
def linkedWorktree (request : WorktreeRemovalRequest)
    (headCommitOid : String) : Except GitError LinkedWorktree :=
  match state.disk.entries (leafOf request.targetPath), state.linked request.targetPath with
  | some .directory, some worktree =>
    if worktree.repositoryId = request.repositoryId ∧ worktree.branchName = request.branchName ∧
        worktree.headCommitOid = headCommitOid then
      .ok worktree
    else
      .error .rollbackProvenanceMismatch
  | _, _ => .error .rollbackProvenanceMismatch

/-- `inspect_worktree_removal`: a missing target is no error. -/
def inspectWorktreeRemoval (request : WorktreeRemovalRequest) :
    Except GitError WorktreeRemovalInspection := do
  let source ← env.git.inspectRepository request.sourceRepository
  if source.id ≠ request.repositoryId then throw .rollbackProvenanceMismatch
  else if !validRemovalPaths state.disk request then throw .rollbackProvenanceMismatch
  else
    match ← commitForRef env.git source.worktreeRoot ("refs/heads/" ++ request.branchName) with
    | none => throw .rollbackProvenanceMismatch
    | some headCommitOid =>
      match state.disk.entries (leafOf request.targetPath) with
      | none =>
        return { headCommitOid := headCommitOid, present := false, hasChanges := false,
                 hasIgnoredFiles := false }
      | some .unreadable => throw .filesystem
      | some _ =>
        let worktree ← linkedWorktree state request headCommitOid
        return { headCommitOid := headCommitOid, present := true,
                 hasChanges := worktree.hasChanges,
                 hasIgnoredFiles := worktree.hasIgnoredFiles }

/-- `remove_worktree`, which keeps the branch. -/
def removeWorktree (request : WorktreeRemovalRequest) : Proc ServiceState GitError Unit := do
  let inspection ← ofExcept (inspectWorktreeRemoval env (← read) request)
  if !inspection.present then return ()
  else if inspection.hasChanges then fail .worktreeHasChanges
  else if inspection.hasIgnoredFiles then fail .worktreeHasIgnoredFiles
  else change .other (ServiceState.unlink request.targetPath)

/-- A file that takes the place of another one, or unless `existing` is a new one. -/
structure Replacement where
  path : List String
  existing : Bool
  limit : ℕ
  document : Document

/-- The folder of a file below the root is a directory. -/
def folderPresent (path : List String) : Bool :=
  path.length ≤ 1 || disk.entries path.dropLast = some .directory

/-- What the entry at the path of a file must be. -/
def replaceable (size : Document → ℕ) (file : Replacement) : Option Entry → Bool
  | none | some .unreadable => !file.existing
  | some (.file document) => size document ≤ file.limit
  | some .directory | some .symlink => false

/-- The checks before a file is replaced. -/
def accepts (file : Replacement) : Bool :=
  folderPresent disk file.path && replaceable env.size file (disk.entries file.path) &&
    env.size file.document ≤ file.limit

def ServiceState.write (file : Replacement) (state : ServiceState) : ServiceState :=
  { state with disk := state.disk.put file.path (.file file.document) }

/-- `atomic_replace_bytes`. -/
def replaceFile (file : Replacement) : Proc ServiceState LocalWtsError Unit := do
  let state ← read
  if accepts env state.disk file then
    change (.generatedFileFailed false) (ServiceState.write file)
  else
    fail (.generatedFileFailed false)

def replaceFiles : List Replacement → Proc ServiceState LocalWtsError Unit
  | [] => return ()
  | file :: rest => do
    replaceFile env file
    replaceFiles rest

structure Evidence where
  context : WorkspaceEvidenceContext
  graphManifest : WorkspaceGraphManifest
  verificationPlan : WorkspaceVerificationPlan
  verificationResult : WorkspaceVerificationResult

def evidenceFile (leaf : String) : List String := [evidenceDirectory, leaf]

/-- `read_json` of the evidence store. -/
def readEvidenceFile (leaf : String) : Option Document :=
  match disk.entries (evidenceFile leaf) with
  | some (.file document) =>
    if env.size document ≤ maxEvidenceFileBytes then some document else none
  | _ => none

def terminalVerificationResult (result : WorkspaceVerificationResult) : Bool :=
  (match result.status with
    | .passed | .failed | .blocked | .cancelled => true
    | .notRun | .running => false) && result.completedAtUnixMs.isSome

/-- `read_verification_history`: a missing history is empty. -/
def validHistory : Bool :=
  disk.entries (evidenceFile "verification-history.json") = none ||
    match readEvidenceFile env disk "verification-history.json" with
    | some (.verificationHistory history) =>
      history.length ≤ maxVerificationHistory && history.all terminalVerificationResult
    | _ => false

def opensEvidence : Bool :=
  disk.entries [evidenceDirectory] = some .directory &&
    disk.entries (evidenceFile agentRunsDirectory) = some .directory &&
    disk.entries (evidenceFile logsDirectory) = some .directory

/-- The documents that the evidence store reads first. -/
def evidenceDocuments : Option Evidence :=
  if disk.entries [evidenceDirectory] = some .directory ∧ validHistory env disk then
    match readEvidenceFile env disk "context.json", readEvidenceFile env disk "graph-manifest.json",
        readEvidenceFile env disk "verification-plan.json",
        readEvidenceFile env disk "verification-result.json" with
    | some (.context context), some (.graph graph), some (.verificationPlan plan),
        some (.verificationResult result) =>
        some { context := context, graphManifest := graph, verificationPlan := plan,
               verificationResult := result }
    | _, _, _, _ => none
  else
    none

def agentReport : Replacement where
  path := evidenceFile agentReportFile
  existing := false
  limit := maxEvidenceFileBytes
  document := .text env.emptyAgentReport

def writeMissingReport : Proc ServiceState LocalWtsError Unit := do
  let state ← read
  if state.disk.entries (agentReport env).path = none then do
    let _ ← attempt (δ := LocalWtsError) (replaceFile env (agentReport env))
    return ()
  else return ()

def removeOldRuns : Proc ServiceState LocalWtsError Unit := do
  let state ← read
  match ← ofExcept (env.retainAgentRuns state.disk) with
  | none => return ()
  | some kept => change .invalidWorkspaceEvidence fun state => { state with disk := kept }

/-- `EvidenceStore::read`: it writes a missing agent report and removes old agent runs. -/
def readEvidence : Proc ServiceState LocalWtsError Evidence := do
  let state ← read
  match evidenceDocuments env state.disk with
  | none => fail .invalidWorkspaceEvidence
  | some evidence => do
    writeMissingReport env
    removeOldRuns env
    return evidence

/-- A call of the registry. A view that cannot be built afterwards is an error of a call that has
written. -/
def registryCall {α : Type} (call : Tables → Store.Outcome α) :
    Proc ServiceState LocalWtsError Unit := do
  let outcome := call (← read).tables
  change (.store .database) fun state => { state with tables := outcome.2 }
  match outcome.1 with
  | .ok _ => return ()
  | .error error => fail (.store error)

end Service

end Wts.Service
