/-
Module: Wts.App.WorkspaceSetup
Purpose: The setup of a workspace: its preflight, which finds a local repository for every saved one
  and asks Git for a plan, and the run that creates the worktrees and writes the generated files,
  the manifest last.
Trusted boundary: the answers of Git; serde_json; Unicode lower case
-/
import Wts.App.Materialization
import Wts.Library.Interrupt

namespace Wts.Materialization

open Text Workspace Worktree Interrupt
open Interrupt.Proc
open Store (WorkspaceView WorkspaceRepositoryPlan)
open Wts.CodeWorkspace (RepositorySummary RepositoryCatalog eqIgnoreAsciiCase)

def maxEvidenceFileBytes : ℕ := 512 * 1024
def maxReviewInboxBytes : ℕ := 240 * 1024
def wtsVersion : String := "0.1.0"
def workspaceCopilotFile : List String := [workspaceCopilotDir, "copilot-instructions.md"]

/-! ### Preflight -/

structure PreflightRepository where
  repositoryId : String
  label : String
  sourceDisplayPath : PathBuf
  requestedBaseRef : String
  resolvedBaseRef : String
  baseCommitOid : String
  targetDisplayPath : PathBuf

structure WorkspaceSetupRecovery where
  effectDigest : String
  ready : Bool
  paths : List String
  blockers : List String

structure WorkspacePreflight where
  workspaceId : Uuid
  workspaceDisplayPath : PathBuf
  codeWorkspaceDisplayPath : PathBuf
  branchName : String
  ready : Bool
  effectDigest : String
  repositories : List PreflightRepository
  runtime : Option RuntimePlanSelection
  planning : Option WorkspacePlanningSelection
  blockers : List PreflightBlocker
  warnings : List String
  graph : GraphWorkspaceSummary
  setupRecovery : Option WorkspaceSetupRecovery

structure PreparedPreflight where
  plan : Option WorktreePlan
  preflight : WorkspacePreflight

/-- What setup gets from outside. The answers of Git are those before setup; `inspectCreated` and
`trackingRemoteUrl` are asked once the worktrees are there, `checkWorktrees` of worktrees that are
there from an earlier setup. -/
structure SetupEnv where
  catalog : Except LocalWtsError RepositoryCatalog
  git : GitAnswers
  toLowercase : String → String
  size : Document → ℕ
  runtimeIsStale : RuntimePlanSelection → List PlannedWorktree → Bool
  setupRecovery : Option WorkspaceSetupRecovery
  effectJson : WorkspacePreflight → List UInt8
  inspectCreated : PathBuf → Except GitError RepositoryInspection
  trackingRemoteUrl : PathBuf → String → Option String
  checkWorktrees : WorkspaceMaterialization → Except LocalWtsError WorkspaceMaterialization
  verificationChecks : WorkspaceMaterialization → List VerificationCheck
  nowUnixMs : Int64
  guide : String → WorkspaceEvidenceContext → String
  planningFiles : WorkspacePlanningSelection → List (String × String)
  reviewInbox : Except LocalWtsError String
  emptyAgentReport : String
  rollbackComplete : Bool

def blocker (code : PreflightBlockerCode) (message : String) : PreflightBlocker where
  code := code
  message := message
  repositoryLabel := none
  repositoryId := none
  requestedBaseRef := none

def blockerForGit : GitError → PreflightBlocker
  | .gitUnavailable => blocker .gitUnavailable "Git is not available to create worktrees."
  | .baseReferenceNotFound | .defaultBranchNotFound | .invalidBaseReference =>
    blocker .baseReferenceUnavailable "A requested base branch is unavailable locally."
  | .branchConflict =>
    blocker .branchConflict
      "The workspace branch already exists locally. It will not be overwritten or deleted. create a revised plan to use a new branch."
  | .targetPathConflict => blocker .targetConflict "A target worktree path already exists."
  | .workspaceOverlapsRepository | .workspaceRootSymlink | .workspaceRootUnavailable =>
    blocker .unsafeWorkspacePath "The configured workspace location is not safe for this plan."
  | _ => blocker .gitPreflightFailed "Git could not safely prepare this workspace."

def blockerForRepositoryGit (error : GitError) (label repositoryId baseRef : String) :
    PreflightBlocker :=
  let found := blockerForGit error
  { found with
    message :=
      if found.code = .baseReferenceUnavailable then
        "Base `" ++ baseRef ++ "` does not exist in the currently known refs. Refresh the origin branch list, or revise this saved plan to an existing base."
      else
        found.message
    repositoryLabel := some label
    repositoryId := some repositoryId
    requestedBaseRef := some baseRef }

section Setup

variable (env : SetupEnv) (disk : Disk) (view : WorkspaceView)

/-- The repositories of the catalog that a saved repository matches. -/
def catalogMatches (catalog : RepositoryCatalog) (repository : WorkspaceRepositoryPlan) :
    List RepositorySummary :=
  match repository.repositoryId with
  | some repositoryId => catalog.repositories.filter fun found => found.id = repositoryId
  | none =>
    catalog.repositories.filter fun found =>
      env.toLowercase found.label = env.toLowercase repository.label

def inspectRepositoryBase (path : PathBuf) (baseRef : String) : Except GitError Unit := do
  let repository ← env.git.inspectRepository path
  let _ ← resolveBase env.git repository (some baseRef)
  return ()

/-- A request to Git for a saved repository, or what blocks it. -/
def repositoryRequest (catalog : RepositoryCatalog) (repository : WorkspaceRepositoryPlan) :
    Except PreflightBlocker RepositoryRequest :=
  let blocked (code : PreflightBlockerCode) (message : String) : PreflightBlocker :=
    { code := code
      message := message
      repositoryLabel := some repository.label
      repositoryId := repository.repositoryId
      requestedBaseRef := some repository.baseRef }
  match catalogMatches env catalog repository with
  | [] =>
    .error (blocked .repositoryMissing
      (if repository.repositoryId.isSome then
        "The pinned local repository is no longer available."
      else
        "No discovered local repository matches this label."))
  | [found] =>
    match inspectRepositoryBase env (.ofText found.displayPath) repository.baseRef with
    | .ok () =>
      .ok { trustedPath := .ofText found.displayPath, baseRef := some repository.baseRef }
    | .error error =>
      .error (blockerForRepositoryGit error repository.label found.id repository.baseRef)
  | _ =>
    .error (blocked .repositoryAmbiguous "More than one local repository matches this label.")

/-- The loop over the saved repositories. -/
def repositoryRequests (catalog : RepositoryCatalog) :
    List WorkspaceRepositoryPlan → List PreflightBlocker × List RepositoryRequest
  | [] => ([], [])
  | repository :: rest =>
    let (blockers, requests) := repositoryRequests catalog rest
    match repositoryRequest env catalog repository with
    | .ok request => (blockers, request :: requests)
    | .error found => (found :: blockers, requests)

def preflightRepository (planned : PlannedWorktree) : PreflightRepository where
  repositoryId := planned.repository.id
  label := planned.repository.label
  sourceDisplayPath := planned.repository.worktreeRoot
  requestedBaseRef := planned.base.requested
  resolvedBaseRef := planned.base.fullRef
  baseCommitOid := planned.base.commitOid
  targetDisplayPath := planned.targetPath

def runtimeBlockers (plan : WorktreePlan) : List PreflightBlocker :=
  match view.runtime with
  | some runtime =>
    if env.runtimeIsStale runtime plan.repositories then
      [blocker .runtimeAnalysisStale
        "The saved service plan no longer matches the selected commits. Analyze services again before creating the workspace."]
    else
      []
  | none => []

def planningBlockers (plan : WorktreePlan) : List PreflightBlocker :=
  match view.planning with
  | some planning =>
    let leaf := planningFolderLeaf planning.folder
    let collides := plan.repositories.any fun planned =>
      planned.targetPath = (workspacePath view).join leaf
    if collides || disk.entries [leaf] ≠ none then
      [blocker .targetConflict
        ("The selected planning home `" ++ leaf ++
          "` conflicts with an existing or planned workspace path.")]
    else
      []
  | none => []

def initialDirectories : List (List String) :=
  [[evidenceDirectory], [evidenceDirectory, "agent-runs"], [evidenceDirectory, "logs"]]

def initialFileNames : List String :=
  ["context.json", "graph-manifest.json", "verification-plan.json", "verification-result.json",
    "verification-history.json", "agent-report.json"]

/-- The files that setup writes, as its preflight lists them. -/
def setupFiles : List (List String) :=
  [[codeWorkspaceFileName view.intent view.title], [wtsGuideFile], [workspaceAgentsFile],
    [workspaceClaudeFile], [workspaceCursorRulesFile], workspaceCopilotFile,
    [materializationManifestFile], [evidenceDirectory, reviewInboxFile]] ++
    initialFileNames.map fun leaf => [evidenceDirectory, leaf]

/-- Why an entry of the workspace cannot be written. -/
def pathConflict (path : List String) (expectsDirectory : Bool) : Option String :=
  let display := String.intercalate "/" ((workspacePath view).components ++ path)
  match disk.entries path with
  | none => none
  | some .unreadable =>
    some ("Cannot inspect `/" ++ display ++
      "`. Check access to this path, then select Check again.")
  | some _ =>
    if expectsDirectory && disk.canonicalDirectory (workspacePath view) path then none
    else
      some ("Cannot create workspace files at `/" ++ display ++
        "`. Preserve the existing contents and move this path outside the workspace. Select Check again.")

/-- The loop over the directories and files of the workspace; nothing below a blocked directory is
looked at. -/
def pathBlockers : List (List String × Bool) → List (List String) → List PreflightBlocker
  | [], _ => []
  | (path, expectsDirectory) :: rest, blocked =>
    if blocked.any fun directory => directory.isPrefixOf path then pathBlockers rest blocked
    else
      match pathConflict disk view path expectsDirectory with
      | none => pathBlockers rest blocked
      | some message =>
        blocker .targetConflict message ::
          pathBlockers rest (if expectsDirectory then path :: blocked else blocked)

/-- What blocks a plan that Git has accepted. -/
def planBlockers (plan : WorktreePlan) : List PreflightBlocker :=
  runtimeBlockers env view plan ++ planningBlockers disk view plan ++
    pathBlockers disk view
      ((initialDirectories ++ [[workspaceCopilotDir]]).map (·, true) ++
        (setupFiles view).map (·, false)) []

def setupRecoveryBlocker : PreflightBlocker :=
  blocker .targetConflict
    "An earlier setup did not finish. Review its saved paths before another setup attempt."

def preflightWarnings : List String :=
  ["Graphify indexing is optional and is not started by this MVP action.",
    "Opening an editor remains a separate explicit action."] ++
    (view.planning.map fun _ =>
      "Planning starter files become user-owned content after creation and are not automatically removed.").toList

/-- `effect_digest` of a preflight whose digest is still empty. -/
def effectDigest (preflight : WorkspacePreflight) : String :=
  "sha256:" ++
    Sha256.hexEncode
      (Sha256.sha256 (utf8Bytes "wts-materialization-effect-v3\x00" ++ env.effectJson preflight))

def resolveWorkspaceRoot (path : PathBuf) : Except GitError (PathBuf × Bool) :=
  if !path.absolute || ".." ∈ path.components then .error .workspaceRootUnavailable
  else
    match disk.entries [], disk.canonicalRoot with
    | some .symlink, _ => .error .workspaceRootSymlink
    | some .directory, some root => .ok (root, false)
    | none, some root => .ok (root, true)
    | _, _ => .error .workspaceRootUnavailable

/-- What Git answers to the requests, and what blocks the plan. -/
def planWorkspace (blockers : List PreflightBlocker) (requests : List RepositoryRequest) :
    Option WorktreePlan × List PreflightBlocker :=
  if blockers = [] then
    match preflight env.git (resolveWorkspaceRoot disk (workspacePath view))
        { workspaceRoot := workspacePath view, branchName := workspaceBranchName view,
          repositories := requests } with
    | .ok plan => (some plan, planBlockers env disk view plan)
    | .error error => (none, [blockerForGit error])
  else
    (none, blockers)

def preparePreflight : Except LocalWtsError PreparedPreflight := do
  let catalog ← env.catalog
  let (missing, requests) := repositoryRequests env catalog view.repositories
  let (plan, found) := planWorkspace env disk view missing requests
  let blockers := found ++ (env.setupRecovery.map fun _ => setupRecoveryBlocker).toList
  let unsigned : WorkspacePreflight :=
    { workspaceId := view.workspaceId
      workspaceDisplayPath := workspacePath view
      codeWorkspaceDisplayPath :=
        (workspacePath view).join (codeWorkspaceFileName view.intent view.title)
      branchName := workspaceBranchName view
      ready := blockers = []
      effectDigest := ""
      repositories := (plan.map fun plan => plan.repositories.map preflightRepository).getD []
      runtime := view.runtime
      planning := view.planning
      blockers := blockers
      warnings := preflightWarnings view
      graph := graphSummary
      setupRecovery := env.setupRecovery }
  return { plan := plan, preflight := { unsigned with effectDigest := effectDigest env unsigned } }

/-- The evidence of a worktree and of the repository that the preflight found for it. -/
def evidenceRepository (prepared : PreflightRepository) (worktree : MaterializedWorktree) :
    EvidenceRepository where
  repositoryId := worktree.repositoryId
  label := worktree.label
  requestedBaseRef := prepared.requestedBaseRef
  resolvedBaseRef := prepared.resolvedBaseRef
  baseCommitOid := worktree.baseCommitOid
  worktreeDisplayPath := worktree.targetDisplayPath

def evidenceContext (preflight : WorkspacePreflight) (materialization : WorkspaceMaterialization) :
    Except LocalWtsError WorkspaceEvidenceContext := do
  let repositories ← materialization.worktrees.mapM fun worktree =>
    match preflight.repositories.find? fun found => found.repositoryId = worktree.repositoryId with
    | some prepared => .ok (evidenceRepository prepared worktree)
    | none => .error LocalWtsError.invalidWorkspaceEvidence
  return {
    schemaVersion := evidenceSchemaVersion
    workspaceId := view.workspaceId
    workspaceRecordVersion := view.recordVersion
    title := view.title
    intent := view.intent
    preferredProvider := view.preferredProvider
    branchName := materialization.branchName
    workspaceDisplayPath := materialization.workspaceDisplayPath
    codeWorkspaceDisplayPath := materialization.codeWorkspaceDisplayPath
    evidenceDisplayPath := materialization.workspaceDisplayPath.join evidenceDirectory
    createdAtUnixMs := view.createdAtUnixMs
    wtsVersion := wtsVersion
    repositories := repositories
    allowedRepositoryIds := repositories.map EvidenceRepository.repositoryId }

variable (materialization : WorkspaceMaterialization)

/-- What a context says of the workspace itself. -/
def describesWorkspace (context : WorkspaceEvidenceContext) : Bool :=
  context.schemaVersion = evidenceSchemaVersion && context.workspaceId = view.workspaceId &&
    context.workspaceRecordVersion = view.recordVersion && context.title = view.title &&
    context.intent = view.intent && context.preferredProvider = view.preferredProvider &&
    context.branchName = materialization.branchName &&
    context.workspaceDisplayPath = materialization.workspaceDisplayPath &&
    context.codeWorkspaceDisplayPath = materialization.codeWorkspaceDisplayPath &&
    context.evidenceDisplayPath = materialization.workspaceDisplayPath.join evidenceDirectory &&
    context.wtsVersion ≠ "" &&
    context.repositories.length = materialization.worktrees.length

/-- The evidence of one repository: its worktree is found by the identifier, its saved repository by
the label. -/
def validEvidenceRepository
    (allowedRepositoryIds : List String) (repository : EvidenceRepository) : Bool :=
  match materialization.worktrees.find? fun worktree =>
      worktree.repositoryId = repository.repositoryId with
  | none => false
  | some worktree =>
    match view.repositories.find? fun request =>
        eqIgnoreAsciiCase request.label repository.label with
    | none => false
    | some request =>
      allowedRepositoryIds.contains repository.repositoryId &&
        repository.label = worktree.label &&
        repository.requestedBaseRef = request.baseRef &&
        repository.baseCommitOid = worktree.baseCommitOid &&
        repository.worktreeDisplayPath = worktree.targetDisplayPath &&
        repository.resolvedBaseRef ≠ "" && validCommitOid repository.baseCommitOid

/-- `validate_workspace_evidence_context`; all its errors are the same. -/
def validateWorkspaceEvidenceContext
    (context : WorkspaceEvidenceContext) : Except LocalWtsError (List String) :=
  if describesWorkspace view materialization context &&
      context.allowedRepositoryIds.Nodup &&
      context.allowedRepositoryIds.length = materialization.worktrees.length &&
      context.repositories.all
        (validEvidenceRepository view materialization context.allowedRepositoryIds) then
    .ok context.allowedRepositoryIds
  else
    .error .invalidWorkspaceEvidence

/-- One entry that setup creates. A file has at most the given length. -/
inductive SetupStep where
  | directory (path : List String)
  | file (path : List String) (limit : ℕ) (document : Except LocalWtsError Document)

/-- `create_directory`: a directory that is there already is used. -/
def createDirectory (path : List String) : Proc Disk LocalWtsError Unit := do
  match (← read).entries path with
  | none => change (.generatedFileFailed false) fun disk => disk.put path .directory
  | some .directory => return ()
  | some _ => fail (.generatedFileFailed false)

def writeFile (path : List String) (document : Document) : Proc Disk LocalWtsError Unit := do
  match (← read).entries path with
  | none => change (.generatedFileFailed false) fun disk => disk.put path (.file document)
  | some _ => fail (.generatedFileFailed false)

def runStep : SetupStep → Proc Disk LocalWtsError Unit
  | .directory path => createDirectory path
  | .file path limit document => do
    let document ← ofExcept document
    if env.size document ≤ limit then writeFile path document
    else fail (.generatedFileFailed false)

def runSteps : List SetupStep → Proc Disk LocalWtsError Unit
  | [] => return ()
  | step :: rest => do
    runStep env step
    runSteps rest

def planningSteps : List SetupStep :=
  match materialization.planning with
  | none => []
  | some planning =>
    let leaf := planningFolderLeaf planning.folder
    .directory [leaf] ::
      (env.planningFiles planning).map fun file =>
        .file [leaf, file.1] maxGeneratedFileBytes (.ok (.text file.2))

def graphManifest : WorkspaceGraphManifest where
  schemaVersion := evidenceSchemaVersion
  workspaceId := view.workspaceId
  status := .notStarted
  graphDisplayPath := none
  detail := "Workspace-local Graphify indexing has not started."

def verificationPlan : WorkspaceVerificationPlan where
  schemaVersion := evidenceSchemaVersion
  workspaceId := view.workspaceId
  revision := 1
  updatedAtUnixMs := env.nowUnixMs
  checks := env.verificationChecks materialization

def verificationResult : WorkspaceVerificationResult where
  schemaVersion := evidenceSchemaVersion
  workspaceId := view.workspaceId
  planRevision := 1
  status := .notRun
  startedAtUnixMs := none
  completedAtUnixMs := none
  warnings := []

/-- The documents of `initial_files`, in the order of their names. -/
def initialDocuments (context : WorkspaceEvidenceContext) : List Document :=
  [.context context, .graph (graphManifest view),
    .verificationPlan (verificationPlan env view materialization),
    .verificationResult (verificationResult view), .verificationHistory [],
    .text env.emptyAgentReport]

/-- The generated entries in the order in which they are written: the manifest is the last. -/
def setupSteps (context : WorkspaceEvidenceContext) :
    List SetupStep :=
  planningSteps env materialization ++
    .file [codeWorkspaceFileName view.intent view.title] maxGeneratedFileBytes
      (.ok (.codeWorkspace { folders := codeWorkspaceFolders materialization })) ::
    ([wtsGuideFile, workspaceAgentsFile, workspaceClaudeFile, workspaceCursorRulesFile].map
      fun leaf => .file [leaf] maxGeneratedFileBytes (.ok (.text (env.guide leaf context)))) ++
    .directory [workspaceCopilotDir] ::
    .file workspaceCopilotFile (2 ^ 64) (.ok (.text (env.guide workspaceCopilotDir context))) ::
    initialDirectories.map SetupStep.directory ++
    (initialFileNames.zip (initialDocuments env view materialization context)).map
      (fun file => .file [evidenceDirectory, file.1] maxEvidenceFileBytes (.ok file.2)) ++
    [.file [evidenceDirectory, reviewInboxFile] maxReviewInboxBytes
        (env.reviewInbox.map Document.text),
      .file [materializationManifestFile] maxGeneratedFileBytes (.ok (.manifest materialization))]

/-- The saved repository of a created worktree, as the tracking remote is looked up for it. -/
def trackedRepository (created : CreatedWorktree) : Option WorkspaceRepositoryPlan :=
  view.repositories.find? fun repository =>
    repository.repositoryId = some created.repositoryId ||
      (repository.repositoryId = none &&
        eqIgnoreAsciiCase repository.label created.repositoryLabel)

def materializedWorktree (created : CreatedWorktree) : Except LocalWtsError MaterializedWorktree :=
  match env.inspectCreated created.targetPath with
  | .error _ => .error .invalidMaterializationManifest
  | .ok inspection =>
    let trackingRemoteUrl := (trackedRepository view created).bind fun repository =>
      env.trackingRemoteUrl created.sourceRepository repository.baseRef
    .ok
      { repositoryId := created.repositoryId
        label := created.repositoryLabel
        targetDisplayPath := created.targetPath
        branchName := created.branchName
        baseCommitOid := created.baseCommitOid
        gitState := some
          { headCommitOid := created.baseCommitOid
            originUrl := trackingRemoteUrl.or inspection.originUrl
            upstreamFullRef := inspection.upstreamFullRef }
        activity := some { changedFileCount := 0, commitsAhead := 0 } }

def newMaterialization (preflight : WorkspacePreflight) (receipt : WorktreeReceipt)
    (worktrees : List MaterializedWorktree) : WorkspaceMaterialization where
  schemaVersion := manifestSchemaVersion
  workspaceId := view.workspaceId
  workspaceRecordVersion := view.recordVersion
  effectDigest := preflight.effectDigest
  workspaceDisplayPath := receipt.workspaceRoot
  codeWorkspaceDisplayPath :=
    receipt.workspaceRoot.join (codeWorkspaceFileName view.intent view.title)
  branchName := receipt.branchName
  worktrees := worktrees
  runtime := view.runtime
  planning := view.planning
  graph := graphSummary

/-- The worktrees appear in the root. -/
def Disk.withWorktrees (disk : Disk) (plan : WorktreePlan) : Disk :=
  plan.repositories.foldl
    (fun disk planned => disk.put [planned.repository.worktreeLeaf] .directory)
    (disk.put [] .directory)

/-- The part of setup that a failure of a generated file rolls back. -/
def writeWorkspace (preflight : WorkspacePreflight) (receipt : WorktreeReceipt) :
    Proc Disk LocalWtsError WorkspaceMaterialization := do
  let worktrees ← ofExcept (receipt.worktrees.mapM (materializedWorktree env view))
  let materialization := newMaterialization view preflight receipt worktrees
  let context ← ofExcept (evidenceContext view preflight materialization)
  runSteps env (setupSteps env view materialization context)
  return materialization

structure MaterializeWorkspaceResult where
  replayed : Bool
  materialization : WorkspaceMaterialization

/-- `load_materialization` without the observation of the lifecycle. -/
def validateMaterialization : Except LocalWtsError WorkspaceMaterialization := do
  let materialization ← readMaterializationReceipt env.size disk view
  env.checkWorktrees materialization

/-- The setup of a preflight that is ready. -/
def runSetup (prepared : PreparedPreflight) : Proc Disk LocalWtsError MaterializeWorkspaceResult := do
  let started ← tryChange id
  if !started then fail (.generatedFileFailed true)
  else
    match prepared.plan with
    | none => fail (.preflightBlocked prepared.preflight.blockers)
    | some plan => do
      change (.materializationFailed env.rollbackComplete) fun disk => disk.withWorktrees plan
      match ← attempt (writeWorkspace env view prepared.preflight
          (plan.receipt plan.workspaceRootWillBeCreated)) with
      | .ok materialization => return { replayed := false, materialization := materialization }
      | .error _ => fail (.generatedFileFailed env.rollbackComplete)

def materializeWorkspace (expectedEffectDigest : String) :
    Proc Disk LocalWtsError MaterializeWorkspaceResult := do
  let disk ← read
  match validateMaterialization env disk view with
  | .ok materialization =>
    if expectedEffectDigest ≠ materialization.effectDigest then fail .stalePreflight
    else return { replayed := true, materialization := materialization }
  | .error _ => do
    let prepared ← ofExcept (preparePreflight env disk view)
    if !prepared.preflight.ready then fail (.preflightBlocked prepared.preflight.blockers)
    else if expectedEffectDigest ≠ prepared.preflight.effectDigest then fail .stalePreflight
    else runSetup env view prepared

end Setup

end Wts.Materialization
