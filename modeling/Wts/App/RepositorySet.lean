/-
Module: Wts.App.RepositorySet
Purpose: Adding a repository to a materialized workspace and removing one.
Trusted boundary: the answers of Git; serde_json; Unicode lower case; the graph adapter
-/
import Wts.App.ServiceState

namespace Wts.RepositorySet

open Text Workspace Worktree Interrupt Materialization Service
open Interrupt.Proc
open Store (Tables WorkspaceView WorkspaceRepositoryPlan)
open Wts.CodeWorkspace (RepositorySummary eqIgnoreAsciiCase)

section Calls

variable (env : ServiceEnv) (workspaceId : Uuid)

variable (materialization : WorkspaceMaterialization)

/-- The evidence after the repositories changed; the revision of the plan must not overflow. -/
def changedEvidence
    (repositories : List EvidenceRepository) (evidence : Evidence) : Option Evidence :=
  if evidence.verificationPlan.revision.toNat + 1 < 2 ^ 64 then
    some
      { context :=
          { evidence.context with
            repositories := repositories
            allowedRepositoryIds := repositories.map EvidenceRepository.repositoryId }
        graphManifest :=
          { schemaVersion := evidenceSchemaVersion
            workspaceId := workspaceId
            status := .notStarted
            graphDisplayPath := none
            detail := "The repository set changed. Rebuild the workspace graph." }
        verificationPlan :=
          { evidence.verificationPlan with
            revision := evidence.verificationPlan.revision + 1
            updatedAtUnixMs := env.nowUnixMs
            checks := env.verificationChecks materialization }
        verificationResult :=
          { schemaVersion := evidenceSchemaVersion
            workspaceId := workspaceId
            planRevision := evidence.verificationPlan.revision + 1
            status := .notRun
            startedAtUnixMs := none
            completedAtUnixMs := none
            warnings := ["The repository set changed. Run verification again."] } }
  else
    none

/-- The files of a change, in the order in which they are replaced. -/
def replacements (evidence : Evidence) :
    List Replacement :=
  let generated (path : List String) (document : Document) : Replacement :=
    { path := path, existing := true, limit := maxGeneratedFileBytes, document := document }
  let stored (leaf : String) (document : Document) : Replacement :=
    { path := evidenceFile leaf, existing := false, limit := maxEvidenceFileBytes,
      document := document }
  [generated (leafOf materialization.codeWorkspaceDisplayPath)
      (.codeWorkspace { folders := codeWorkspaceFolders materialization }),
    stored "context.json" (.context evidence.context),
    stored "graph-manifest.json" (.graph evidence.graphManifest),
    stored "verification-plan.json" (.verificationPlan evidence.verificationPlan),
    stored "verification-result.json" (.verificationResult evidence.verificationResult),
    generated [wtsGuideFile] (.text (env.guide wtsGuideFile evidence.context)),
    generated [materializationManifestFile] (.manifest materialization)]

/-- A change that is ready to be written, with the documents that it replaces. -/
structure PreparedChange where
  materialization : WorkspaceMaterialization
  evidence : Evidence
  backups : List (List String × Document)

def backupFiles (disk : Disk) (files : List Replacement) : Option (List (List String × Document)) :=
  files.mapM fun file => (disk.generatedFile env.size file.path).map fun document =>
    (file.path, document)

def restoreFiles (backups : List (List String × Document)) (disk : Disk) : Disk :=
  backups.foldl (fun disk backup => disk.put backup.1 (.file backup.2)) disk

def prepareChange (update : List EvidenceRepository → List EvidenceRepository) :
    Proc ServiceState LocalWtsError PreparedChange := do
  if !opensEvidence (← read).disk then fail .invalidWorkspaceEvidence
  else
    let evidence ← readEvidence env
    match changedEvidence env workspaceId materialization (update evidence.context.repositories)
        evidence with
    | none => fail .invalidWorkspaceEvidence
    | some changed =>
      match backupFiles env (← read).disk (replacements env materialization changed) with
      | none => fail .invalidWorkspaceEvidence
      | some backups =>
        return { materialization := materialization, evidence := changed, backups := backups }

/-- The part of both calls whose failure is undone: the files, then the registry. -/
def persistChange {α : Type} (prepared : PreparedChange) (call : Tables → Store.Outcome α) :
    Proc ServiceState LocalWtsError Unit := do
  replaceFiles env (replacements env prepared.materialization prepared.evidence)
  registryCall call

def restoreChange (prepared : PreparedChange) (state : ServiceState) : ServiceState :=
  { state with disk := restoreFiles prepared.backups state.disk }

def reviewInboxReplacement (text : String) : Replacement where
  path := evidenceFile reviewInboxFile
  existing := false
  limit := maxReviewInboxBytes
  document := .text text

def publishReviewInbox : Proc ServiceState LocalWtsError Unit := do
  let text ← ofExcept env.reviewInbox
  replaceFile env (reviewInboxReplacement text)

def graphReplacement (manifest : WorkspaceGraphManifest) : Replacement where
  path := evidenceFile "graph-manifest.json"
  existing := false
  limit := maxEvidenceFileBytes
  document := .graph manifest

/-- `record_graph_evidence` and `record_graph_failure`: whether the graph is new. -/
def recordGraph (recordFailure : Bool) :
    Proc ServiceState LocalWtsError Bool := do
  match env.indexGraph materialization with
  | .ok manifest => do
    match ← attempt (δ := LocalWtsError) (replaceFile env (graphReplacement manifest)) with
    | .ok () => return true
    | .error _ => return false
  | .error manifest =>
    if recordFailure then do
      let _ ← attempt (δ := LocalWtsError) (replaceFile env (graphReplacement manifest))
      return false
    else return false

/-! ### Adding a repository -/

structure PreparedRepositoryAddition where
  request : WorkspaceRepositoryRequest
  planned : PlannedWorktree
  preflight : WorkspaceRepositoryAdditionPreflight

/-- The saved repositories and the new one, as a creation request. -/
def additionRequest (view : WorkspaceView) (found : RepositorySummary) (baseRef : String) :
    CreateWorkspaceRequest where
  intent := view.intent
  title := view.title
  preferredProvider := view.preferredProvider
  repositories :=
    (view.repositories.map fun repository =>
      { repositoryId := repository.repositoryId, label := repository.label,
        baseRef := repository.baseRef }) ++
      [{ repositoryId := some found.id, label := found.label, baseRef := baseRef }]
  runtime := view.runtime
  planning := view.planning

/-- The catalog's repository for a request that the workspace does not contain yet. -/
def additionSource (view : WorkspaceView) (materialization : WorkspaceMaterialization)
    (repositoryId : String) : Except LocalWtsError RepositorySummary := do
  if (view.repositories.any fun repository => repository.repositoryId = some repositoryId) ||
      (materialization.worktrees.any fun worktree => worktree.repositoryId = repositoryId) then
    throw .repositoryAlreadyInWorkspace
  else
    let catalog ← env.catalog
    match catalog.repositories.find? fun repository => repository.id = repositoryId with
    | none => throw .repositoryNotFound
    | some found =>
      if view.repositories.any fun repository => eqIgnoreAsciiCase repository.label found.label then
        throw .repositoryAlreadyInWorkspace
      else return found

/-- The canonical request for the new repository. -/
def normalizedAddition (view : WorkspaceView) (found : RepositorySummary) (baseRef : String) :
    Except LocalWtsError WorkspaceRepositoryRequest :=
  match (additionRequest view found baseRef).normalize env.toLowercase with
  | .error error => .error (.store (.validation error))
  | .ok normalized =>
    match normalized.repositories.find? fun repository =>
        repository.repositoryId = some found.id with
    | none => .error .repositoryNotFound
    | some request => .ok request

/-- The plan of Git for the new worktree. -/
def planAddition (disk : Disk) (materialization : WorkspaceMaterialization)
    (found : RepositorySummary) (request : WorkspaceRepositoryRequest) :
    Except LocalWtsError PlannedWorktree :=
  let sourcePath := PathBuf.ofText found.displayPath
  match env.git.inspectRepository sourcePath with
  | .error _ => .error .repositoryChanged
  | .ok source =>
    if source.id ≠ found.id then .error .repositoryChanged
    else
      match Worktree.preflight (gitAnswers env disk)
          (resolveWorkspaceRoot disk materialization.workspaceDisplayPath)
          { workspaceRoot := materialization.workspaceDisplayPath
            branchName := materialization.branchName
            repositories := [{ trustedPath := sourcePath, baseRef := some request.baseRef }] } with
      | .error error =>
        .error (.preflightBlocked
          [blockerForRepositoryGit error request.label found.id request.baseRef])
      | .ok plan =>
        match plan.repositories.head? with
        | none => .error (.repositoryAdditionFailed true)
        | some planned => .ok planned

/-- `repository_addition_effect_digest` of a preflight whose digest is still empty. -/
def additionDigest (preflight : WorkspaceRepositoryAdditionPreflight) : String :=
  "sha256:" ++
    Sha256.hexEncode
      (Sha256.sha256 (utf8Bytes "wts-repository-addition-v1\x00" ++ env.additionJson preflight))

def additionPreflight (repositoryId : String)
    (request : WorkspaceRepositoryRequest) (planned : PlannedWorktree) :
    WorkspaceRepositoryAdditionPreflight :=
  let unsigned : WorkspaceRepositoryAdditionPreflight :=
    { workspaceId := workspaceId
      repositoryId := repositoryId
      repositoryLabel := request.label
      baseRef := request.baseRef
      resolvedBaseRef := planned.base.fullRef
      baseCommitOid := planned.base.commitOid
      targetDisplayPath := planned.targetPath
      branchName := materialization.branchName
      effectDigest := "" }
  { unsigned with effectDigest := additionDigest env unsigned }

def validAdditionRequest (request : AddWorkspaceRepositoryRequest) : Bool :=
  trim request.repositoryId ≠ "" && trim request.repositoryId = request.repositoryId &&
    request.repositoryId.utf8ByteSize ≤ maxRepositoryIdBytes &&
    trim request.baseRef ≠ "" && trim request.baseRef = request.baseRef

def prepareRepositoryAddition (state : ServiceState) (request : AddWorkspaceRepositoryRequest) :
    Except LocalWtsError PreparedRepositoryAddition := do
  if !validAdditionRequest request then throw .invalidRepositoryBase
  else
    let view ← liveView env workspaceId state.tables
    let materialization ← receipt env workspaceId state
    let found ← additionSource env view materialization request.repositoryId
    let addition ← normalizedAddition env view found request.baseRef
    let planned ← planAddition env state.disk materialization found addition
    return {
      request := addition
      planned := planned
      preflight :=
        additionPreflight env workspaceId materialization request.repositoryId addition planned }

def validSha256 (value : String) : Bool :=
  value.utf8ByteSize = 71 && startsWith "sha256:" value &&
    (value.toList.drop 7).all isAsciiHexdigit

structure WorkspaceRepositoryAdditionResult where
  workspaceId : Uuid
  repositoryId : String
  repositoryLabel : String
  replayed : Bool
  graphRefreshed : Bool
  materialization : WorkspaceMaterialization

/-- The worktree of an addition that has taken place already. -/
def replayedAddition (state : ServiceState) (repositoryId expectedEffectDigest : String) :
    Option WorkspaceRepositoryAdditionResult :=
  match validated env workspaceId state with
  | .error _ => none
  | .ok materialization =>
    if materialization.effectDigest = expectedEffectDigest then
      (materialization.worktrees.find? fun worktree =>
          worktree.repositoryId = repositoryId).map fun worktree =>
        { workspaceId := workspaceId
          repositoryId := worktree.repositoryId
          repositoryLabel := worktree.label
          replayed := true
          graphRefreshed := materialization.graph.status = .ready
          materialization := materialization }
    else
      none

variable (prepared : PreparedRepositoryAddition)

/-- The new worktree in the manifest. -/
def addedWorktree :
    Except LocalWtsError MaterializedWorktree :=
  let created := createdWorktree prepared.planned
  match env.inspectCreated created.targetPath with
  | .error _ => .error (.repositoryAdditionFailed true)
  | .ok inspection =>
    .ok
      { repositoryId := created.repositoryId
        label := created.repositoryLabel
        targetDisplayPath := created.targetPath
        branchName := created.branchName
        baseCommitOid := created.baseCommitOid
        gitState := some
          { headCommitOid := created.baseCommitOid
            originUrl :=
              (env.trackingRemoteUrl created.sourceRepository prepared.request.baseRef).or
                inspection.originUrl
            upstreamFullRef := inspection.upstreamFullRef }
        activity := some { changedFileCount := 0, commitsAhead := 0 } }

/-- The order of the worktrees: by their labels in lower case, then by their identifiers. -/
def worktreeKey (worktree : MaterializedWorktree) : String ×ₗ String :=
  toLex (env.toLowercase worktree.label, worktree.repositoryId)

def evidenceKey (repository : EvidenceRepository) : String ×ₗ String :=
  toLex (env.toLowercase repository.label, repository.repositoryId)

def addedMaterialization
    (worktree : MaterializedWorktree) (effectDigest : String) : WorkspaceMaterialization :=
  { materialization with
    worktrees := (materialization.worktrees ++ [worktree]).insertionSort fun left right =>
      worktreeKey env left ≤ worktreeKey env right
    effectDigest := effectDigest
    graph := graphSummary }

def newEvidence (worktree : MaterializedWorktree) :
    EvidenceRepository where
  repositoryId := worktree.repositoryId
  label := worktree.label
  requestedBaseRef := prepared.preflight.baseRef
  resolvedBaseRef := prepared.preflight.resolvedBaseRef
  baseCommitOid := worktree.baseCommitOid
  worktreeDisplayPath := worktree.targetDisplayPath

def addedEvidence (worktree : MaterializedWorktree)
    (repositories : List EvidenceRepository) : List EvidenceRepository :=
  (repositories ++ [newEvidence prepared worktree]).insertionSort fun left right =>
    evidenceKey env left ≤ evidenceKey env right

/-- `git.materialize` of the plan: the target is still free. -/
def linkWorktree (planned : PlannedWorktree) : Proc ServiceState LocalWtsError Unit := do
  let state ← read
  if state.disk.entries (leafOf planned.targetPath) = none ∧
      state.linked planned.targetPath = none then
    change (.repositoryAdditionFailed true) (ServiceState.link planned)
  else
    fail (.repositoryAdditionFailed true)

/-- What the addition does up to the registry, or the error after everything is undone. -/
def persistAddition (materialization : WorkspaceMaterialization) :
    Proc ServiceState LocalWtsError (MaterializedWorktree × WorkspaceMaterialization) := do
  linkWorktree prepared.planned
  let rollback := ServiceState.unlink prepared.planned.targetPath
  let failed := LocalWtsError.repositoryAdditionFailed true
  match ← attempt (δ := LocalWtsError) (do
      let worktree ← ofExcept (addedWorktree env prepared)
      let changed ← prepareChange env workspaceId
        (addedMaterialization env materialization worktree prepared.preflight.effectDigest)
        (addedEvidence env prepared worktree)
      return (worktree, changed)) with
  | .error _ => do
    note rollback
    fail failed
  | .ok (worktree, changed) =>
    match ← attempt (persistChange env changed fun tables =>
        Store.addRepository env.store env.call workspaceId prepared.request tables) with
    | .error _ => do
      note fun state => rollback (restoreChange changed state)
      fail failed
    | .ok () => return (worktree, changed.materialization)

def addWorkspaceRepository (request : AddWorkspaceRepositoryRequest)
    (expectedEffectDigest : String) :
    Proc ServiceState LocalWtsError WorkspaceRepositoryAdditionResult := do
  if !validSha256 expectedEffectDigest then fail .repositoryAdditionStale
  else
    ofExcept env.idle
    match replayedAddition env workspaceId (← read) request.repositoryId expectedEffectDigest with
    | some result => return result
    | none => do
      let prepared ← ofExcept (prepareRepositoryAddition env workspaceId (← read) request)
      if prepared.preflight.effectDigest ≠ expectedEffectDigest then
        fail .repositoryAdditionStale
      else
        let materialization ← ofExcept (receipt env workspaceId (← read))
        let (worktree, changed) ← persistAddition env workspaceId prepared materialization
        let _ ← attempt (δ := LocalWtsError) (registryCall fun tables =>
          Store.observeLifecycle env.store env.call workspaceId .materialized
            (UInt32.ofNat changed.worktrees.length) tables)
        let _ ← attempt (δ := LocalWtsError) (publishReviewInbox env)
        let refreshed ← recordGraph env changed true
        let current ← ofExcept (validated env workspaceId (← read))
        return {
          workspaceId := workspaceId
          repositoryId := worktree.repositoryId
          repositoryLabel := worktree.label
          replayed := false
          graphRefreshed := refreshed
          materialization := current }

structure WorkspaceRepositoryRemovalResult where
  workspaceId : Uuid
  repositoryId : String
  repositoryLabel : String
  graphRefreshed : Bool
  materialization : WorkspaceMaterialization

structure PreparedRepositoryRemoval where
  worktree : MaterializedWorktree
  request : WorktreeRemovalRequest
  materialization : WorkspaceMaterialization

/-- The manifest without the repository. -/
def removedMaterialization (repositoryId : String) :
    WorkspaceMaterialization :=
  let worktrees := materialization.worktrees.filter fun worktree =>
    worktree.repositoryId ≠ repositoryId
  { materialization with
    worktrees := worktrees
    effectDigest :=
      "sha256:" ++ Sha256.hexEncode (Sha256.sha256 (env.removalJson workspaceId repositoryId worktrees))
    graph := graphSummary }

/-- The checks of the removal before the evidence is read. -/
def prepareRepositoryRemoval (state : ServiceState) (repositoryId : String) :
    Except LocalWtsError PreparedRepositoryRemoval := do
  let materialization ← receipt env workspaceId state
  if materialization.worktrees.length ≤ 1 then throw .repositoryRemovalBlocked
  else
    match materialization.worktrees.find? fun worktree => worktree.repositoryId = repositoryId with
    | none => throw .repositoryNotFound
    | some worktree =>
      let catalog ← env.catalog
      match catalog.repositories.find? fun repository => repository.id = repositoryId with
      | none => throw .repositoryNotFound
      | some source =>
        let request : WorktreeRemovalRequest :=
          { sourceRepository := .ofText source.displayPath
            workspaceRoot := materialization.workspaceDisplayPath
            targetPath := worktree.targetDisplayPath
            repositoryId := repositoryId
            branchName := worktree.branchName }
        match inspectWorktreeRemoval env state request with
        | .error _ => throw .repositoryRemovalFailed
        | .ok inspection =>
          if inspection.hasChanges || inspection.hasIgnoredFiles || !inspection.present then
            throw .repositoryRemovalBlocked
          else
            return {
              worktree := worktree
              request := request
              materialization :=
                removedMaterialization env workspaceId materialization repositoryId }

/-- What the removal does up to the registry. A failure of the files or of the registry restores the
files only: the worktree is gone. -/
def persistRemoval (prepared : PreparedRepositoryRemoval) (repositoryId : String) :
    Proc ServiceState LocalWtsError Unit := do
  match ← attempt (prepareChange env workspaceId prepared.materialization
      (List.filter fun repository => repository.repositoryId ≠ repositoryId)) with
  | .error _ => fail .repositoryRemovalFailed
  | .ok changed =>
    match ← attempt (removeWorktree env prepared.request) with
    | .error _ => fail .repositoryRemovalFailed
    | .ok () =>
      match ← attempt (persistChange env changed fun tables =>
          Store.removeRepository env.store env.call workspaceId repositoryId tables) with
      | .error _ => do
        note (restoreChange changed)
        fail .repositoryRemovalFailed
      | .ok () => return ()

def removeWorkspaceRepository (repositoryId : String) :
    Proc ServiceState LocalWtsError WorkspaceRepositoryRemovalResult := do
  let repositoryId := trim repositoryId
  if repositoryId = "" ∨ repositoryId.utf8ByteSize > maxRepositoryIdBytes then
    fail .repositoryNotFound
  else
    ofExcept env.idle
    let prepared ← ofExcept (prepareRepositoryRemoval env workspaceId (← read) repositoryId)
    persistRemoval env workspaceId prepared repositoryId
    let _ ← attempt (δ := LocalWtsError) (publishReviewInbox env)
    let refreshed ← recordGraph env prepared.materialization false
    let current ← ofExcept (validated env workspaceId (← read))
    return {
      workspaceId := workspaceId
      repositoryId := repositoryId
      repositoryLabel := prepared.worktree.label
      graphRefreshed := refreshed
      materialization := current }

end Calls

end Wts.RepositorySet
