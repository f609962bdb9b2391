/-
Module: Wts.Core.Workspace
Purpose: The requests of the workspace store and their canonical form.
-/
import Wts.Library.StdTypes
import Wts.Library.Text

namespace Wts.Workspace

open Text
open Std (ExtTreeMap)

/-! ### Requests -/

def maxWorkspaceTitleChars : ℕ := 240
def maxRepositoriesPerWorkspace : ℕ := 32
def maxRepositoryLabelChars : ℕ := 128
def maxBaseRefChars : ℕ := 255
def maxRepositorySetLabelChars : ℕ := 120
def maxOpenprojectDisplayIdChars : ℕ := 80
def maxRuntimeServices : ℕ := 32
def maxRuntimePortsPerService : ℕ := 8
def maxRuntimeIdentifierChars : ℕ := 160

inductive WorkspaceIntent where
  | jira (issueKey : String)
  | openProject (workPackageId : UInt64) (displayId : String)
  | repositorySet (label : String)
deriving DecidableEq

inductive WorkspaceProvider where
  | codex
  | openCode
  | hermes
  | vsCode
  | copilot
deriving DecidableEq

inductive WorkspacePhase where
  | draft

inductive WorkspaceWorkflowState where
  | ready
  | active
  | review
  | parked
deriving DecidableEq

inductive WorkspaceMaterializationState where
  | unknown
  | notMaterialized
  | materialized
  | needsAttention
deriving DecidableEq

structure TransitionWorkspaceWorkflowRequest where
  state : WorkspaceWorkflowState
  expectedRevision : ℕ

structure PlaceWorkspaceOnBoardRequest where
  state : WorkspaceWorkflowState
  expectedRevision : ℕ
  beforeWorkspaceId : Option Uuid
  afterWorkspaceId : Option Uuid

structure FollowWorkspaceAgentRequest where
  expectedRevision : ℕ

structure WorkspaceRepositoryRequest where
  repositoryId : Option String
  label : String
  baseRef : String
deriving DecidableEq

inductive RuntimePortPolicy where
  | prefer
  | fixed
deriving DecidableEq

structure RuntimePortSelection where
  portId : String
  preferredPort : UInt16
  policy : RuntimePortPolicy
deriving DecidableEq

structure RuntimeServiceSelection where
  candidateId : String
  ports : List RuntimePortSelection
deriving DecidableEq

structure RuntimePlanSelection where
  analysisDigest : String
  services : List RuntimeServiceSelection
deriving DecidableEq

inductive WorkspacePlanningFolder where
  | plans
  | plansAndKanban
deriving DecidableEq

inductive WorkspacePlanningFormat where
  | notes
  | kanban
deriving DecidableEq

structure WorkspacePlanningSelection where
  folder : WorkspacePlanningFolder
  format : WorkspacePlanningFormat
deriving DecidableEq

structure CreateWorkspaceRequest where
  intent : WorkspaceIntent
  title : String
  preferredProvider : WorkspaceProvider
  repositories : List WorkspaceRepositoryRequest
  runtime : Option RuntimePlanSelection
  planning : Option WorkspacePlanningSelection
deriving DecidableEq

structure RenameWorkspaceRequest where
  title : String

inductive WorkspaceValidationError where
  | missingTitle
  | titleTooLong
  | invalidTitle
  | invalidIssueKey
  | invalidOpenProjectWorkPackage
  | missingRepositorySetLabel
  | repositorySetLabelTooLong
  | invalidRepositorySetLabel
  | emptyRepositories
  | tooManyRepositories
  | missingRepositoryLabel (index : ℕ)
  | repositoryLabelTooLong (index : ℕ)
  | invalidRepositoryLabel (index : ℕ)
  | invalidRepositoryId (repository : String)
  | invalidBaseRef (repository : String)
  | duplicateRepository (repository : String)
  | duplicateRepositoryId (repository : String)
  | invalidRuntimeAnalysisDigest
  | emptyRuntimeServices
  | tooManyRuntimeServices
  | invalidRuntimeCandidateId (index : ℕ)
  | duplicateRuntimeCandidateId (candidateId : String)
  | tooManyRuntimePorts (candidateId : String)
  | invalidRuntimePortId (candidateId : String) (index : ℕ)
  | duplicateRuntimePortId (candidateId portId : String)
  | invalidRuntimePort (candidateId portId : String)
deriving DecidableEq

def hasControlOrPathSeparator (value : String) : Bool :=
  value.toList.any fun c => isControl c || c = '/' || c = '\\'

def invalidRepositorySetLabel (value : String) : Bool :=
  (value.toList.any fun c => isControl c || c = '\\') ||
    (split '/' value).any fun segment =>
      let trimmed := trim segment
      trimmed = "" || trimmed = "." || trimmed = ".."

def isAsciiUppercase (c : Char) : Bool :=
  'A' ≤ c && c ≤ 'Z'

/-- A project of 2 to 16 capital letters and digits that starts with a letter, a dash, and a number
of at most 10 digits without a leading zero. -/
def validIssueKey (issueKey : String) : Bool :=
  match splitOnce '-' issueKey with
  | none => false
  | some (project, number) =>
    let project := project.toList
    let number := number.toList
    2 ≤ project.length && project.length ≤ 16 && project.head?.any isAsciiUppercase &&
      project.all (fun c => isAsciiUppercase c || c.isDigit) &&
      1 ≤ number.length && number.length ≤ 10 && number.head? ≠ some '0' &&
      number.all Char.isDigit

def isLowerHexDigit (c : Char) : Bool :=
  c.isDigit || ('a' ≤ c && c ≤ 'f')

/-- The text is the prefix and 64 lower-case hexadecimal digits. -/
def hasDigest (start : String) (value : String) : Bool :=
  match stripPrefix start value with
  | none => false
  | some digest => digest.toList.length = 64 && digest.toList.all isLowerHexDigit

def validRepositoryId (value : String) : Bool :=
  hasDigest "repo_" value

def validAnalysisDigest (value : String) : Bool :=
  hasDigest "sha256:" value

def validRuntimeIdentifier (value : String) : Bool :=
  value ≠ "" && value.toList.length ≤ maxRuntimeIdentifierChars &&
    value.toList.all fun c =>
      isAsciiAlphanumeric c || c = '.' || c = '_' || c = ':' || c = '-'

def validBaseRef (baseRef : String) : Bool :=
  !(baseRef = "" || maxBaseRefChars < baseRef.toList.length || startsWith "-" baseRef ||
    startsWith "/" baseRef || endsWith "/" baseRef || endsWith "." baseRef ||
    endsWith ".lock" baseRef || containsText ".." baseRef || containsText "@\x7b" baseRef ||
    containsText "//" baseRef) &&
  !(baseRef.toList.any fun c =>
    isControl c || isWhitespace c || c = '~' || c = '^' || c = ':' || c = '?' || c = '*' ||
      c = '[' || c = '\\')

def normalizeWorkspaceTitle (title : String) : Except WorkspaceValidationError String :=
  let title := trim title
  if title = "" then
    .error .missingTitle
  else if title.toList.length > maxWorkspaceTitleChars then
    .error .titleTooLong
  else if title.toList.any isControl then
    .error .invalidTitle
  else
    .ok title

def RenameWorkspaceRequest.normalize (request : RenameWorkspaceRequest) :
    Except WorkspaceValidationError RenameWorkspaceRequest :=
  match normalizeWorkspaceTitle request.title with
  | .error error => .error error
  | .ok title => .ok { title := title }

def normalizeIntent : WorkspaceIntent → Except WorkspaceValidationError WorkspaceIntent
  | .jira issueKey =>
    let issueKey := toAsciiUppercase (trim issueKey)
    if ¬ validIssueKey issueKey then
      .error .invalidIssueKey
    else
      .ok (.jira issueKey)
  | .openProject workPackageId displayId =>
    let displayId := trim displayId
    if workPackageId = 0 ∨ displayId = "" ∨
        displayId.toList.length > maxOpenprojectDisplayIdChars ∨
        hasControlOrPathSeparator displayId then
      .error .invalidOpenProjectWorkPackage
    else
      .ok (.openProject workPackageId displayId)
  | .repositorySet label =>
    let label := trim label
    if label = "" then
      .error .missingRepositorySetLabel
    else if label.toList.length > maxRepositorySetLabelChars then
      .error .repositorySetLabelTooLong
    else if invalidRepositorySetLabel label then
      .error .invalidRepositorySetLabel
    else
      .ok (.repositorySet label)

def checkPorts (candidateId : String) :
    List RuntimePortSelection → ℕ → List String → Except WorkspaceValidationError Unit
  | [], _, _ => .ok ()
  | port :: rest, index, portIds =>
    if ¬ validRuntimeIdentifier port.portId then
      .error (.invalidRuntimePortId candidateId index)
    else if port.portId ∈ portIds then
      .error (.duplicateRuntimePortId candidateId port.portId)
    else if port.preferredPort < 1024 then
      .error (.invalidRuntimePort candidateId port.portId)
    else
      checkPorts candidateId rest (index + 1) (port.portId :: portIds)

def sortPorts (ports : List RuntimePortSelection) : List RuntimePortSelection :=
  ports.insertionSort fun left right => left.portId ≤ right.portId

/-- The loop over the services: each is checked and its ports are sorted. -/
def normalizeServices :
    List RuntimeServiceSelection → ℕ → List String →
      Except WorkspaceValidationError (List RuntimeServiceSelection)
  | [], _, _ => .ok []
  | service :: rest, index, candidateIds =>
    if ¬ validRuntimeIdentifier service.candidateId then
      .error (.invalidRuntimeCandidateId index)
    else if service.candidateId ∈ candidateIds then
      .error (.duplicateRuntimeCandidateId service.candidateId)
    else if service.ports.length > maxRuntimePortsPerService then
      .error (.tooManyRuntimePorts service.candidateId)
    else
      match checkPorts service.candidateId service.ports 0 [] with
      | .error error => .error error
      | .ok () =>
        match normalizeServices rest (index + 1) (service.candidateId :: candidateIds) with
        | .error error => .error error
        | .ok services => .ok ({ service with ports := sortPorts service.ports } :: services)

def sortServices (services : List RuntimeServiceSelection) : List RuntimeServiceSelection :=
  services.insertionSort fun left right => left.candidateId ≤ right.candidateId

def normalizeRuntime (runtime : RuntimePlanSelection) :
    Except WorkspaceValidationError RuntimePlanSelection :=
  if ¬ validAnalysisDigest runtime.analysisDigest then
    .error .invalidRuntimeAnalysisDigest
  else if runtime.services = [] then
    .error .emptyRuntimeServices
  else if runtime.services.length > maxRuntimeServices then
    .error .tooManyRuntimeServices
  else
    match normalizeServices runtime.services 0 [] with
    | .error error => .error error
    | .ok services => .ok { runtime with services := sortServices services }

def normalizeOptionalRuntime :
    Option RuntimePlanSelection → Except WorkspaceValidationError (Option RuntimePlanSelection)
  | none => .ok none
  | some runtime =>
    match normalizeRuntime runtime with
    | .error error => .error error
    | .ok runtime => .ok (some runtime)

section Repositories

variable (toLowercase : String → String)

/-- The loop over the repositories: texts are trimmed and checked, identifiers must be distinct, and
repositories may share a label only when each of them has an identifier. -/
def normalizeRepositories :
    List WorkspaceRepositoryRequest → ℕ → ExtTreeMap String Bool → List String →
      Except WorkspaceValidationError (List WorkspaceRepositoryRequest)
  | [], _, _, _ => .ok []
  | repository :: rest, index, labels, repositoryIds =>
    let label := trim repository.label
    if label = "" then
      .error (.missingRepositoryLabel index)
    else if label.toList.length > maxRepositoryLabelChars then
      .error (.repositoryLabelTooLong index)
    else if hasControlOrPathSeparator label then
      .error (.invalidRepositoryLabel index)
    else if repository.repositoryId.any fun id => !validRepositoryId id then
      .error (.invalidRepositoryId label)
    else if repository.repositoryId.any fun id => id ∈ repositoryIds then
      .error (.duplicateRepositoryId label)
    else
      let baseRef := trim repository.baseRef
      if ¬ validBaseRef baseRef then
        .error (.invalidBaseRef label)
      else
        let canonicalLabel := toLowercase label
        let pinned := repository.repositoryId.isSome
        if (labels[canonicalLabel]?).any fun previousPinned => !previousPinned || !pinned then
          .error (.duplicateRepository label)
        else
          match normalizeRepositories rest (index + 1) (labels.insert canonicalLabel pinned)
              (repository.repositoryId.toList ++ repositoryIds) with
          | .error error => .error error
          | .ok repositories =>
            .ok ({ repository with label := label, baseRef := baseRef } :: repositories)

/-- The sort key of a repository: its lower-case label, then its identifier, then its base. -/
def repositoryKey (repositoryId : Option String) (label baseRef : String) :
    String ×ₗ (WithBot String ×ₗ String) :=
  toLex (toLowercase label, toLex (repositoryId, baseRef))

def sortRepositories (repositories : List WorkspaceRepositoryRequest) :
    List WorkspaceRepositoryRequest :=
  repositories.insertionSort fun left right =>
    repositoryKey toLowercase left.repositoryId left.label left.baseRef ≤
      repositoryKey toLowercase right.repositoryId right.label right.baseRef

def CreateWorkspaceRequest.normalize (request : CreateWorkspaceRequest) :
    Except WorkspaceValidationError CreateWorkspaceRequest :=
  match normalizeWorkspaceTitle request.title with
  | .error error => .error error
  | .ok title =>
  match normalizeIntent request.intent with
  | .error error => .error error
  | .ok intent =>
  match normalizeOptionalRuntime request.runtime with
  | .error error => .error error
  | .ok runtime =>
  if request.repositories = [] then
    .error .emptyRepositories
  else if request.repositories.length > maxRepositoriesPerWorkspace then
    .error .tooManyRepositories
  else
    match normalizeRepositories toLowercase request.repositories 0 ∅ [] with
    | .error error => .error error
    | .ok repositories =>
      .ok
        { request with
          title := title
          intent := intent
          runtime := runtime
          repositories := sortRepositories toLowercase repositories }

end Repositories

end Wts.Workspace
