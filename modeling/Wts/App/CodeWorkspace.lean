/-
Module: Wts.App.CodeWorkspace
Purpose: The import of a VS Code workspace file: its folders are read from the document, matched with the
  repositories of the local catalog, and reported with warnings and diagnostics.
Trusted boundary: json5, whose parser is given; Unicode lower case, which is given
-/
import Wts.Core.Workspace
import Wts.Library.Words

namespace Wts.CodeWorkspace

open Text Workspace

def maxContentBytes : ℕ := 48 * 1024
def maxFileNameBytes : ℕ := 255
def maxFolders : ℕ := 32
def maxFolderNameChars : ℕ := 255
def maxPathBytes : ℕ := 4096
def maxDiagnosticCandidates : ℕ := 8
def maxDiagnosticCatalogRepositories : ℕ := 16
def codeWorkspaceSuffix : String := ".code-workspace"
def unsupportedUriPlaceholder : String := "<unsupported-uri>"

/-- `serde_json::Value`, with the numbers that a parser gives. -/
inductive Value (ν : Type) where
  | null
  | bool (value : Bool)
  | number (value : ν)
  | string (value : String)
  | array (items : List (Value ν))
  | object (fields : List (String × Value ν))

variable {ν : Type}

def get (key : String) (fields : List (String × Value ν)) : Option (Value ν) :=
  fields.lookup key

def containsKey (key : String) (fields : List (String × Value ν)) : Bool :=
  (get key fields).isSome

structure RepositoryCheckoutAlias where
  checkoutLeaf : String
  displayPath : String

structure RepositorySummary where
  id : String
  label : String
  checkoutLeaf : String
  displayPath : String
  checkoutAliases : List RepositoryCheckoutAlias
  defaultBranch : String

structure RepositoryCatalog where
  repositoryRootDisplayPath : String
  repositories : List RepositorySummary
  skippedEntries : ℕ

/-! ### Requests and results -/

structure ImportRequest where
  fileName : String
  contents : String
  importId : Option Uuid

inductive ImportError where
  | invalid
  | tooLarge

inductive FolderStatus where
  | matched
  | missing
  | ambiguous
  | unsupported

structure FolderImport where
  name : String
  rawPath : String
  status : FolderStatus
  repositoryId : Option String
  repositoryLabel : Option String
  repositoryDisplayPath : Option String
  baseRef : Option String
  message : Option String

inductive ImportWarningCode where
  | configurationIgnored
  | folderMissing
  | folderAmbiguous
  | folderUnsupported
  | duplicateRepository

structure ImportWarning where
  code : ImportWarningCode
  message : String
  folderName : Option String

inductive ResolutionBasis where
  | absolutePath
  | relativePathSuffix
  | pathBasename
  | explicitName

inductive ResolutionReason where
  | matchedExactPath
  | matchedRelativePathSuffix
  | matchedPathBasename
  | matchedExplicitName
  | noCatalogMatch
  | ambiguousExactPath
  | ambiguousRelativePathSuffix
  | ambiguousPathBasename
  | ambiguousExplicitName
  | unsupportedFolder

structure MatchAttempt where
  basis : ResolutionBasis
  value : String
  candidateCount : ℕ

structure MatchCandidate where
  label : String
  displayPath : String

structure FolderDiagnostics where
  folderIndex : ℕ
  status : FolderStatus
  reason : ResolutionReason
  resolutionBasis : Option ResolutionBasis
  attempts : List MatchAttempt
  candidates : List MatchCandidate
  candidatesTruncated : Bool
  duplicateRepository : Bool

structure CatalogDiagnostics where
  repositoryRootDisplayPath : String
  repositoryCount : ℕ
  skippedEntries : ℕ
  repositories : List MatchCandidate
  repositoriesTruncated : Bool

structure ImportDiagnostics where
  catalog : CatalogDiagnostics
  folders : List FolderDiagnostics

structure ImportResult where
  importId : Uuid
  fileName : String
  suggestedTitle : String
  suggestedRepositorySetLabel : String
  folders : List FolderImport
  repositories : List WorkspaceRepositoryRequest
  warnings : List ImportWarning
  diagnostics : Option ImportDiagnostics

def truncateChars (value : String) (maximum : ℕ) : String :=
  String.ofList (value.toList.take maximum)

/-- A count as a `u32`. -/
def boundedCount (count : ℕ) : ℕ :=
  min count (2 ^ 32 - 1)

def toAsciiLowercase (value : String) : String :=
  String.ofList (value.toList.map Char.toLower)

def eqIgnoreAsciiCase (first second : String) : Bool :=
  toAsciiLowercase first = toAsciiLowercase second

def isSeparator (c : Char) : Bool :=
  c = '/' || c = '\\'

/-- The parts of a path between its separators that are not empty. -/
def pathComponents (path : String) : List String :=
  (Words.words isSeparator path.toList).map String.ofList

def isSchemeCharacter (c : Char) : Bool :=
  isAsciiAlphanumeric c || c = '+' || c = '-' || c = '.'

def validScheme (scheme : String) : Bool :=
  match scheme.toList with
  | [] => false
  | first :: rest => first.isAlpha && rest.all isSchemeCharacter

def isUriShapedPath (path : String) : Bool :=
  match splitOnce ':' (String.ofList (path.toList.dropWhile isWhitespace)) with
  | none => false
  | some (scheme, remainder) =>
    validScheme scheme &&
      !(scheme.utf8ByteSize = 1 && (remainder.toList.head?.any isSeparator))

def validateFolderName (name : String) : Option String :=
  let name := trim name
  if name = "" ∨ maxFolderNameChars < name.length ∨ name.toList.any isControl then none
  else some name

def validatePathLength (path : String) : Except ImportError String :=
  if maxPathBytes < path.utf8ByteSize then .error .invalid else .ok path

def validateFileName (value : String) : Except ImportError String :=
  let fileName := trim value
  if fileName = "" ∨ maxFileNameBytes < fileName.utf8ByteSize ∨ fileName.toList.any isSeparator ∨
      fileName.toList.any isControl ∨ !endsWith codeWorkspaceSuffix (toAsciiLowercase fileName) then
    .error .invalid
  else
    .ok fileName

/-- The file name without its suffix. -/
def suggestedTitle (fileName : String) : Except ImportError String :=
  let title := trim (truncateChars fileName (fileName.length - codeWorkspaceSuffix.length))
  if title = "" then .error .invalid else .ok title

def isAbsoluteWorkspacePath (path : String) : Bool :=
  startsWith "/" path || startsWith "\\\\" path || startsWith "//" path ||
    match path.toList with
    | drive :: ':' :: separator :: _ => drive.isAlpha && isSeparator separator
    | _ => false

def workspaceBasename (path : String) : Option String :=
  let basename := String.ofList
    ((path.toList.rdropWhile isSeparator).rtakeWhile fun c => !isSeparator c)
  if basename = "" ∨ basename = "." ∨ basename = ".." then none else some basename

def boundedFolderName (name : String) : String :=
  truncateChars name maxFolderNameChars

inductive ParsedFolderKind where
  | path
  | unsupported (message : String)

structure ParsedFolder where
  name : String
  explicitName : Option String
  rawPath : String
  kind : ParsedFolderKind

def unsupportedFolder (name rawPath message : String) : ParsedFolder where
  name := name
  explicitName := none
  rawPath := rawPath
  kind := .unsupported message

/-- The name of a folder that has none. -/
def folderNumber (index : ℕ) : String :=
  "Folder " ++ decimal (index + 1)

def parsedPathFolder (name : Option String) (path : String) (index : ℕ) :
    Except ImportError ParsedFolder := do
  let path ← validatePathLength path
  if isUriShapedPath path then
    .ok (unsupportedFolder
      ((name.filter fun name => !isUriShapedPath name).getD (folderNumber index))
      unsupportedUriPlaceholder "URI-based VS Code workspace folders are not supported.")
  else
    let fallbackName :=
      (name <|> (workspaceBasename path).map boundedFolderName).getD (folderNumber index)
    if trim path = "" ∨ path.toList.any isControl then
      .ok (unsupportedFolder fallbackName path
        "This workspace folder path is empty or contains control characters.")
    else
      .ok { name := fallbackName, explicitName := name, rawPath := path, kind := .path }

def rawPathFromObject (fields : List (String × Value ν)) : Except ImportError String :=
  match get "path" fields, get "uri" fields with
  | some (.string value), _ => do
    let value ← validatePathLength value
    .ok (if isUriShapedPath value then unsupportedUriPlaceholder else value)
  | _, some (.string value) => do
    let _ ← validatePathLength value
    .ok unsupportedUriPlaceholder
  | _, _ => .ok (if containsKey "uri" fields then unsupportedUriPlaceholder else "")

/-- The display name: `some none` if there is none that may be shown, `none` if it is invalid. -/
def folderName (fields : List (String × Value ν)) : Option (Option String) :=
  match get "name" fields with
  | some (.string name) =>
    (validateFolderName name).map fun name => if isUriShapedPath name then none else some name
  | some _ => none
  | none => some none

def parseFolderObject (fields : List (String × Value ν)) (index : ℕ) :
    Except ImportError ParsedFolder :=
  match folderName fields with
  | none => do
    let rawPath ← rawPathFromObject fields
    .ok (unsupportedFolder (folderNumber index) rawPath
      "This workspace folder has an invalid display name.")
  | some name =>
    match get "path" fields with
    | some (.string path) => parsedPathFolder name path index
    | some _ =>
      .ok (unsupportedFolder (name.getD (folderNumber index)) ""
        "This workspace folder path is not a string.")
    | none => do
      let containsUri := containsKey "uri" fields
      let rawPath ← rawPathFromObject fields
      let shown := name.filter fun name => !containsUri || !isUriShapedPath name
      let fromPath :=
        if containsUri then none else (workspaceBasename rawPath).map boundedFolderName
      .ok (unsupportedFolder ((shown <|> fromPath).getD (folderNumber index)) rawPath
        (if containsUri then "URI-based VS Code workspace folders are not supported."
        else "This workspace folder does not contain a path."))

def parseFolder (value : Value ν) (index : ℕ) : Except ImportError ParsedFolder :=
  match value with
  | .string path => parsedPathFolder none path index
  | .object fields => parseFolderObject fields index
  | _ => .ok (unsupportedFolder (folderNumber index) ""
      "This workspace folder entry is not a supported path.")

section Matching

variable (lowercase : String → String)

def labelCandidates (candidate : String) (catalog : RepositoryCatalog) : List RepositorySummary :=
  catalog.repositories.filter fun repository => lowercase repository.label = lowercase candidate

def isDotComponent (component : String) : Bool :=
  component = "." || component = ".."

/-- The loop of `relative_path_suffix_components`: leading dots are dropped, later ones refused. -/
def suffixComponents (sawNormal : Bool) (components : List String) :
    List String → Option (List String)
  | [] => some components
  | component :: rest =>
    if isDotComponent component then
      if sawNormal then none else suffixComponents sawNormal components rest
    else
      suffixComponents true (components ++ [component]) rest

def isDrivePath (path : String) : Bool :=
  match path.toList with
  | drive :: ':' :: _ => drive.isAlpha
  | _ => false

def relativePathSuffixComponents (path : String) : Option (List String) :=
  if isAbsoluteWorkspacePath path || startsWith "/" path || startsWith "\\" path ||
      isDrivePath path then
    none
  else
    (suffixComponents false [] (pathComponents path)).filter fun components => 2 ≤ components.length

def trustedPathEndsWithComponents (path : String) (candidate : List String) : Bool :=
  let trusted := pathComponents path
  if trusted.length < candidate.length ∨ trusted.any isDotComponent then
    false
  else
    ((trusted.drop (trusted.length - candidate.length)).zip candidate).all fun pair =>
      eqIgnoreAsciiCase pair.1 pair.2

/-- The repositories that end with the components; of one id only the first. -/
def suffixCandidates (candidate : List String) (repositoryIds : Finset String) :
    List RepositorySummary → List RepositorySummary
  | [] => []
  | repository :: rest =>
    if (trustedPathEndsWithComponents repository.displayPath candidate ||
          repository.checkoutAliases.any fun checkout =>
            trustedPathEndsWithComponents checkout.displayPath candidate) &&
        repository.id ∉ repositoryIds then
      repository :: suffixCandidates candidate (insert repository.id repositoryIds) rest
    else
      suffixCandidates candidate repositoryIds rest

def relativePathSuffixCandidates (candidate : List String) (catalog : RepositoryCatalog) :
    List RepositorySummary :=
  suffixCandidates candidate ∅ catalog.repositories

def pathBasenameCandidates (candidate : String) (catalog : RepositoryCatalog) :
    List RepositorySummary :=
  catalog.repositories.filter fun repository =>
    lowercase repository.label = lowercase candidate ||
      lowercase repository.checkoutLeaf = lowercase candidate ||
      repository.checkoutAliases.any fun checkout =>
        lowercase checkout.checkoutLeaf = lowercase candidate

def repositoryMatchesExactPath (repository : RepositorySummary) (candidate : String) : Bool :=
  repository.displayPath = candidate ||
    repository.checkoutAliases.any fun checkout => checkout.displayPath = candidate

def exactPathCandidates (candidate : String) (catalog : RepositoryCatalog) :
    List RepositorySummary :=
  catalog.repositories.filter fun repository => repositoryMatchesExactPath repository candidate

inductive RepositoryMatch where
  | matched (repository : RepositorySummary)
  | missing
  | ambiguous

structure RepositoryResolution where
  outcome : RepositoryMatch
  reason : ResolutionReason
  resolutionBasis : Option ResolutionBasis
  attempts : List MatchAttempt
  candidates : List MatchCandidate
  candidatesTruncated : Bool

def repositoryCandidate (repository : RepositorySummary) : MatchCandidate where
  label := repository.label
  displayPath := repository.displayPath

def matchAttempt (basis : ResolutionBasis) (value : String) (candidateCount : ℕ) : MatchAttempt where
  basis := basis
  value := value
  candidateCount := boundedCount candidateCount

def resolution (outcome : RepositoryMatch) (reason : ResolutionReason)
    (resolutionBasis : Option ResolutionBasis) (attempts : List MatchAttempt)
    (allCandidates : List RepositorySummary) : RepositoryResolution where
  outcome := outcome
  reason := reason
  resolutionBasis := resolutionBasis
  attempts := attempts
  candidates := (allCandidates.take maxDiagnosticCandidates).map repositoryCandidate
  candidatesTruncated := maxDiagnosticCandidates < allCandidates.length

/-- One kind of evidence: what is looked for, the repositories that have it, and the reasons. -/
structure Tier where
  basis : ResolutionBasis
  value : String
  candidates : List RepositorySummary
  matchedReason : ResolutionReason
  ambiguousReason : ResolutionReason

def absolutePathTier (rawPath : String) (catalog : RepositoryCatalog) : Option Tier :=
  if isAbsoluteWorkspacePath rawPath then
    some {
      basis := .absolutePath
      value := rawPath
      candidates := exactPathCandidates rawPath catalog
      matchedReason := .matchedExactPath
      ambiguousReason := .ambiguousExactPath }
  else
    none

def relativePathSuffixTier (rawPath : String) (catalog : RepositoryCatalog) : Option Tier :=
  (relativePathSuffixComponents rawPath).map fun components => {
    basis := .relativePathSuffix
    value := "/".intercalate components
    candidates := relativePathSuffixCandidates components catalog
    matchedReason := .matchedRelativePathSuffix
    ambiguousReason := .ambiguousRelativePathSuffix }

def pathBasenameTier (rawPath : String) (catalog : RepositoryCatalog) : Option Tier :=
  (workspaceBasename rawPath).map fun basename => {
    basis := .pathBasename
    value := basename
    candidates := pathBasenameCandidates lowercase basename catalog
    matchedReason := .matchedPathBasename
    ambiguousReason := .ambiguousPathBasename }

def explicitNameTier (explicitName : Option String) (catalog : RepositoryCatalog) : Option Tier :=
  explicitName.map fun name => {
    basis := .explicitName
    value := name
    candidates := labelCandidates lowercase name catalog
    matchedReason := .matchedExplicitName
    ambiguousReason := .ambiguousExplicitName }

/-- The tiers in their order: the first one with candidates decides. -/
def resolveTiers : List Tier → List MatchAttempt → RepositoryResolution
  | [], attempts => resolution .missing .noCatalogMatch none attempts []
  | tier :: rest, attempts =>
    let attempts := attempts ++ [matchAttempt tier.basis tier.value tier.candidates.length]
    match tier.candidates with
    | [repository] =>
      resolution (.matched repository) tier.matchedReason (some tier.basis) attempts
        tier.candidates
    | _ :: _ =>
      resolution .ambiguous tier.ambiguousReason (some tier.basis) attempts tier.candidates
    | [] => resolveTiers rest attempts

def matchRepository (rawPath : String) (explicitName : Option String) (catalog : RepositoryCatalog) :
    RepositoryResolution :=
  resolveTiers
    ((absolutePathTier rawPath catalog).toList ++ (relativePathSuffixTier rawPath catalog).toList ++
      (pathBasenameTier lowercase rawPath catalog).toList ++
      (explicitNameTier lowercase explicitName catalog).toList) []

/-- What the loop over the folders has collected. -/
structure ImportState where
  folders : List FolderImport
  folderDiagnostics : List FolderDiagnostics
  repositories : List WorkspaceRepositoryRequest
  selectedRepositoryIds : Finset String
  warnings : List ImportWarning

def ImportState.empty (warnings : List ImportWarning) : ImportState where
  folders := []
  folderDiagnostics := []
  repositories := []
  selectedRepositoryIds := ∅
  warnings := warnings

def folderWarning (code : ImportWarningCode) (folderName message : String) : ImportWarning where
  code := code
  message := message
  folderName := some folderName

def unmatchedFolder (name rawPath : String) (status : FolderStatus) (message : String) :
    FolderImport where
  name := name
  rawPath := rawPath
  status := status
  repositoryId := none
  repositoryLabel := none
  repositoryDisplayPath := none
  baseRef := none
  message := some message

/-- A folder that no repository is taken for. -/
def ImportState.unmatched (state : ImportState) (folder : ParsedFolder) (status : FolderStatus)
    (code : ImportWarningCode) (message : String) (diagnostics : FolderDiagnostics) : ImportState :=
  { state with
    folders := state.folders ++ [unmatchedFolder folder.name folder.rawPath status message]
    folderDiagnostics := state.folderDiagnostics ++ [diagnostics]
    warnings := state.warnings ++ [folderWarning code folder.name message] }

def duplicateMessage : String :=
  "This repository was already selected by another workspace folder."

def ImportState.matched (state : ImportState) (folder : ParsedFolder)
    (repository : RepositorySummary) (diagnostics : Bool → FolderDiagnostics) : ImportState :=
  let duplicate : Bool := repository.id ∈ state.selectedRepositoryIds
  { folders := state.folders ++ [{
      name := folder.name
      rawPath := folder.rawPath
      status := .matched
      repositoryId := some repository.id
      repositoryLabel := some repository.label
      repositoryDisplayPath := some repository.displayPath
      baseRef := some repository.defaultBranch
      message := if duplicate then some duplicateMessage else none }]
    folderDiagnostics := state.folderDiagnostics ++ [diagnostics duplicate]
    repositories :=
      if duplicate then state.repositories
      else state.repositories ++ [{
        repositoryId := some repository.id
        label := repository.label
        baseRef := repository.defaultBranch }]
    selectedRepositoryIds := insert repository.id state.selectedRepositoryIds
    warnings :=
      if duplicate then
        state.warnings ++ [folderWarning .duplicateRepository folder.name duplicateMessage]
      else state.warnings }

def RepositoryResolution.diagnostics (resolution : RepositoryResolution) (index : ℕ)
    (status : FolderStatus) (duplicate : Bool) : FolderDiagnostics where
  folderIndex := boundedCount index
  status := status
  reason := resolution.reason
  resolutionBasis := resolution.resolutionBasis
  attempts := resolution.attempts
  candidates := resolution.candidates
  candidatesTruncated := resolution.candidatesTruncated
  duplicateRepository := duplicate

def unsupportedDiagnostics (index : ℕ) : FolderDiagnostics where
  folderIndex := boundedCount index
  status := .unsupported
  reason := .unsupportedFolder
  resolutionBasis := none
  attempts := []
  candidates := []
  candidatesTruncated := false
  duplicateRepository := false

/-- One round of the loop, with the folder as it was read. -/
def importFolder (catalog : RepositoryCatalog) (index : ℕ) (folder : ParsedFolder)
    (state : ImportState) : ImportState :=
  match folder.kind with
  | .unsupported message =>
    state.unmatched folder .unsupported .folderUnsupported message (unsupportedDiagnostics index)
  | .path =>
    let found := matchRepository lowercase folder.rawPath folder.explicitName catalog
    match found.outcome with
    | .matched repository => state.matched folder repository (found.diagnostics index .matched)
    | .missing =>
      state.unmatched folder .missing .folderMissing
        "No repository in the local catalog matches this workspace folder."
        (found.diagnostics index .missing false)
    | .ambiguous =>
      state.unmatched folder .ambiguous .folderAmbiguous
        "More than one catalog repository matches this workspace folder."
        (found.diagnostics index .ambiguous false)

def importFolders (catalog : RepositoryCatalog) :
    ℕ → List (Value ν) → ImportState → Except ImportError ImportState
  | _, [], state => .ok state
  | index, value :: rest, state => do
    let folder ← parseFolder value index
    importFolders catalog (index + 1) rest (importFolder lowercase catalog index folder state)

def catalogDiagnostics (catalog : RepositoryCatalog) : CatalogDiagnostics where
  repositoryRootDisplayPath := catalog.repositoryRootDisplayPath
  repositoryCount := boundedCount catalog.repositories.length
  skippedEntries := catalog.skippedEntries
  repositories :=
    (catalog.repositories.take maxDiagnosticCatalogRepositories).map repositoryCandidate
  repositoriesTruncated :=
    (catalog.repositories.take maxDiagnosticCatalogRepositories).length < catalog.repositories.length

def configurationWarnings (fields : List (String × Value ν)) : List ImportWarning :=
  if fields.any fun field => field.1 ≠ "folders" then
    [{ code := .configurationIgnored
       message := "VS Code configuration is not copied into the new WTS workspace."
       folderName := none }]
  else
    []

/-- The folders of a document. -/
def rawFolders : Value ν → Option (List (String × Value ν) × List (Value ν))
  | .object fields =>
    match get "folders" fields with
    | some (.array folders) => some (fields, folders)
    | _ => none
  | _ => none

def ImportRequest.ensureImportId (request : ImportRequest) (fresh : Uuid) : Uuid :=
  request.importId.getD fresh

/-- The contents without a byte order mark. -/
def ImportRequest.text (request : ImportRequest) : String :=
  (stripPrefix "\uFEFF" request.contents).getD request.contents

/-- `import_code_workspace`; `debug` is `cfg!(debug_assertions)`. -/
def importCodeWorkspace (parse : String → Option (Value ν)) (debug : Bool) (fresh : Uuid)
    (request : ImportRequest) (catalog : RepositoryCatalog) : Except ImportError ImportResult := do
  let fileName ← validateFileName request.fileName
  if maxContentBytes < request.contents.utf8ByteSize then
    .error .tooLarge
  else
    match (parse request.text).bind rawFolders with
    | none => .error .invalid
    | some (fields, folders) =>
      if maxFolders < folders.length then
        .error .invalid
      else do
        let title ← suggestedTitle fileName
        let state ← importFolders lowercase catalog 0 folders
          (ImportState.empty (configurationWarnings fields))
        .ok {
          importId := request.ensureImportId fresh
          fileName := fileName
          suggestedTitle := title
          suggestedRepositorySetLabel :=
            truncateChars ("VS Code · " ++ title) maxRepositorySetLabelChars
          folders := state.folders
          repositories := state.repositories
          warnings := state.warnings
          diagnostics :=
            if debug then
              some { catalog := catalogDiagnostics catalog, folders := state.folderDiagnostics }
            else
              none }

end Matching

end Wts.CodeWorkspace
