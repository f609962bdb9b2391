/-
Module: Wts.Proofs.CodeWorkspaceImport
Purpose: What an import tells about the document.
Trusted boundary: none
Main exports: import_discloses_folders
-/
import Wts.App.CodeWorkspace

namespace Wts.CodeWorkspace

variable {ν : Type}

/-- Two strings that are within the length limit of paths. -/
def WithinLimit (first second : String) : Prop :=
  first.utf8ByteSize ≤ maxPathBytes ∧ second.utf8ByteSize ≤ maxPathBytes

/-- A folder name that looks like a URI. -/
def UriShapedName (name : String) : Prop :=
  ∃ valid, validateFolderName name = some valid ∧ isUriShapedPath valid = true

/-- Two paths that look like URIs and fit into a reason. -/
def UriShapedPaths (first second : String) : Prop :=
  isUriShapedPath first = true ∧ isUriShapedPath second = true ∧ WithinLimit first second

/-- Two texts of one field of a folder that the import hides. -/
def Hidden (key first second : String) : Prop :=
  key = "uri" ∧ WithinLimit first second ∨ key = "path" ∧ UriShapedPaths first second ∨
    key = "name" ∧ UriShapedName first ∧ UriShapedName second

/-- Two values of one field of a folder: they are equal, or both are strings that are hidden. -/
inductive SameField (key : String) : Value ν → Value ν → Prop
  | same (value : Value ν) : SameField key value value
  | hidden {first second : String} (hidden : Hidden key first second) :
      SameField key (.string first) (.string second)

/-- Two entries of the list of folders. -/
inductive SameFolder : Value ν → Value ν → Prop
  | same (value : Value ν) : SameFolder value value
  | path {first second : String} (shaped : UriShapedPaths first second) :
      SameFolder (.string first) (.string second)
  | fields {first second : List (String × Value ν)}
      (fields : ∀ key, Option.Rel (SameField key) (get key first) (get key second)) :
      SameFolder (.object first) (.object second)

/-- Two documents with the same keys, and lists of folders that differ in what is hidden. -/
inductive SameDocument : Value ν → Value ν → Prop
  | same (value : Value ν) : SameDocument value value
  | folders {first second : List (String × Value ν)} {firstFolders secondFolders : List (Value ν)}
      (keys : first.map Prod.fst = second.map Prod.fst)
      (isFirst : get "folders" first = some (.array firstFolders))
      (isSecond : get "folders" second = some (.array secondFolders))
      (folders : List.Forall₂ SameFolder firstFolders secondFolders) :
      SameDocument (.object first) (.object second)
  | other {first second : List (String × Value ν)}
      (keys : first.map Prod.fst = second.map Prod.fst)
      (same : get "folders" first = get "folders" second) :
      SameDocument (.object first) (.object second)

theorem validatePathLength_ok {path : String} (within : path.utf8ByteSize ≤ maxPathBytes) :
    validatePathLength path = .ok path := by
  rw [validatePathLength, if_neg (Nat.not_lt.2 within)]

theorem parsedPathFolder_congr {first second : String} (shaped : UriShapedPaths first second)
    (name : Option String) (index : ℕ) :
    parsedPathFolder name first index = parsedPathFolder name second index := by
  obtain ⟨isFirst, isSecond, firstWithin, secondWithin⟩ := shaped
  rw [parsedPathFolder, parsedPathFolder, validatePathLength_ok firstWithin,
    validatePathLength_ok secondWithin]
  simp only [bind, Except.bind, isFirst, isSecond, if_true]

section Fields

variable {first second : List (String × Value ν)}
  (fields : ∀ key, Option.Rel (SameField key) (get key first) (get key second))

include fields

theorem containsKey_congr (key : String) : containsKey key first = containsKey key second := by
  have values := fields key
  rw [containsKey, containsKey]
  generalize get key first = firstValue at values
  generalize get key second = secondValue at values
  cases values <;> rfl

theorem folderName_congr : folderName first = folderName second := by
  have names := fields "name"
  rw [folderName, folderName]
  generalize get "name" first = firstName at names
  generalize get "name" second = secondName at names
  cases names with
  | none => rfl
  | some field =>
    cases field with
    | same value => rfl
    | hidden hidden =>
      obtain ⟨⟨_, validFirst, shapedFirst⟩, _, validSecond, shapedSecond⟩ :
        UriShapedName _ ∧ UriShapedName _ := by simpa [Hidden] using hidden
      simp only [validFirst, validSecond, Option.map_some, shapedFirst, shapedSecond, if_true]

theorem rawPathFromObject_congr : rawPathFromObject first = rawPathFromObject second := by
  have contains := containsKey_congr fields "uri"
  have paths := fields "path"
  have uris := fields "uri"
  rw [rawPathFromObject, rawPathFromObject, contains]
  generalize get "path" first = firstPath at paths
  generalize get "path" second = secondPath at paths
  generalize get "uri" first = firstUri at uris
  generalize get "uri" second = secondUri at uris
  cases paths with
  | none =>
    cases uris with
    | none => rfl
    | some field =>
      cases field with
      | same value => rfl
      | hidden hidden =>
        obtain ⟨isFirst, isSecond⟩ : WithinLimit _ _ := by simpa [Hidden] using hidden
        simp only [validatePathLength_ok isFirst, validatePathLength_ok isSecond]
        rfl
  | some field =>
    cases field with
    | hidden hidden =>
      obtain ⟨isFirst, isSecond, firstWithin, secondWithin⟩ : UriShapedPaths _ _ := by
        simpa [Hidden] using hidden
      simp only [validatePathLength_ok firstWithin, validatePathLength_ok secondWithin, bind,
        Except.bind, isFirst, isSecond, if_true]
    | same =>
      rename_i path
      cases uris with
      | none => rfl
      | some field =>
        cases field with
        | same value => rfl
        | hidden hidden =>
          obtain ⟨isFirst, isSecond⟩ : WithinLimit _ _ := by simpa [Hidden] using hidden
          -- the URI is looked at only if the path is not a string
          cases path with
          | string text => rfl
          | _ =>
            simp only [validatePathLength_ok isFirst, validatePathLength_ok isSecond]
            rfl

theorem parseFolderObject_congr (index : ℕ) :
    parseFolderObject first index = parseFolderObject second index := by
  have paths := fields "path"
  rw [parseFolderObject, parseFolderObject, folderName_congr fields, rawPathFromObject_congr fields,
    containsKey_congr fields]
  generalize get "path" first = firstPath at paths
  generalize get "path" second = secondPath at paths
  cases paths with
  | none => rfl
  | some field =>
    cases field with
    | same value => rfl
    | hidden hidden =>
      simp only [parsedPathFolder_congr (show UriShapedPaths .. by simpa [Hidden] using hidden)]

end Fields

theorem parseFolder_congr {first second : Value ν} (same : SameFolder first second) (index : ℕ) :
    parseFolder first index = parseFolder second index := by
  cases same with
  | same value => rfl
  | path shaped => exact parsedPathFolder_congr shaped none index
  | fields fields => exact parseFolderObject_congr fields index

/-! ### The import -/

section Import

variable (lowercase : String → String) (catalog : RepositoryCatalog)

theorem importFolders_congr {first second : List (Value ν)}
    (folders : List.Forall₂ SameFolder first second) (index : ℕ) (state : ImportState) :
    importFolders lowercase catalog index first state =
      importFolders lowercase catalog index second state := by
  induction folders generalizing index state with
  | nil => rfl
  | cons same _ ih =>
    rw [importFolders, importFolders, parseFolder_congr same]
    exact congrArg _ (funext fun folder => ih (index + 1) _)

theorem configurationWarnings_congr {first second : List (String × Value ν)}
    (keys : first.map Prod.fst = second.map Prod.fst) :
    configurationWarnings first = configurationWarnings second := by
  have byKeys : ∀ fields : List (String × Value ν),
      (fields.any fun field => field.1 ≠ "folders") =
        (fields.map Prod.fst).any fun key => key ≠ "folders" := by
    intro fields
    rw [List.any_map]
    rfl
  rw [configurationWarnings, configurationWarnings, byKeys, byKeys, keys]

def importDocument (debug : Bool) (importId : Uuid) (fileName : String) (document : Value ν) :
    Except ImportError ImportResult :=
  match rawFolders document with
  | none => .error .invalid
  | some (fields, folders) =>
    if maxFolders < folders.length then
      .error .invalid
    else do
      let title ← suggestedTitle fileName
      let state ← importFolders lowercase catalog 0 folders
        (ImportState.empty (configurationWarnings fields))
      .ok {
        importId := importId
        fileName := fileName
        suggestedTitle := title
        suggestedRepositorySetLabel :=
          truncateChars ("VS Code · " ++ title) Workspace.maxRepositorySetLabelChars
        folders := state.folders
        repositories := state.repositories
        warnings := state.warnings
        diagnostics :=
          if debug then
            some { catalog := catalogDiagnostics catalog, folders := state.folderDiagnostics }
          else
            none }

theorem importDocument_congr {first second : Value ν} (same : SameDocument first second)
    (debug : Bool) (importId : Uuid) (fileName : String) :
    importDocument lowercase catalog debug importId fileName first =
      importDocument lowercase catalog debug importId fileName second := by
  cases same with
  | same value => rfl
  | folders keys isFirst isSecond folders =>
    rw [importDocument, importDocument, rawFolders, rawFolders, isFirst, isSecond]
    simp only [folders.length_eq, configurationWarnings_congr keys,
      importFolders_congr lowercase catalog folders]
  | @other first second keys same =>
    rw [importDocument, importDocument, rawFolders, rawFolders, same]
    cases get "folders" second with
    | none => rfl
    | some value =>
      cases value with
      | array folders => simp only [configurationWarnings_congr keys]
      | _ => rfl

theorem importCodeWorkspace_eq {parse : String → Option (Value ν)} {debug : Bool} {fresh : Uuid}
    {request : ImportRequest} {document : Value ν} (parsed : parse request.text = some document)
    (within : request.contents.utf8ByteSize ≤ maxContentBytes) :
    importCodeWorkspace lowercase parse debug fresh request catalog =
      validateFileName request.fileName >>= fun fileName =>
        importDocument lowercase catalog debug (request.ensureImportId fresh) fileName document := by
  rw [importCodeWorkspace]
  simp only [if_neg (Nat.not_lt.2 within), parsed, Option.bind_some]
  rfl

/-- Two imports whose documents differ in what is hidden have the same outcome. -/
theorem import_discloses_folders (parse : String → Option (Value ν)) (debug : Bool)
    (firstFresh secondFresh : Uuid) (first second : ImportRequest) (firstDocument secondDocument : Value ν)
    (sameId : first.ensureImportId firstFresh = second.ensureImportId secondFresh)
    (sameName : first.fileName = second.fileName)
    (firstParses : parse first.text = some firstDocument)
    (secondParses : parse second.text = some secondDocument)
    (firstWithin : first.contents.utf8ByteSize ≤ maxContentBytes)
    (secondWithin : second.contents.utf8ByteSize ≤ maxContentBytes)
    (same : SameDocument firstDocument secondDocument) :
    importCodeWorkspace lowercase parse debug firstFresh first catalog =
      importCodeWorkspace lowercase parse debug secondFresh second catalog := by
  rw [importCodeWorkspace_eq lowercase catalog firstParses firstWithin,
    importCodeWorkspace_eq lowercase catalog secondParses secondWithin, sameId, sameName]
  exact congrArg _ (funext fun fileName => importDocument_congr lowercase catalog same debug _ fileName)

end Import

def sampleText (uri : String) : String :=
  "\x7bfolders: [\x7buri: \"" ++ uri ++ "\"\x7d]\x7d"

def sampleDocument (uri : String) : Value ℕ :=
  .object [("folders", .array [.object [("uri", .string uri)]])]

def sampleRequest (uri : String) : ImportRequest where
  fileName := "remote.code-workspace"
  contents := sampleText uri
  importId := some 1

def sampleParse (text : String) : Option (Value ℕ) :=
  if text = sampleText "ssh://one" then some (sampleDocument "ssh://one")
  else if text = sampleText "ssh://two" then some (sampleDocument "ssh://two")
  else none

theorem sampleDocument_same : SameDocument (sampleDocument "ssh://one") (sampleDocument "ssh://two") := by
  refine .folders rfl rfl rfl (.cons (.fields fun key => ?_) .nil)
  by_cases isUri : key = "uri"
  · rw [isUri]
    exact .some (.hidden (Or.inl ⟨rfl, by decide, by decide⟩))
  have absent : ∀ value : Value ℕ, get key [("uri", value)] = none := by
    intro value
    rw [get, List.lookup, beq_false_of_ne isUri]
    rfl
  rw [absent, absent]
  exact .none

def sampleCatalog : RepositoryCatalog where
  repositoryRootDisplayPath := "/repos"
  repositories := []
  skippedEntries := 0

/-- The address of a remote folder makes no difference. -/
theorem import_discloses_folders_sample :
    importCodeWorkspace id sampleParse true 0 (sampleRequest "ssh://one") sampleCatalog =
      importCodeWorkspace id sampleParse true 0 (sampleRequest "ssh://two") sampleCatalog := by
  have firstText : (sampleRequest "ssh://one").text = sampleText "ssh://one" := by decide +kernel
  have secondText : (sampleRequest "ssh://two").text = sampleText "ssh://two" := by decide +kernel
  refine import_discloses_folders id _ sampleParse true 0 0 (sampleRequest "ssh://one")
    (sampleRequest "ssh://two") _ _ rfl rfl ?_ ?_ (by decide +kernel) (by decide +kernel)
    sampleDocument_same
  · rw [firstText]
    rfl
  · rw [secondText]
    rfl

end Wts.CodeWorkspace
