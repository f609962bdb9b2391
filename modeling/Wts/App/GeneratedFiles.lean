/-
Module: Wts.App.GeneratedFiles
Purpose: The files and directories that one setup attempt writes.
-/
import Wts.Library.FileTree
import Wts.Library.Interrupt
import Wts.Library.Text
import Wts.Library.UuidText

namespace Wts.Setup

open FileTree Interrupt Text
open Interrupt.Proc

/-- The workspace root: whether its path is its own canonical path, and what is there. -/
structure Disk where
  rootCanonical : Bool
  tree : Option Node

inductive IoError where
  | other (message : String)
  | os
deriving DecidableEq

abbrev DiskM (α : Type) := Proc Disk IoError α

/-- An error with a message, unless the condition holds. -/
def require {σ : Type} (condition : Prop) [Decidable condition] (message : String) :
    Proc σ IoError Unit :=
  if condition then Proc.pure () else fail (.other message)

/-- An answer of the system, or its failure. -/
def ask {α : Type} (question : Disk → α) : DiskM α := do
  let answered ← tryChange id
  let disk ← read
  if answered then return question disk else fail .os

/-- What is at a path below the root. -/
def Disk.stat (disk : Disk) (path : PathBuf) : Option Metadata :=
  FileTree.stat path.components disk.tree

/-- `fs::symlink_metadata`, where nothing found is an answer. -/
def symlinkMetadata (path : PathBuf) : DiskM (Option Metadata) :=
  ask fun disk => disk.stat path

/-- `fs::symlink_metadata(..)?`. -/
def existing (path : PathBuf) : DiskM Metadata := do
  match ← symlinkMetadata path with
  | some metadata => return metadata
  | none => fail .os

/-- `path.canonicalize()? == path`: nothing below the root is looked up through a symbolic link. -/
def isCanonical (path : PathBuf) : DiskM Bool := do
  match ← ask fun disk => (disk.rootCanonical, disk.stat path) with
  | (_, none) => fail .os
  | (rootCanonical, some metadata) => return rootCanonical && metadata.kind ≠ .symlink

/-- Open and read a file. -/
def readToEnd (path : PathBuf) : DiskM (List UInt8) := do
  match ← ask fun disk => (lookup path.components disk.tree).bind Node.contents with
  | some bytes => return bytes
  | none => fail .os

def removal (path : PathBuf) (disk : Disk) : Disk :=
  { disk with tree := erase path.components disk.tree }

def removeFile (path : PathBuf) : DiskM Unit := do
  match lookup path.components (← read).tree with
  | none => fail .os
  | some (.directory _ _) => fail .os
  | some _ => change .os (removal path)

def removeDir (path : PathBuf) : DiskM Unit := do
  match lookup path.components (← read).tree with
  | none => fail .os
  | some node =>
    if node.isEmptyDirectory then
      change .os (removal path)
    else
      fail .os

def sameFile (left right : Metadata) : Bool :=
  left.device = right.device && left.inode = right.inode

def sameMode (left right : Metadata) : Bool :=
  left.mode = right.mode

/-- `Component::Normal`. -/
def isNormal (component : String) : Bool :=
  component ≠ ".." && component ≠ "."

/-- The path has plain components only, and at least one. -/
def isPlain (path : PathBuf) : Bool :=
  !path.absolute && path.components ≠ [] && path.components.all isNormal

def parent (path : PathBuf) : Option PathBuf :=
  if path.components = [] then none
  else some { path with components := path.components.dropLast }

def empty : PathBuf where
  absolute := false
  components := []

/-- Whether a program succeeds. -/
def succeeds (program : DiskM Unit) : DiskM Bool := do
  let result ← attempt program
  return result.isOk

/-- Every step is made; whether each succeeded. -/
def forAll {α : Type} (step : α → DiskM Bool) : List α → DiskM Bool
  | [] => return true
  | item :: rest => do
    let first ← step item
    let others ← forAll step rest
    return first && others

/-! ### Snapshots -/

structure SavedIdentity where
  identity : String
  mode : UInt32
deriving DecidableEq

structure SavedDirectory where
  path : PathBuf
  identity : SavedIdentity
  owned : Bool

structure SavedFile where
  path : PathBuf
  temporaryPath : PathBuf
  identity : SavedIdentity
  size : ℕ
  sha256 : String

structure GeneratedFilesSnapshot where
  schemaVersion : ℕ
  root : PathBuf
  rootIdentity : SavedIdentity
  directories : List SavedDirectory
  files : List SavedFile
  intents : List PathBuf

structure GeneratedFilesInspection where
  removableFiles : List PathBuf
  removableDirectories : List PathBuf
  preservedPaths : List PathBuf
  missingPaths : List PathBuf

inductive SavedPathState where
  | remove
  | preserve
  | missing
  | reuse
deriving DecidableEq

def SavedIdentity.fromMetadata (metadata : Metadata) : SavedIdentity where
  identity := "unix:" ++ decimal metadata.device.toNat ++ ":" ++ decimal metadata.inode.toNat
  mode := metadata.mode

def parsesAsU64 (text : String) : Bool :=
  let digits := if startsWith "+" text then text.toList.drop 1 else text.toList
  digits ≠ [] && digits.all Char.isDigit &&
    digits.foldl (fun value c => value * 10 + (c.toNat - 48)) 0 < 2 ^ 64

def SavedIdentity.available (identity : SavedIdentity) : Bool :=
  match split ':' identity.identity with
  | [origin, device, inode] =>
    (origin = "unix" || origin = "created") && parsesAsU64 device && parsesAsU64 inode
  | _ => false

namespace GeneratedFilesSnapshot

variable (snapshot : GeneratedFilesSnapshot)

def knownPaths : List PathBuf :=
  snapshot.directories.map SavedDirectory.path ++
    snapshot.files.flatMap (fun file => [file.path, file.temporaryPath]) ++ snapshot.intents

def stripSuffix (ending text : String) : Option String :=
  if endsWith ending text then
    some (String.ofList (text.toList.take (text.toList.length - ending.toList.length)))
  else
    none

def isTemporaryName (name : String) : Bool :=
  match (stripPrefix ".wts-setup-" name).bind (stripSuffix ".tmp") with
  | some id => (parseUuid id).isSome
  | none => false

def isLowercaseHex (c : Char) : Bool :=
  c.isDigit || 'a' ≤ c && c ≤ 'f'

def validFile (file : SavedFile) : Bool :=
  file.identity.available && file.size ≤ 64 * 1024 * 1024 && file.sha256.utf8ByteSize = 64 &&
    file.sha256.toList.all isLowercaseHex && parent file.path = parent file.temporaryPath &&
    file.temporaryPath.components.getLast?.any isTemporaryName

def validPath (path : PathBuf) : Bool :=
  isPlain path && path.display.utf8ByteSize ≤ 4096

def isValid : Bool :=
  snapshot.schemaVersion = 1 && snapshot.root.absolute && snapshot.rootIdentity.available &&
    snapshot.directories.all (fun directory => directory.identity.available) &&
    snapshot.root.display.utf8ByteSize ≤ 4096 && snapshot.knownPaths.length ≤ 1024 &&
    snapshot.knownPaths.all validPath && snapshot.knownPaths.Nodup && snapshot.files.all validFile

def validate : Except IoError Unit :=
  if snapshot.isValid then .ok () else .error (.other "The saved setup file record is invalid.")

def rootExists : DiskM Bool := do
  match ← symlinkMetadata empty with
  | none => return false
  | some metadata =>
    require (metadata.kind = .directory ∧
      SavedIdentity.fromMetadata metadata = snapshot.rootIdentity) "The workspace path changed."
    let canonical ← isCanonical empty
    require canonical "The workspace path changed."
    return true

/-- The directories above a path, from the top: whether all are there. -/
def checkParents (above : List String) : List String → DiskM Bool
  | [] => return true
  | name :: rest => do
    let directory : PathBuf := { absolute := false, components := above ++ [name] }
    match snapshot.directories.find? fun entry => entry.path = directory with
    | none => fail (.other "The saved setup parent is unavailable.")
    | some recorded =>
      match ← symlinkMetadata directory with
      | none => return false
      | some metadata =>
        require (metadata.kind = .directory ∧
          SavedIdentity.fromMetadata metadata = recorded.identity)
          "The generated directory changed."
        let canonical ← isCanonical directory
        require canonical "The generated directory changed."
        checkParents (above ++ [name]) rest

/-- `checked_path`: whether the path can be looked up, which it cannot below a missing directory. -/
def checkedPath (relative : PathBuf) : DiskM Bool := do
  if ← snapshot.rootExists then
    snapshot.checkParents [] relative.components.dropLast
  else
    return false

/-- The metadata of an entry is that of the recorded file. -/
def isRecorded (recorded : SavedFile) (metadata : Metadata) : Bool :=
  SavedIdentity.fromMetadata metadata = recorded.identity && metadata.length = recorded.size

/-- The part of `file_state` that opens the file. -/
def openedState (relative : PathBuf) (recorded : SavedFile) : DiskM SavedPathState := do
  let opened ← existing relative
  if isRecorded recorded opened then
    let bytes ← readToEnd relative
    let after ← existing relative
    if (bytes.take (recorded.size + 1)).length = recorded.size ∧
        Sha256.hexEncode (Sha256.sha256 (bytes.take (recorded.size + 1))) = recorded.sha256 ∧
        after.kind = .file ∧ SavedIdentity.fromMetadata after = recorded.identity then
      let reached ← snapshot.checkedPath relative
      return if reached then .remove else .preserve
    else
      return .preserve
  else
    return .preserve

def fileState (relative : PathBuf) (recorded : SavedFile) : DiskM SavedPathState := do
  if ← snapshot.checkedPath relative then
    match ← symlinkMetadata relative with
    | none => return .missing
    | some metadata =>
      if metadata.kind = .file ∧ isRecorded recorded metadata then
        snapshot.openedState relative recorded
      else
        return .preserve
  else
    return .missing

def directoryState (recorded : SavedDirectory) : DiskM SavedPathState := do
  if ← snapshot.checkedPath recorded.path then
    match ← symlinkMetadata recorded.path with
    | none => return .missing
    | some metadata =>
      if metadata.kind = .directory ∧
          SavedIdentity.fromMetadata metadata = recorded.identity then
        return if recorded.owned then .remove else .reuse
      else
        return .preserve
  else
    return .missing

/-- The path of an intent is not there. A failure to look is not an answer. -/
def intentMissing (intent : PathBuf) : DiskM Bool := do
  match ← attempt (snapshot.checkedPath intent) with
  | .ok false => return true
  | .ok true =>
    match ← attempt (symlinkMetadata intent) with
    | .ok none => return true
    | _ => return false
  | .error _ => return false

def orPreserve (state : Except IoError SavedPathState) : SavedPathState :=
  match state with
  | .ok state => state
  | .error _ => .preserve

def inspectFile (file : SavedFile) (result : GeneratedFilesInspection) (path : PathBuf) :
    DiskM GeneratedFilesInspection := do
  let state ← attempt (snapshot.fileState path file)
  match orPreserve state with
  | .remove => return { result with removableFiles := result.removableFiles ++ [path] }
  | .missing => return { result with missingPaths := result.missingPaths ++ [path] }
  | _ => return { result with preservedPaths := result.preservedPaths ++ [path] }

def inspectDirectory (result : GeneratedFilesInspection) (directory : SavedDirectory) :
    DiskM GeneratedFilesInspection := do
  let state ← attempt (snapshot.directoryState directory)
  match orPreserve state with
  | .remove =>
    return { result with removableDirectories := result.removableDirectories ++ [directory.path] }
  | .missing => return { result with missingPaths := result.missingPaths ++ [directory.path] }
  | .preserve => return { result with preservedPaths := result.preservedPaths ++ [directory.path] }
  | .reuse => return result

def inspectIntent (result : GeneratedFilesInspection) (intent : PathBuf) :
    DiskM GeneratedFilesInspection := do
  if ← snapshot.intentMissing intent then
    return { result with missingPaths := result.missingPaths ++ [intent] }
  else
    return { result with preservedPaths := result.preservedPaths ++ [intent] }

def inspect : DiskM GeneratedFilesInspection := do
  ofExcept snapshot.validate
  if ← snapshot.rootExists then
    let files ← snapshot.files.foldlM
      (fun result file => [file.path, file.temporaryPath].foldlM (snapshot.inspectFile file) result)
      { removableFiles := [], removableDirectories := [], preservedPaths := [], missingPaths := [] }
    let directories ← snapshot.directories.foldlM snapshot.inspectDirectory files
    snapshot.intents.foldlM snapshot.inspectIntent directories
  else
    return {
      removableFiles := []
      removableDirectories := []
      preservedPaths := []
      missingPaths := snapshot.knownPaths }

/-- An entry is removed with a checked path. -/
def removeAt (remove : PathBuf → DiskM Unit) (relative : PathBuf) : DiskM Unit := do
  if ← snapshot.checkedPath relative then remove relative else return ()

/-- One name of a file; whether it is gone. -/
def rollbackFile (file : SavedFile) (relative : PathBuf) : DiskM Bool := do
  match ← attempt (snapshot.fileState relative file) with
  | .ok .missing => return true
  | .ok .remove => succeeds (snapshot.removeAt removeFile relative)
  | _ => return false

def rollbackDirectory (directory : SavedDirectory) : DiskM Bool := do
  match ← attempt (snapshot.directoryState directory) with
  | .ok .missing => return true
  | .ok .reuse => return true
  | .ok .remove => succeeds (snapshot.removeAt removeDir directory.path)
  | _ => return false

def deepestFirst : List SavedDirectory :=
  snapshot.directories.insertionSort fun left right =>
    right.path.components.length ≤ left.path.components.length

def rollback : DiskM Bool := do
  ofExcept snapshot.validate
  if ← snapshot.rootExists then
    let files ← forAll (fun file => forAll (snapshot.rollbackFile file) [file.path, file.temporaryPath])
      snapshot.files.reverse
    let directories ← forAll snapshot.rollbackDirectory snapshot.deepestFirst
    let inspection ← snapshot.inspect
    return files && directories && inspection.preservedPaths.isEmpty
  else
    return true

end GeneratedFilesSnapshot

/-! ### Sessions -/

structure RecordedDirectory where
  path : PathBuf
  metadata : Metadata
  owned : Bool

structure CreatedFile where
  path : PathBuf
  metadata : Metadata
  bytes : List UInt8

structure GeneratedFiles where
  root : PathBuf
  rootMetadata : Metadata
  directories : List RecordedDirectory
  files : List CreatedFile
  cleanupIncomplete : Bool
  snapshot : GeneratedFilesSnapshot

/-- The disk, the session, and what is known of the run: the snapshots that the observer was given and
the last one it accepted, the paths that the session created, those of them that it did not remove
again, and those that it did not record yet. -/
structure Host where
  disk : Disk
  session : GeneratedFiles
  offered : List GeneratedFilesSnapshot
  saved : Option GeneratedFilesSnapshot
  created : List PathBuf
  owned : List PathBuf
  unrecorded : List PathBuf

abbrev HostM (α : Type) := Proc Host IoError α

def onDisk {α : Type} (program : DiskM α) : HostM α :=
  zoom Host.disk (fun disk host => { host with disk := disk }) program

def modifySession (change : GeneratedFiles → GeneratedFiles) : HostM Unit :=
  note fun host => { host with session := change host.session }

def modifySnapshot (change : GeneratedFilesSnapshot → GeneratedFilesSnapshot) : HostM Unit :=
  modifySession fun session => { session with snapshot := change session.snapshot }

/-- What the system chooses for the entries that a call creates. -/
structure CallEnv where
  directory : Header
  file : Header
  temporaryId : Uuid

def newSnapshot (root : PathBuf) (rootMetadata : Metadata) : GeneratedFilesSnapshot where
  schemaVersion := 1
  root := root
  rootIdentity := .fromMetadata rootMetadata
  directories := []
  files := []
  intents := []

/-- The snapshot is checked, and then given to the observer, which saves it. -/
def observe : HostM Unit := do
  let snapshot := (← read).session.snapshot
  ofExcept snapshot.validate
  note fun host => { host with offered := host.offered ++ [snapshot] }
  change .os fun host => { host with saved := some snapshot }

def newObserved (root : PathBuf) : HostM Unit := do
  let metadata ← onDisk (existing empty)
  require (metadata.kind = .directory) "The workspace path changed."
  let canonical ← onDisk (isCanonical empty)
  require canonical "The workspace path changed."
  modifySession fun _ =>
    { root := root
      rootMetadata := metadata
      directories := []
      files := []
      cleanupIncomplete := false
      snapshot := newSnapshot root metadata }
  observe

/-- The directories recorded above a path are as they were recorded. -/
def checkRecorded (above : PathBuf) : List RecordedDirectory → DiskM Unit
  | [] => return ()
  | recorded :: rest =>
    if above.startsWith recorded.path then do
      let current ← existing recorded.path
      require (sameFile current recorded.metadata ∧ current.kind = .directory)
        "The generated directory changed."
      checkRecorded above rest
    else
      checkRecorded above rest

/-- The directory of a path. -/
def directoryOf (path : PathBuf) : PathBuf :=
  { path with components := path.components.dropLast }

variable (session : GeneratedFiles)

def GeneratedFiles.checkedPath (relative : PathBuf) : DiskM Unit := do
  require (isPlain relative) "The generated path is invalid."
  let currentRoot ← existing empty
  require (sameFile currentRoot session.rootMetadata ∧ currentRoot.kind = .directory)
    "The workspace path changed."
  let rootCanonical ← isCanonical empty
  require rootCanonical "The workspace path changed."
  let canonical ← isCanonical (directoryOf relative)
  require canonical "The generated file parent changed."
  checkRecorded (directoryOf relative) session.directories

def checkedPath (relative : PathBuf) : HostM Unit := do
  let host ← read
  onDisk (host.session.checkedPath relative)

/-- A directory is recorded in the session and in its snapshot. -/
def GeneratedFiles.addDirectory (path : PathBuf) (metadata : Metadata)
    (owned : Bool) (intents : List PathBuf) : GeneratedFiles :=
  { session with
    snapshot :=
      { session.snapshot with
        directories := session.snapshot.directories ++
          [{ path := path, identity := .fromMetadata metadata, owned := owned }]
        intents := intents }
    directories := session.directories ++ [{ path := path, metadata := metadata, owned := owned }] }

/-- A directory that the session found is recorded as one that it does not own. -/
def recordParent (path : PathBuf) : HostM Unit := do
  let host ← read
  if host.session.directories.any fun entry => entry.path = path then
    return ()
  else
    checkedPath path
    let metadata ← onDisk (existing path)
    require (metadata.kind = .directory) "The generated directory changed."
    let canonical ← onDisk (isCanonical path)
    require canonical "The generated directory changed."
    modifySession fun session =>
      session.addDirectory path metadata false session.snapshot.intents
    observe

def recordParentsFrom (above : List String) : List String → HostM Unit
  | [] => return ()
  | name :: rest => do
    require (isNormal name) "The generated path is invalid."
    recordParent { absolute := false, components := above ++ [name] }
    recordParentsFrom (above ++ [name]) rest

def recordParents (relative : PathBuf) : HostM Unit :=
  match parent relative with
  | none => fail (.other "The generated path has no parent.")
  | some above =>
    if above.absolute then
      fail (.other "The generated path is invalid.")
    else
      recordParentsFrom [] above.components

/-- An entry that the session creates. It is not recorded until the session has seen its metadata. -/
def creation (path : PathBuf) (node : Node) (host : Host) : Host :=
  { host with
    disk := { host.disk with tree := put path.components node host.disk.tree }
    created := host.created ++ [path]
    owned := host.owned ++ [path]
    unrecorded := host.unrecorded ++ [path] }

def recorded (path : PathBuf) : HostM Unit :=
  note fun host => { host with unrecorded := host.unrecorded.filter (· ≠ path) }

/-- The parent of a path is a directory. -/
def Disk.hasParent (disk : Disk) (path : PathBuf) : Bool :=
  (FileTree.stat path.components.dropLast disk.tree).any fun metadata => metadata.kind = .directory

variable (env : CallEnv)

/-- `fs::create_dir`: whether the directory is new. -/
def createDir (path : PathBuf) : HostM Bool := do
  let host ← read
  if (host.disk.stat path).isSome then
    onDisk (ask fun _ => false)
  else if host.disk.hasParent path then
    change .os (creation path (.directory env.directory []))
    return true
  else
    fail .os

/-- The part of `create_directory` for a path that is not recorded yet. -/
def createUnrecorded (relative : PathBuf) : HostM Unit := do
  -- An unconfirmed path is preserved if the host stops before its identity is saved.
  modifySnapshot fun snapshot => { snapshot with intents := snapshot.intents ++ [relative] }
  observe
  checkedPath relative
  let owned ← createDir env relative
  let metadata ← onDisk (existing relative)
  require (metadata.kind = .directory) "The generated directory is unavailable."
  let canonical ← onDisk (isCanonical relative)
  require canonical "The generated directory is unavailable."
  modifySession fun session =>
    session.addDirectory relative metadata owned
      (session.snapshot.intents.filter (· ≠ relative))
  recorded relative
  observe

def createDirectory (relative : PathBuf) : HostM Unit := do
  recordParents relative
  checkedPath relative
  let host ← read
  match host.session.directories.find? fun entry => entry.path = relative with
  | some entry =>
    let metadata ← onDisk (existing relative)
    require (sameFile metadata entry.metadata ∧ metadata.kind = .directory)
      "The generated directory changed."
  | none => createUnrecorded env relative

def temporaryPath (relative : PathBuf) : PathBuf :=
  { relative with
    components := relative.components.dropLast ++
      [".wts-setup-" ++ String.ofList (hexDigits 32 env.temporaryId.val) ++ ".tmp"] }

/-- `OpenOptions::create_new`. -/
def openNew (path : PathBuf) : HostM Unit := do
  let host ← read
  if (host.disk.stat path).isNone ∧ host.disk.hasParent path then
    change .os (creation path (.file env.file []))
  else
    fail .os

/-- The bytes of the file at a path. -/
def written (path : PathBuf) (bytes : List UInt8) (host : Host) : Host :=
  match lookup path.components host.disk.tree with
  | some (.file header _) =>
    { host with
      disk := { host.disk with tree := put path.components (.file header bytes) host.disk.tree } }
  | _ => host

def verifyNamedFile (path : PathBuf) (recorded : Metadata) : DiskM Unit := do
  let current ← existing path
  require (current.kind = .file ∧ sameFile current recorded ∧ sameMode current recorded ∧
    current.length = recorded.length) "The generated file changed."

def hardLink (original link : PathBuf) : HostM Unit := do
  let host ← read
  match lookup original.components host.disk.tree with
  | some (.file header bytes) =>
    if (host.disk.stat link).isNone ∧ host.disk.hasParent link then
      change .os (creation link (.file header bytes))
    else
      fail .os
  | _ => fail .os

/-- The state of a name of the file that is being written. -/
def ownState (relative : PathBuf) (expected : SavedFile) : HostM SavedPathState := do
  let host ← read
  onDisk (host.session.snapshot.fileState relative expected)

/-- The bytes are written, the identity of the file is saved, and the file gets its name. -/
def publish (relative temporary : PathBuf) (expected : SavedFile) (bytes : List UInt8) :
    HostM Unit := do
  change .os (written temporary bytes)
  onDisk (ask fun _ => ())
  checkedPath relative
  let metadata ← onDisk (existing temporary)
  checkedPath relative
  onDisk (verifyNamedFile temporary metadata)
  modifySnapshot fun snapshot =>
    { snapshot with
      files := snapshot.files ++ [expected]
      intents := snapshot.intents.filter (· ≠ temporary) }
  -- This identity covers both names before the hard link can publish the file.
  observe
  checkedPath relative
  onDisk (verifyNamedFile temporary metadata)
  let unchanged ← ownState temporary expected
  require (unchanged = .remove) "The generated temporary file changed."
  -- A hard link publishes complete bytes without replacing an existing path.
  hardLink temporary relative
  modifySession fun session =>
    { session with
      files := session.files ++ [{ path := relative, metadata := metadata, bytes := bytes }] }
  recorded relative
  checkedPath relative
  onDisk (verifyNamedFile relative metadata)
  onDisk (verifyNamedFile temporary metadata)
  let published ← ownState relative expected
  require (published = .remove) "The generated file changed."

/-- The session does not own the path any more. -/
def released (path : PathBuf) : HostM Unit :=
  note fun host => { host with owned := host.owned.filter (· ≠ path) }

def removeTemporary (relative temporary : PathBuf) (expected : SavedFile) : HostM Unit := do
  checkedPath relative
  match ← ownState temporary expected with
  | .missing => released temporary
  | .remove =>
    onDisk (removeFile temporary)
    released temporary
  | _ => fail (.other "The generated temporary file changed.")

/-- `result.and(cleanup)`. -/
def both (result cleanup : Except IoError Unit) : Except IoError Unit :=
  match result with
  | .error error => .error error
  | .ok () => cleanup

/-- The part of `write` after the temporary file was opened. -/
def finish (expected : SavedFile) (bytes : List UInt8) : HostM Unit := do
  let result ← attempt (publish expected.path expected.temporaryPath expected bytes)
  let cleanup ← attempt (removeTemporary expected.path expected.temporaryPath expected)
  modifySession fun session =>
    { session with cleanupIncomplete := session.cleanupIncomplete || !cleanup.isOk }
  recorded expected.temporaryPath
  ofExcept (both result cleanup)

def write (relative : PathBuf) (bytes : List UInt8) : HostM Unit := do
  recordParents relative
  checkedPath relative
  let temporary := temporaryPath env relative
  modifySnapshot fun snapshot => { snapshot with intents := snapshot.intents ++ [temporary] }
  observe
  checkedPath relative
  openNew env temporary
  let metadata ← onDisk (existing temporary)
  finish
    { path := relative
      temporaryPath := temporary
      identity := .fromMetadata metadata
      size := bytes.length
      sha256 := Sha256.hexEncode (Sha256.sha256 bytes) } bytes

def GeneratedFiles.removeCreated (created : CreatedFile) :
    DiskM Unit := do
  session.checkedPath created.path
  match ← symlinkMetadata created.path with
  | none => return ()
  | some metadata =>
    require (metadata.kind = .file ∧ sameFile metadata created.metadata ∧
      sameMode metadata created.metadata ∧ metadata.length = created.bytes.length)
      "The generated file changed."
    let opened ← existing created.path
    require (sameFile opened created.metadata ∧ sameMode opened created.metadata)
      "The generated file changed."
    let bytes ← readToEnd created.path
    require (bytes.take (created.bytes.length + 1) = created.bytes) "The generated file changed."
    verifyNamedFile created.path created.metadata
    removeFile created.path

def GeneratedFiles.removeRecorded (recorded : RecordedDirectory) :
    DiskM Unit := do
  session.checkedPath recorded.path
  match ← symlinkMetadata recorded.path with
  | none => return ()
  | some metadata =>
    require (sameFile metadata recorded.metadata ∧ metadata.kind = .directory)
      "The generated directory changed."
    if recorded.owned then
      require (sameMode metadata recorded.metadata) "The generated directory changed."
      removeDir recorded.path
    else
      return ()

def GeneratedFiles.rollback : DiskM Bool := do
  let files ← forAll (fun created => succeeds (session.removeCreated created)) session.files.reverse
  let directories ← forAll (fun recorded => succeeds (session.removeRecorded recorded))
    session.directories.reverse
  return !session.cleanupIncomplete && files && directories

inductive Call where
  | createDirectory (relative : PathBuf)
  | write (relative : PathBuf) (bytes : List UInt8)

def perform : Call → HostM Unit
  | .createDirectory relative => createDirectory env relative
  | .write relative bytes => write env relative bytes

/-- One call of a run, with what becomes of its steps and what others do to the disk after it. -/
structure Step where
  call : Call
  env : CallEnv
  fates : List Fate
  edit : Disk → Disk

/-- The state before the session. -/
def Host.start (disk : Disk) : Host where
  disk := disk
  session :=
    { root := empty
      rootMetadata := { device := 0, inode := 0, mode := 0, kind := .directory, length := 0 }
      directories := []
      files := []
      cleanupIncomplete := false
      snapshot := newSnapshot empty
        { device := 0, inode := 0, mode := 0, kind := .directory, length := 0 } }
  offered := []
  saved := none
  created := []
  owned := []
  unrecorded := []

/-- The calls of a session one after the other. The process ends with a call that is cut. -/
def runCalls : List Step → Host → Host
  | [], host => host
  | step :: rest, host =>
    match perform step.env step.call step.fates host with
    | { outcome := .cut, fates := _, store := after } => after
    | { outcome := _, fates := _, store := after } =>
      runCalls rest { after with disk := step.edit after.disk }

/-- A session at a root: `new_observed`, and the calls if it succeeds. -/
def run (root : PathBuf) (fates : List Fate) (steps : List Step) (disk : Disk) : Host :=
  match newObserved root fates (Host.start disk) with
  | { outcome := .value (), fates := _, store := host } => runCalls steps host
  | { outcome := _, fates := _, store := host } => host

end Wts.Setup
