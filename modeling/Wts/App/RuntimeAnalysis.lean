/-
Module: Wts.App.RuntimeAnalysis
Purpose: The analysis that proposes runtime services: the files of a commit are read by detectors for stack
  manifests, package scripts and server processes, and what they find becomes service candidates.
Trusted boundary: serde_json, Git and Unicode lower case, which are given. The paths come from a Git tree:
  they have no empty or dot components.
-/
import Wts.App.CodeWorkspace
import Wts.Library.Acyclic
import Wts.Library.Lines
import Wts.Library.Sha256
import Wts.Library.Utf8

namespace Wts.RuntimeAnalysis

open Text Workspace
open CodeWorkspace (Value get toAsciiLowercase eqIgnoreAsciiCase truncateChars)

def detectorVersion : String := "wts-runtime-analysis-v1"
def maxWarnings : ℕ := 64
def maxEvidencePerService : ℕ := 16
def maxEvidencePerPort : ℕ := 8
def maxPackageScriptBytes : ℕ := 4096
def maxCommandArguments : ℕ := 64
def maxCommandArgumentBytes : ℕ := 1024
def maxIdentifierBytes : ℕ := 160
def maxDisplayChars : ℕ := 120
def maxRelativePathBytes : ℕ := 512
def maxGraphDetailChars : ℕ := 240
def maxManifestPorts : ℕ := 64
def maxManifestProcesses : ℕ := 64

/-! ### Results -/

inductive RuntimeConfidence where
  | declared
  | corroborated
  | inferred
  | suggested
deriving DecidableEq

structure RuntimeEvidence where
  repositoryId : String
  commitOid : String
  path : String
  detector : String
  detail : String
deriving DecidableEq

structure RuntimePortCandidate where
  portId : String
  environment : Option String
  preferredPort : Option UInt16
  policy : RuntimePortPolicy
  confidence : RuntimeConfidence
  evidence : List RuntimeEvidence

structure RuntimeServiceCandidate where
  candidateId : String
  serviceId : String
  displayName : String
  repositoryId : String
  repositoryLabel : String
  commitOid : String
  workingDirectory : String
  command : List String
  dependencies : List String
  ports : List RuntimePortCandidate
  confidence : RuntimeConfidence
  evidence : List RuntimeEvidence
  includedByDefault : Bool

structure RuntimeAnalyzedRepository where
  repositoryId : String
  repositoryLabel : String
  requestedBaseRef : String
  resolvedBaseRef : String
  commitOid : String

inductive RuntimeGraphStatus where
  | unavailable
  | stale
  | ready

structure RuntimeGraphAnalysis where
  status : RuntimeGraphStatus
  detail : String

structure RuntimeAnalysisResult where
  analysisDigest : String
  repositories : List RuntimeAnalyzedRepository
  services : List RuntimeServiceCandidate
  warnings : List String
  graph : RuntimeGraphAnalysis

structure RuntimeRepositorySource where
  repositoryId : String
  repositoryLabel : String
  requestedBaseRef : String
  resolvedBaseRef : String
  commitOid : String
  repositoryRoot : String

inductive RuntimeAnalysisError where
  | emptyRepositories
  | tooManyRepositories
  | duplicateRepositoryId
  | invalidTrustedSource
  | repositoryIdentityChanged
  | tooManyServices
  | duplicateCandidate
  | digestFailed
  | git (error : String)
deriving DecidableEq

inductive CommitCandidateKind where
  | stackManifest
  | packageManifest
  | dockerfile
  | environmentExample
  | composeManifest
  | uwsgiConfig
deriving DecidableEq

structure CommitCandidateBlob where
  path : String
  kind : CommitCandidateKind
  bytes : List UInt8

structure StackPort where
  id : String
  environment : String
  offset : UInt16

structure StackHealth where
  port : String
  path : String

structure StackProcess where
  id : String
  workingDirectory : String
  executable : String
  arguments : List String
  dependencies : List String
  health : StackHealth

structure StackCommand where
  workingDirectory : String
  executable : String
  arguments : List String

structure StackManifest where
  schemaVersion : ℕ
  id : String
  description : String
  ports : List StackPort
  processes : List StackProcess
  smoke : StackCommand

/-- What other libraries read and write: a manifest, a JSON value and a list of strings from text, lower
case, and the text of an analysis. -/
structure Readers (ν : Type) where
  manifest : List UInt8 → Option StackManifest
  json : List UInt8 → Option (Value ν)
  arguments : String → Option (List String)
  lowercase : String → String
  digestInput : List RuntimeAnalyzedRepository → List RuntimeServiceCandidate → Option (List UInt8)

def isAsciiWhitespace (c : Char) : Bool :=
  c = ' ' || c = '\t' || c = '\n' || c = '\x0c' || c = '\x0d'

/-- `split_ascii_whitespace`. -/
def asciiWords (text : String) : List String :=
  (Words.words isAsciiWhitespace text.toList).map String.ofList

/-- The text before the first of the characters. -/
def beforeAny (stop : Char → Bool) (text : String) : String :=
  String.ofList (text.toList.takeWhile fun c => !stop c)

/-- The text after the last `/`. -/
def leafOf (path : String) : String :=
  String.ofList (path.toList.rtakeWhile (· ≠ '/'))

def isShellPunctuation (c : Char) : Bool :=
  ['\'', '\"', '(', ')', ';', ','].contains c

def trimShellPunctuation (value : String) : String :=
  String.ofList (Words.trimMatches isShellPunctuation value.toList)

/-- The number that a text of digits stands for. -/
def digitsValue (digits : List Char) : ℕ :=
  digits.foldl (fun value c => value * 10 + (c.toNat - '0'.toNat)) 0

def parsePortLiteral (value : String) : Option UInt16 :=
  let value := trimShellPunctuation value
  if value = "" ∨ !value.toList.all Char.isDigit then
    none
  else
    let port := digitsValue value.toList
    if port < 2 ^ 16 ∧ 1024 ≤ port then some (UInt16.ofNat port) else none

def isEnvironmentLetter (c : Char) : Bool :=
  ('A' ≤ c && c ≤ 'Z') || c = '_'

def validEnvironmentName (value : String) : Bool :=
  value.utf8ByteSize ≤ 128 &&
    match value.toList with
    | [] => false
    | first :: rest =>
      isEnvironmentLetter first && rest.all fun c => isEnvironmentLetter c || c.isDigit

def isIdentifierCharacter (c : Char) : Bool :=
  isAsciiAlphanumeric c || c = '.' || c = '_' || c = ':' || c = '-'

def validIdentifier (value : String) : Bool :=
  value ≠ "" && value.utf8ByteSize ≤ maxIdentifierBytes && value.toList.all isIdentifierCharacter

def validScriptName (value : String) : Bool :=
  validIdentifier value && value.utf8ByteSize ≤ 80

/-- The loop of `sanitize_identifier`, with the text so far and whether it ends with a separator. -/
def sanitizeBytes (sanitized : List Char) (separator : Bool) : List UInt8 → List Char
  | [] => sanitized
  | byte :: rest =>
    let c := Char.ofNat byte.toNat
    let (sanitized, separator) :=
      if byte < 0x80 ∧ (isAsciiAlphanumeric c ∨ c = '.' ∨ c = '_') then
        (sanitized ++ [c.toLower], false)
      else if !separator ∧ sanitized ≠ [] then
        (sanitized ++ ['-'], true)
      else
        (sanitized, separator)
    if maxIdentifierBytes ≤ sanitized.length then sanitized
    else sanitizeBytes sanitized separator rest

def sanitizeIdentifier (value : String) : String :=
  let value := Words.trimMatches (· = '-') (sanitizeBytes [] false (utf8Bytes value))
  if value = [] then "service" else String.ofList value

/-- `trim_end_matches` of a text; each round removes it once. -/
def trimEndText (ending : List Char) : ℕ → List Char → List Char
  | 0, value => value
  | rounds + 1, value =>
    if ending.isSuffixOf value then
      trimEndText ending rounds (value.take (value.length - ending.length))
    else
      value

/-- The loop of `display_name`. -/
def displayChars (display : List Char) (spacing : Bool) : List Char → List Char
  | [] => display
  | c :: rest =>
    if isControl c then
      displayChars display spacing rest
    else if c = '-' ∨ c = '_' then
      if display ≠ [] ∧ !spacing then displayChars (display ++ [' ']) true rest
      else displayChars display spacing rest
    else
      displayChars (display ++ [c]) (isWhitespace c) rest

def displayName (value : String) : String :=
  let trimmed := trim (String.ofList (displayChars [] false (value.toList.take maxDisplayChars)))
  if trimmed = "" then "Service" else trimmed

def replaceBackslash (text : String) : String :=
  String.ofList (text.toList.map fun c => if c = '\\' then '/' else c)

def parentDirectory (path : String) : String :=
  match Words.rsplitOnce '/' path.toList with
  | none => "."
  | some (parent, _) => if parent = [] then "." else replaceBackslash (String.ofList parent)

/-- All components are normal: the path is not absolute, does not start with a dot component and has
no double dots. -/
def safeRelativeDirectory (value : String) : Bool :=
  value = "." ||
    (value ≠ "" && value.utf8ByteSize ≤ maxRelativePathBytes && !value.toList.any isControl &&
      !startsWith "/" value && (split '/' value).head? ≠ some "." &&
      !(split '/' value).contains "..")

def joinRelativeDirectory (parent child : String) : Option String :=
  if !safeRelativeDirectory parent ∨ !safeRelativeDirectory child then
    none
  else
    let combined :=
      if parent = "." then child
      else if child = "." then parent
      else if endsWith "/" parent then parent ++ child
      else parent ++ "/" ++ child
    let value := replaceBackslash combined
    if safeRelativeDirectory value then some value else none

def safeCommand (executable : String) (arguments : List String) (workingDirectory : String) : Bool :=
  executable ≠ "" && executable.utf8ByteSize ≤ 128 &&
    executable.toList.all (fun c =>
      isAsciiAlphanumeric c || c = '.' || c = '_' || c = '+' || c = '-') &&
    arguments.length ≤ maxCommandArguments &&
    arguments.all (fun argument =>
      argument ≠ "" && argument.utf8ByteSize ≤ maxCommandArgumentBytes &&
        !argument.toList.any isControl) &&
    safeRelativeDirectory workingDirectory

def pushWarning (warnings : List String) (warning : String) : List String :=
  if warnings.length < maxWarnings then warnings ++ [warning] else warnings

variable (source : RuntimeRepositorySource)

def candidateId (detector path serviceId workingDirectory : String) :
    String :=
  let parts := [detectorVersion, source.repositoryId, source.commitOid, detector, path, serviceId,
    workingDirectory]
  let digest := Sha256.hexEncode (Sha256.sha256 (parts.flatMap fun part => utf8Bytes part ++ [0]))
  "candidate:" ++ truncateChars digest 32

def evidence (path detector detail : String) : RuntimeEvidence where
  repositoryId := source.repositoryId
  commitOid := source.commitOid
  path := path
  detector := detector
  detail := truncateChars detail 320

def processDependencies (processes : List StackProcess) : List (String × Finset String) :=
  processes.map fun process => (process.id, process.dependencies.toFinset)

/-- `dependency_cycle`, for processes with distinct identifiers. -/
def dependencyCycle (processes : List StackProcess) : Bool :=
  Acyclic.stuckRounds processes.length (processDependencies processes) ∅

def manifestBasePort (manifestId : String) : UInt16 :=
  if manifestId = "frontend-backend" then 47000
  else if manifestId = "api-worker" then 47100
  else if manifestId = "event-driven" then 47200
  else
    let hash : UInt32 := (utf8Bytes manifestId).foldl (fun acc byte => acc * 31 + byte.toUInt32) 0
    UInt16.ofNat (48000 + hash.toNat % 120 * 100)

def checkedAdd (first second : UInt16) : Option UInt16 :=
  if first.toNat + second.toNat < 2 ^ 16 then some (first + second) else none

def validManifestHead (manifest : StackManifest) : Bool :=
  manifest.schemaVersion = 1 && validIdentifier manifest.id && trim manifest.description ≠ "" &&
    !manifest.description.toList.any isControl && manifest.ports ≠ [] &&
    manifest.ports.length ≤ maxManifestPorts && manifest.processes ≠ [] &&
    manifest.processes.length ≤ maxManifestProcesses && manifest.smoke.arguments ≠ [] &&
    safeCommand manifest.smoke.executable manifest.smoke.arguments manifest.smoke.workingDirectory

def validStackPort (port : StackPort) : Bool :=
  validIdentifier port.id && validEnvironmentName port.environment &&
    endsWith "_PORT" port.environment

/-- The loop over the ports: each is valid, and identifiers, offsets and variables are distinct. -/
def validStackPorts (ports : List StackPort) : Bool :=
  ports.all validStackPort && (ports.map StackPort.id).Nodup && (ports.map StackPort.offset).Nodup &&
    (ports.map StackPort.environment).Nodup

def validStackProcess (ports : List StackPort) (processIds : List String) (process : StackProcess) :
    Bool :=
  process.arguments ≠ [] &&
    safeCommand process.executable process.arguments process.workingDirectory &&
    process.health.path ≠ "" && process.health.path.utf8ByteSize ≤ 256 &&
    startsWith "/" process.health.path && !process.health.path.toList.any isControl &&
    (ports.map StackPort.id).contains process.health.port &&
    process.dependencies.length ≤ maxRuntimeServices &&
    process.dependencies.all (fun dependency =>
      dependency ≠ process.id && processIds.contains dependency) &&
    process.dependencies.Nodup

/-- The loop over the processes: each is valid, and no two have one health port. -/
def validStackProcesses (ports : List StackPort) (processes : List StackProcess) : Bool :=
  (processes.map StackProcess.id).Nodup &&
    (processes.all fun process => validIdentifier process.id) &&
    processes.all (validStackProcess ports (processes.map StackProcess.id)) &&
    (processes.map fun process => process.health.port).Nodup

/-- The candidate of a process, if its port is declared and its directory is safe. -/
def stackService (blob : CommitCandidateBlob)
    (manifest : StackManifest) (process : StackProcess) : Option RuntimeServiceCandidate := do
  let port ← manifest.ports.find? fun port => port.id = process.health.port
  let workingDirectory ← joinRelativeDirectory (parentDirectory blob.path) process.workingDirectory
  some {
    candidateId := candidateId source "wts-stack" blob.path process.id workingDirectory
    serviceId := process.id
    displayName := displayName process.id
    repositoryId := source.repositoryId
    repositoryLabel := source.repositoryLabel
    commitOid := source.commitOid
    workingDirectory := workingDirectory
    command := process.executable :: process.arguments
    dependencies := process.dependencies.insertionSort (· ≤ ·)
    ports := [{
      portId := port.id
      environment := some port.environment
      preferredPort := checkedAdd (manifestBasePort manifest.id) port.offset
      policy := .prefer
      confidence := .declared
      evidence := [evidence source blob.path "wts-stack" ("Port " ++ port.id ++
        " is assigned through " ++ port.environment ++ "; allocation is deferred until start.")] }]
    confidence := .declared
    evidence := [evidence source blob.path "wts-stack" ("Schema v1 declares process " ++ process.id ++
      " in stack " ++ manifest.id ++ ".")]
    includedByDefault := true }

/-- The checks of a manifest after which its processes become candidates. -/
def acceptedManifest (manifest : StackManifest) : Bool :=
  validManifestHead manifest && validStackPorts manifest.ports &&
    validStackProcesses manifest.ports manifest.processes &&
    ((manifest.processes.map fun process => process.health.port).toFinset =
      (manifest.ports.map StackPort.id).toFinset) &&
    !dependencyCycle manifest.processes

variable {ν : Type}

def parseStackManifest (readers : Readers ν) (source : RuntimeRepositorySource)
    (blob : CommitCandidateBlob) : Option (List RuntimeServiceCandidate) := do
  let manifest ← readers.manifest blob.bytes
  if acceptedManifest manifest then
    manifest.processes.mapM (stackService source blob manifest)
  else
    none

structure SupplementalPort where
  directory : String
  port : UInt16
  environment : Option String
  path : String
  detector : String

variable (supplement : SupplementalPort)

def SupplementalPort.detectorLabel : String :=
  if supplement.detector = "dockerfile-expose" then "Dockerfile EXPOSE"
  else if supplement.detector = "environment-example" then "Environment example"
  else "Runtime configuration"

def SupplementalPort.sortKey :
    String ×ₗ ℕ ×ₗ WithBot String ×ₗ String ×ₗ String :=
  toLex (supplement.directory, toLex (supplement.port.toNat, toLex
    ((supplement.environment : WithBot String), toLex (supplement.path, supplement.detector))))

/-- Sorted by a key, and without repetitions of the key. -/
def sortedBy {α κ : Type} [LinearOrder κ] (key : α → κ) (items : List α) : List α :=
  (items.insertionSort fun left right => key left ≤ key right).destutter
    fun left right => key left ≠ key right

def dockerfileLinePorts (line : String) : List UInt16 :=
  match asciiWords (trim (beforeAny (· = '#') line)) with
  | [] => []
  | instruction :: tokens =>
    if eqIgnoreAsciiCase instruction "EXPOSE" then
      (tokens.take 16).filterMap fun token => parsePortLiteral (beforeAny (· = '/') token)
    else
      []

def dockerfilePorts (text : String) : List UInt16 :=
  sortedBy UInt16.toNat (((lines text).take 4096).flatMap dockerfileLinePorts)

def environmentLinePort (line : String) : Option (String × UInt16) := do
  let code := trim line
  if code = "" ∨ startsWith "#" code then
    none
  else do
    let code := ((stripPrefix "export " code).map fun rest =>
      String.ofList (rest.toList.dropWhile isWhitespace)).getD code
    let (environment, value) ← splitOnce '=' code
    let environment := trim environment
    if !validEnvironmentName environment ∨ !containsText "PORT" environment then
      none
    else do
      let value := Words.trimMatches (fun c => c = '\'' || c = '\"')
        (trim (beforeAny (· = '#') value)).toList
      let port ← parsePortLiteral (String.ofList value)
      some (environment, port)

def environmentExamplePorts (text : String) : List (String × UInt16) :=
  sortedBy (fun entry => toLex (entry.1, entry.2.toNat))
    (((lines text).take 4096).filterMap environmentLinePort)

/-- The ports of one file, or none if it is not UTF-8. -/
def blobSupplements (blob : CommitCandidateBlob) : Option (List SupplementalPort) :=
  match blob.kind with
  | .dockerfile =>
    (Utf8.fromUtf8 blob.bytes).map fun text => ((dockerfilePorts text).take 16).map fun port => {
      directory := parentDirectory blob.path
      port := port
      environment := none
      path := blob.path
      detector := "dockerfile-expose" }
  | .environmentExample =>
    (Utf8.fromUtf8 blob.bytes).map fun text => ((environmentExamplePorts text).take 16).map fun entry => {
      directory := parentDirectory blob.path
      port := entry.2
      environment := some entry.1
      path := blob.path
      detector := "environment-example" }
  | _ => some []

def notUtf8Warning (blob : CommitCandidateBlob) : String :=
  "Skipped " ++ blob.path ++ " in " ++ source.repositoryLabel ++
    (if blob.kind = .dockerfile then ": Dockerfile was not UTF-8."
    else ": environment example was not UTF-8.")

def collectSupplementalPorts (blobs : List CommitCandidateBlob)
    (warnings : List String) : List SupplementalPort × List String :=
  (sortedBy SupplementalPort.sortKey (blobs.flatMap fun blob => (blobSupplements blob).getD []),
    blobs.foldl (fun warnings blob =>
      if (blobSupplements blob).isNone then pushWarning warnings (notUtf8Warning source blob)
      else warnings) warnings)

/-! ### Package scripts -/

structure ScriptPort where
  port : UInt16
  environment : Option String

def ScriptPort.sortKey (port : ScriptPort) : ℕ ×ₗ WithBot String :=
  toLex (port.port.toNat, (port.environment : WithBot String))

def tokenPort (token : String) : Option ScriptPort :=
  match (stripPrefix "--port=" token <|> stripPrefix "-p=" token).bind parsePortLiteral with
  | some port => some { port := port, environment := none }
  | none => do
    let (environment, value) ← splitOnce '=' token
    if validEnvironmentName environment ∧ containsText "PORT" environment then do
      let port ← parsePortLiteral value
      some { port := port, environment := some environment }
    else
      none

/-- The port that a flag and the token after it declare. -/
def pairedPort (token next : String) : Option UInt16 :=
  if token = "--port" ∨ token = "-p" then parsePortLiteral next else none

/-- The loop over the tokens of a script. -/
def tokenPorts : List String → List ScriptPort
  | [] => []
  | [token] => (tokenPort (trimShellPunctuation token)).toList
  | token :: next :: rest =>
    match pairedPort (trimShellPunctuation token) next with
    | some port => { port := port, environment := none } :: tokenPorts rest
    | none => (tokenPort (trimShellPunctuation token)).toList ++ tokenPorts (next :: rest)

def scriptPorts (script : String) : List ScriptPort :=
  sortedBy ScriptPort.sortKey (tokenPorts ((asciiWords script).take 256))

def scriptPriority (name : String) : ℕ :=
  if name = "dev" then 0
  else if name = "start" then 1
  else if name = "serve" then 2
  else if name = "preview" then 3
  else 4

inductive PackageManager where
  | npm
  | pnpm
  | yarn
  | bun

def packageManager (value : Option String) : PackageManager :=
  match value.map (beforeAny (· = '@')) with
  | some "pnpm" => .pnpm
  | some "yarn" => .yarn
  | some "bun" => .bun
  | _ => .npm

def packageCommand (manager : PackageManager) (script : String) : List String :=
  match manager with
  | .npm => ["npm", "run", script]
  | .pnpm => ["pnpm", "run", script]
  | .yarn => ["yarn", script]
  | .bun => ["bun", "run", script]

def packageServiceId (packageName : Option String) (script directory : String) : String :=
  sanitizeIdentifier (match packageName with
    | some name =>
      String.ofList ((name.toList.dropWhile (· = '@')).map fun c => if c = '/' then '-' else c) ++
        "-" ++ script
    | none => leafOf directory ++ "-" ++ script)

/-- The loop of `unique_port_id`; it runs at most once for each used identifier and once more. -/
def uniqueSuffix (base : String) (used : Finset String) : ℕ → ℕ → String → String
  | 0, _, candidate => candidate
  | rounds + 1, suffix, candidate =>
    if candidate ∈ used then
      uniqueSuffix base used rounds (suffix + 1) (base ++ "-" ++ decimal suffix)
    else
      candidate

def portIdBase (environment : Option String) (index : ℕ) : String :=
  match environment with
  | some value =>
    sanitizeIdentifier (String.ofList (trimEndText "_PORT".toList value.length value.toList))
  | none => if index = 0 then "http" else "http-" ++ decimal (index + 1)

def uniquePortId (environment : Option String) (index : ℕ) (used : Finset String) : String :=
  let base := portIdBase environment index
  uniqueSuffix base used (used.card + 1) 2 base

def supplementDetail : String :=
  match supplement.environment with
  | some environment =>
    supplement.detectorLabel ++ " corroborates port " ++ decimal supplement.port.toNat ++
      " through " ++ environment ++ "."
  | none =>
    supplement.detectorLabel ++ " corroborates exposed port " ++ decimal supplement.port.toNat ++ "."

def RuntimeEvidence.sortKey (entry : RuntimeEvidence) : String ×ₗ String ×ₗ String :=
  toLex (entry.detector, toLex (entry.path, entry.detail))

/-- The evidence of a port of a script: the script, and the files beside it that name the port. -/
def scriptPortEvidence (blob : CommitCandidateBlob)
    (scriptName : String) (nearby : List SupplementalPort) (detected : ScriptPort) :
    List RuntimeEvidence :=
  let own := evidence source blob.path "package-script" ("Package script " ++ scriptName ++
    " declares or consumes port " ++ decimal detected.port.toNat ++ ".")
  let others := (nearby.filter fun supplement => supplement.port = detected.port).map fun supplement =>
    evidence source supplement.path supplement.detector (supplementDetail supplement)
  (((own :: others).insertionSort fun left right => left.sortKey ≤ right.sortKey).destutter
    (· ≠ ·)).take maxEvidencePerPort

def portConfidence (entries : List RuntimeEvidence) : RuntimeConfidence :=
  if 1 < (entries.map RuntimeEvidence.detector).toFinset.card then .corroborated else .inferred

/-- The loop over the detected ports, after the ports that have their identifiers. -/
def scriptPortCandidates (source : RuntimeRepositorySource) (blob : CommitCandidateBlob)
    (scriptName : String) (nearby : List SupplementalPort) (used : Finset String) (index : ℕ) :
    List ScriptPort → List RuntimePortCandidate
  | [] => []
  | detected :: rest =>
    let entries := scriptPortEvidence source blob scriptName nearby detected
    let portId := uniquePortId detected.environment index used
    { portId := portId
      environment := detected.environment
      preferredPort := some detected.port
      policy := .prefer
      confidence := portConfidence entries
      evidence := entries } ::
    scriptPortCandidates source blob scriptName nearby (insert portId used) (index + 1) rest

/-- The ports of a script: the ones it names, or the ones beside a conventional script. -/
def detectedPorts (scriptName script : String) (nearby : List SupplementalPort) : List ScriptPort :=
  let explicit := scriptPorts script
  let ports :=
    if explicit ≠ [] then explicit
    else if scriptPriority scriptName < 4 then
      nearby.map fun supplement =>
        { port := supplement.port, environment := supplement.environment }
    else
      []
  (sortedBy ScriptPort.sortKey ports).take maxRuntimePortsPerService

def packageService (blob : CommitCandidateBlob)
    (packageName : Option String) (manager : PackageManager) (nearby : List SupplementalPort)
    (scriptName : String) (detected : List ScriptPort) : RuntimeServiceCandidate :=
  let directory := parentDirectory blob.path
  let serviceId := packageServiceId packageName scriptName directory
  let ports := scriptPortCandidates source blob scriptName nearby ∅ 0 detected
  let corroborated := ports.any fun port => port.confidence = .corroborated
  { candidateId := candidateId source "package-script" blob.path serviceId directory
    serviceId := serviceId
    displayName :=
      match packageName with
      | some name => displayName name ++ " · " ++ displayName scriptName
      | none => displayName serviceId
    repositoryId := source.repositoryId
    repositoryLabel := source.repositoryLabel
    commitOid := source.commitOid
    workingDirectory := directory
    command := packageCommand manager scriptName
    dependencies := []
    ports := ports
    confidence := if corroborated then .corroborated else .inferred
    evidence := (evidence source blob.path "package-script" ("Package script " ++ scriptName ++
        " provides a bounded package-manager command.") ::
      (if corroborated then [evidence source blob.path "detector-merge"
        "Independent configuration evidence agrees with the package command."]
      else [])).take maxEvidencePerService
    includedByDefault := true }

/-- The loop over the scripts: the first one with ports is the service of the package. -/
def firstPackageService (source : RuntimeRepositorySource) (blob : CommitCandidateBlob)
    (packageName : Option String) (manager : PackageManager) (nearby : List SupplementalPort) :
    List (String × String) → List RuntimeServiceCandidate
  | [] => []
  | (scriptName, script) :: rest =>
    if maxPackageScriptBytes < script.utf8ByteSize ∨ script.toList.any isControl then
      firstPackageService source blob packageName manager nearby rest
    else
      match detectedPorts scriptName script nearby with
      | [] => firstPackageService source blob packageName manager nearby rest
      | detected => [packageService source blob packageName manager nearby scriptName detected]

def asString : Value ν → Option String
  | .string value => some value
  | _ => none

def asObject : Value ν → Option (List (String × Value ν))
  | .object fields => some fields
  | _ => none

def validPackageName (name : String) : Bool :=
  name ≠ "" && name.utf8ByteSize ≤ maxDisplayChars && !name.toList.any isControl

def scriptEntries (lowercase : String → String) (scripts : List (String × Value ν)) :
    List (String × String) :=
  (scripts.filterMap fun entry =>
      (asString entry.2).bind fun script =>
        if validScriptName entry.1 then some (entry.1, script) else none).insertionSort
    fun left right => (toLex (scriptPriority left.1, lowercase left.1) : ℕ ×ₗ String) ≤
      toLex (scriptPriority right.1, lowercase right.1)

def parsePackageServices (readers : Readers ν) (source : RuntimeRepositorySource)
    (supplements : List SupplementalPort) (blob : CommitCandidateBlob) :
    Option (List RuntimeServiceCandidate) := do
  let value ← readers.json blob.bytes
  let object ← asObject value
  let scripts ← (get "scripts" object).bind asObject
  let packageName := ((get "name" object).bind asString).filter validPackageName
  let manager := packageManager ((get "packageManager" object).bind asString)
  let nearby := supplements.filter fun supplement => supplement.directory = parentDirectory blob.path
  some (firstPackageService source blob packageName manager nearby
    (scriptEntries readers.lowercase scripts))

def serverExecutables : List String :=
  ["python", "python3", "uwsgi", "gunicorn", "uvicorn", "hypercorn", "flask", "node", "deno", "bun"]

/-- The text after the last separator, or all of it. -/
def afterLast (separator : Char) (text : String) : String :=
  match Words.rsplitOnce separator text.toList with
  | none => text
  | some (_, rest) => String.ofList rest

def uwsgiKeys : List String :=
  ["http", "http-socket", "socket", "uwsgi-socket", "https"]

/-- One line of a uWSGI file: whether the section is the one that counts, and the port so far. An HTTP
listener is preferred over a binary socket. -/
def uwsgiLine (state : Bool × Option UInt16) (line : String) : Bool × Option UInt16 :=
  let code := trim (beforeAny (fun c => c = '#' || c = ';') line)
  if startsWith "[" code then
    (eqIgnoreAsciiCase code "[uwsgi]", state.2)
  else if !state.1 then
    state
  else
    match splitOnce '=' code with
    | none => state
    | some (key, value) =>
      let key := toAsciiLowercase (trim key)
      let number := parsePortLiteral (beforeAny (· = ',') (afterLast ':' (trim value)))
      if key ∈ uwsgiKeys ∧ number.isSome ∧ (startsWith "http" key ∨ state.2 = none) then
        (state.1, number)
      else
        state

def uwsgiPort (text : String) : Option UInt16 :=
  (((lines text).take 4096).foldl uwsgiLine (false, none)).2

/-- `split_once` at white space. -/
def splitInstruction (code : String) : Option (String × String) :=
  match code.toList.dropWhile fun c => !isWhitespace c with
  | [] => none
  | _ :: rest => some (beforeAny isWhitespace code, String.ofList rest)

/-- One line of a Dockerfile: the last `ENTRYPOINT` and the last `CMD` so far. -/
def commandLine (arguments : String → Option (List String))
    (state : Option (List String) × Option (List String)) (line : String) :
    Option (List String) × Option (List String) :=
  match splitInstruction (trim line) with
  | none => state
  | some (instruction, value) =>
    if eqIgnoreAsciiCase instruction "ENTRYPOINT" then (arguments (trim value), state.2)
    else if eqIgnoreAsciiCase instruction "CMD" then (state.1, arguments (trim value))
    else state

def dockerfileCommand (arguments : String → Option (List String)) (text : String) :
    Option (List String) :=
  let (entrypoint, cmd) := ((lines text).take 4096).foldl (commandLine arguments) (none, none)
  let command := entrypoint.getD [] ++ cmd.getD []
  if command = [] then none else some command

def serverCandidate (detector path directory : String)
    (command : List String) (port : UInt16) (confidence : RuntimeConfidence)
    (serviceEvidence portEvidence : List RuntimeEvidence) : RuntimeServiceCandidate :=
  let leaf := if directory = "." then source.repositoryLabel else leafOf directory
  let serviceId := sanitizeIdentifier leaf
  { candidateId := candidateId source detector path serviceId directory
    serviceId := serviceId
    displayName := displayName serviceId
    repositoryId := source.repositoryId
    repositoryLabel := source.repositoryLabel
    commitOid := source.commitOid
    workingDirectory := directory
    command := command
    dependencies := []
    ports := [{
      portId := "http"
      environment := none
      preferredPort := some port
      policy := .fixed
      confidence := confidence
      evidence := portEvidence }]
    confidence := confidence
    evidence := serviceEvidence
    includedByDefault := false }

structure Dockerfile where
  blob : CommitCandidateBlob
  command : Option (List String)
  ports : List UInt16

def readDockerfile (readers : Readers ν) (blob : CommitCandidateBlob) : Option Dockerfile :=
  if blob.kind = .dockerfile then
    (Utf8.fromUtf8 blob.bytes).map fun text => {
      blob := blob
      command := dockerfileCommand readers.arguments text
      ports := dockerfilePorts text }
  else
    none

/-- The candidate of a uWSGI file whose directory has no service yet. -/
def uwsgiService (dockerfiles : List Dockerfile)
    (blob : CommitCandidateBlob) : Option RuntimeServiceCandidate := do
  let text ← Utf8.fromUtf8 blob.bytes
  let port ← uwsgiPort text
  let directory := parentDirectory blob.path
  let fileName := leafOf blob.path
  if !safeCommand "uwsgi" ["--ini", fileName] directory then
    none
  else
    let corroborating := dockerfiles.find? fun dockerfile =>
      parentDirectory dockerfile.blob.path = directory && dockerfile.command.any fun command =>
        command.head? = some "uwsgi" && command.contains fileName
    let merged := match corroborating with
      | some dockerfile => [evidence source dockerfile.blob.path "dockerfile-command"
          (dockerfile.blob.path ++ " starts uWSGI with " ++ fileName ++ ".")]
      | none => []
    some (serverCandidate source "uwsgi-config" blob.path directory ["uwsgi", "--ini", fileName] port
      (if corroborating.isSome then .corroborated else .inferred)
      (evidence source blob.path "uwsgi-config" (fileName ++ " configures a uWSGI application.") ::
        merged)
      [evidence source blob.path "uwsgi-config" (fileName ++ " binds port " ++
        decimal port.toNat ++ ". The port is fixed in the file.")])

/-- The candidate of a Dockerfile whose directory has no service yet. -/
def dockerfileService (dockerfile : Dockerfile) :
    Option RuntimeServiceCandidate := do
  let command ← dockerfile.command
  let port ← dockerfile.ports.head?
  let executable ← command.head?
  let directory := parentDirectory dockerfile.blob.path
  let executableName := leafOf executable
  if !serverExecutables.contains executableName ∨ executableName = "uwsgi" ∨
      (command.tail.any fun argument => startsWith "/" argument) = true ∨
      !safeCommand executableName command.tail directory then
    none
  else
    let localCommand := executableName :: command.tail
    some (serverCandidate source "dockerfile-command" dockerfile.blob.path directory localCommand port
      .suggested
      [evidence source dockerfile.blob.path "dockerfile-command"
        (dockerfile.blob.path ++ " starts " ++ " ".intercalate localCommand ++ ".")]
      [evidence source dockerfile.blob.path "dockerfile-expose"
        (dockerfile.blob.path ++ " exposes port " ++ decimal port.toNat ++ ".")])

/-- A loop that proposes at most one service for each directory that is not used. -/
def servicesByDirectory {α : Type} (directory : α → String)
    (service : α → Option RuntimeServiceCandidate) (used : Finset String) :
    List α → List RuntimeServiceCandidate × Finset String
  | [] => ([], used)
  | item :: rest =>
    if directory item ∈ used then
      servicesByDirectory directory service used rest
    else
      match service item with
      | none => servicesByDirectory directory service used rest
      | some candidate =>
        let (services, used) :=
          servicesByDirectory directory service (insert (directory item) used) rest
        (candidate :: services, used)

def detectServerProcesses (readers : Readers ν) (source : RuntimeRepositorySource)
    (blobs : List CommitCandidateBlob) (skipDirectories : Finset String) :
    List RuntimeServiceCandidate :=
  let dockerfiles := blobs.filterMap (readDockerfile readers)
  let (uwsgi, used) := servicesByDirectory (fun blob => parentDirectory blob.path)
    (uwsgiService source dockerfiles) skipDirectories
    (blobs.filter fun blob => blob.kind = .uwsgiConfig)
  let (servers, _) := servicesByDirectory (fun dockerfile => parentDirectory dockerfile.blob.path)
    (dockerfileService source) used dockerfiles
  ((uwsgi ++ servers).insertionSort fun left right => left.candidateId ≤ right.candidateId).take
    maxRuntimeServices

def skippedManifestWarning (blob : CommitCandidateBlob) : String :=
  "Skipped " ++ blob.path ++ " in " ++ source.repositoryLabel ++
    ": invalid or unsupported wts-stack.json."

def skippedPackageWarning (blob : CommitCandidateBlob) : String :=
  "Skipped " ++ blob.path ++ " in " ++ source.repositoryLabel ++
    ": package metadata was malformed or outside analysis bounds."

def composeWarning (blob : CommitCandidateBlob) : String :=
  "Detected " ++ blob.path ++ " in " ++ source.repositoryLabel ++
    "; Compose remains evidence-only until it can be parsed without guessing YAML semantics."

def composeWarnings (blobs : List CommitCandidateBlob) (warnings : List String) : List String :=
  (blobs.filter fun blob => blob.kind = .composeManifest).foldl
    (fun warnings blob => pushWarning warnings (composeWarning source blob)) warnings

/-- The loop over the stack manifests. -/
def manifestServices (readers : Readers ν) (source : RuntimeRepositorySource) :
    List CommitCandidateBlob → List String → List RuntimeServiceCandidate × List String
  | [], warnings => ([], warnings)
  | blob :: rest, warnings =>
    match parseStackManifest readers source blob with
    | some found =>
      let (services, warnings) := manifestServices readers source rest warnings
      (found ++ services, warnings)
    | none =>
      manifestServices readers source rest
        (pushWarning warnings (skippedManifestWarning source blob))

/-- The loop over the packages; it ends when there are too many services. -/
def packageServices (readers : Readers ν) (source : RuntimeRepositorySource)
    (supplements : List SupplementalPort) (services : List RuntimeServiceCandidate) :
    List CommitCandidateBlob → List String → List RuntimeServiceCandidate × List String
  | [], warnings => (services, warnings)
  | blob :: rest, warnings =>
    let (services, warnings) :=
      match parsePackageServices readers source supplements blob with
      | some detected => (services ++ detected, warnings)
      | none => (services, pushWarning warnings (skippedPackageWarning source blob))
    if maxRuntimeServices < services.length then
      (services, warnings)
    else
      packageServices readers source supplements services rest warnings

def unusedPortWarning : String :=
  supplement.detectorLabel ++ " declares port " ++ decimal supplement.port.toNat ++ " in " ++
    supplement.path ++ ", but no safe runnable command was found beside it."

/-- The directories and ports that the services propose. -/
def usedPorts (services : List RuntimeServiceCandidate) : List (String × UInt16) :=
  services.flatMap fun service => service.ports.filterMap fun port =>
    port.preferredPort.map fun preferred => (service.workingDirectory, preferred)

def detectRepository (readers : Readers ν) (source : RuntimeRepositorySource)
    (blobs : List CommitCandidateBlob) (warnings : List String) :
    List RuntimeServiceCandidate × List String :=
  let (declared, warnings) := manifestServices readers source
    (blobs.filter fun blob => blob.kind = .stackManifest) warnings
  if declared ≠ [] then
    (declared, composeWarnings source blobs warnings)
  else
    let (supplements, warnings) := collectSupplementalPorts source blobs warnings
    let (packages, warnings) := packageServices readers source supplements []
      (blobs.filter fun blob => blob.kind = .packageManifest) warnings
    let warnings := composeWarnings source blobs warnings
    let services := packages ++ detectServerProcesses readers source blobs
      (packages.map RuntimeServiceCandidate.workingDirectory).toFinset
    (services, supplements.foldl (fun warnings supplement =>
      if (supplement.directory, supplement.port) ∈ usedPorts services then warnings
      else pushWarning warnings (unusedPortWarning supplement)) warnings)

/-- What Git answers about a repository at a commit. -/
structure GitAnswers where
  inspection : Except String String
  blobs : Except String (List CommitCandidateBlob)

def validOid (value : String) : Bool :=
  (value.utf8ByteSize = 40 || value.utf8ByteSize = 64) && value.toList.all fun c =>
    c.isDigit || ('a' ≤ c && c ≤ 'f') || ('A' ≤ c && c ≤ 'F')

def validResolvedRef (value : String) : Bool :=
  value ≠ "" && value.utf8ByteSize ≤ maxBaseRefChars + "refs/remotes/origin/".utf8ByteSize &&
    !value.toList.any isControl &&
    (startsWith "refs/heads/" value || startsWith "refs/remotes/origin/" value)

def validSource : Bool :=
  validRepositoryId source.repositoryId && trim source.repositoryLabel ≠ "" &&
    source.repositoryLabel = trim source.repositoryLabel &&
    source.repositoryLabel.length ≤ maxRepositoryLabelChars &&
    !(source.repositoryLabel.toList.any fun c => isControl c || c = '/' || c = '\\') &&
    validBaseRef source.requestedBaseRef && validResolvedRef source.resolvedBaseRef &&
    validOid source.commitOid && source.repositoryRoot ≠ ""

def validateSources (ids : Finset String) :
    List RuntimeRepositorySource → Except RuntimeAnalysisError Unit
  | [] => .ok ()
  | source :: rest =>
    if !validSource source then .error .invalidTrustedSource
    else if source.repositoryId ∈ ids then .error .duplicateRepositoryId
    else validateSources (insert source.repositoryId ids) rest

/-- The loop that reads the repositories. -/
def readSources (git : RuntimeRepositorySource → GitAnswers) :
    List RuntimeRepositorySource →
      Except RuntimeAnalysisError (List (RuntimeRepositorySource × List CommitCandidateBlob))
  | [] => .ok []
  | source :: rest => do
    let id ← (git source).inspection.mapError .git
    if id ≠ source.repositoryId then
      .error .repositoryIdentityChanged
    else do
      let blobs ← (git source).blobs.mapError .git
      let others ← readSources git rest
      .ok ((source, blobs) :: others)

def analyzedRepository : RuntimeAnalyzedRepository where
  repositoryId := source.repositoryId
  repositoryLabel := source.repositoryLabel
  requestedBaseRef := source.requestedBaseRef
  resolvedBaseRef := source.resolvedBaseRef
  commitOid := source.commitOid

/-- The loop that runs the detectors. -/
def detectSources (readers : Readers ν) (services : List RuntimeServiceCandidate)
    (warnings : List String) : List (RuntimeRepositorySource × List CommitCandidateBlob) →
      Except RuntimeAnalysisError (List RuntimeServiceCandidate × List String)
  | [] => .ok (services, warnings)
  | (source, blobs) :: rest =>
    let (detected, warnings) := detectRepository readers source blobs warnings
    let services := services ++ detected
    if maxRuntimeServices < services.length then .error .tooManyServices
    else detectSources readers services warnings rest

def graphDetail (sources files : ℕ) : String :=
  truncateChars ("Built an exact-commit evidence graph with " ++ decimal (sources + files) ++
    " nodes and " ++ decimal files ++ " relationships across " ++ decimal sources ++
    " repositories and " ++ decimal files ++
    " manifest, Compose, Dockerfile, and example environment files.") maxGraphDetailChars

def finishWarnings (services : List RuntimeServiceCandidate) (warnings : List String) : List String :=
  let warnings :=
    if services = [] then
      pushWarning warnings "No runnable services were inferred from the selected commits."
    else warnings
  (sortDedup warnings).take maxWarnings

def analysisDigest (readers : Readers ν) (repositories : List RuntimeAnalyzedRepository)
    (services : List RuntimeServiceCandidate) : Except RuntimeAnalysisError String :=
  match readers.digestInput repositories services with
  | none => .error .digestFailed
  | some bytes => .ok ("sha256:" ++ Sha256.hexEncode (Sha256.sha256 bytes))

/-- Whether two neighbours have one candidate identity. -/
def hasDuplicateNeighbours (services : List RuntimeServiceCandidate) : Bool :=
  (services.zip services.tail).any fun pair => pair.1.candidateId = pair.2.candidateId

def analyzeRuntime (readers : Readers ν) (git : RuntimeRepositorySource → GitAnswers)
    (sources : List RuntimeRepositorySource) : Except RuntimeAnalysisError RuntimeAnalysisResult :=
  if sources = [] then
    .error .emptyRepositories
  else if maxRepositoriesPerWorkspace < sources.length then
    .error .tooManyRepositories
  else do
    let ordered := sources.insertionSort fun left right => left.repositoryId ≤ right.repositoryId
    validateSources ∅ ordered
    let sets ← readSources git ordered
    let (services, warnings) ← detectSources readers [] [] sets
    let services := services.insertionSort fun left right => left.candidateId ≤ right.candidateId
    if hasDuplicateNeighbours services then
      .error .duplicateCandidate
    else do
      let repositories := ordered.map analyzedRepository
      let digest ← analysisDigest readers repositories services
      .ok {
        analysisDigest := digest
        repositories := repositories
        services := services
        warnings := finishWarnings services warnings
        graph := {
          status := .ready
          detail := graphDetail sets.length (sets.map fun set => set.2.length).sum } }

end Wts.RuntimeAnalysis
