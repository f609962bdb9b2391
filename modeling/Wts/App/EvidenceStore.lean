/-
Module: Wts.App.EvidenceStore
Purpose: The evidence directory of a workspace: files that are replaced as a whole, the latest
  verification result with its history, and the runs of agents with their retention.
Trusted boundary: `serde_json::from_slice` is the parameter `fromSlice`
-/
import Wts.App.AgentSessions
import Wts.Library.RecordFiles
import Wts.Library.Retention

namespace Wts.EvidenceStore

open Serde RecordFiles Retention
open Collaboration (AgentProvider)

def MAX_EVIDENCE_FILE_BYTES : ℕ := 512 * 1024
def MAX_AGENT_RUNS : ℕ := 256
def MAX_AGENT_RUN_BYTES : ℕ := 4 * 1024 * 1024
def MAX_VERIFICATION_HISTORY : ℕ := 10

inductive EvidenceStoreError where
  | unavailable
  | invalid

/-- What is under a name: something without readable metadata, something else than a file, or a
file. -/
inductive Node where
  | unknown
  | special
  | file (bytes : List UInt8) (readable : Bool)

/-- `read_json`, up to the bytes. -/
def readBytes : Option Node → Except EvidenceStoreError (List UInt8)
  | none | some .unknown => .error .unavailable
  | some .special => .error .invalid
  | some (.file bytes readable) =>
    if MAX_EVIDENCE_FILE_BYTES < bytes.length then .error .invalid
    else if readable then .ok bytes
    else .error .unavailable

def readJson {α : Type} (fromSlice : List UInt8 → Option α) (node : Option Node) :
    Except EvidenceStoreError α :=
  match readBytes node with
  | .error error => .error error
  | .ok bytes =>
    match fromSlice bytes with
    | none => .error .invalid
    | some value => .ok value

/-- What a replacement meets: an invalid directory, or a file system that cannot write, sync or rename
the temporary file. Nothing fails after the rename. -/
structure WriteFaults where
  root : Option EvidenceStoreError
  replace : Bool

/-- Only a file within the limit is replaced. -/
def replaceable : Option Node → Bool
  | none | some .unknown => true
  | some .special => false
  | some (.file bytes _) => bytes.length ≤ MAX_EVIDENCE_FILE_BYTES

def atomicReplaceBytes (fails : Bool) (node : Option Node) (bytes : List UInt8) :
    Except EvidenceStoreError Node :=
  if ¬replaceable node then .error .invalid
  else if MAX_EVIDENCE_FILE_BYTES < bytes.length then .error .invalid
  else if fails then .error .unavailable
  else .ok (.file bytes true)

def write (faults : WriteFaults) (node : Option Node) (bytes : List UInt8) :
    Except EvidenceStoreError Node :=
  match faults.root with
  | some error => .error error
  | none => atomicReplaceBytes faults.replace node bytes

def toVecPretty (value : Json) : List UInt8 :=
  Text.utf8Bytes (Json.pretty value)

inductive VerificationStatus where
  | notRun
  | running
  | passed
  | failed
  | blocked
  | cancelled
deriving DecidableEq

inductive VerificationCheckStatus where
  | pending
  | running
  | passed
  | failed
  | timedOut
  | skipped
  | cancelled

structure VerificationCheckResult where
  checkId : String
  status : VerificationCheckStatus
  startedAtUnixMs : Option Int64
  completedAtUnixMs : Option Int64
  durationMs : Option UInt64
  exitCode : Option Int32
  logDisplayPath : Option String
  detail : String

structure WorkspaceVerificationResult where
  schemaVersion : UInt32
  workspaceId : Uuid
  planRevision : UInt64
  status : VerificationStatus
  startedAtUnixMs : Option Int64
  completedAtUnixMs : Option Int64
  durationMs : Option UInt64
  checks : List VerificationCheckResult
  warnings : List String

def VerificationStatus.toJson : VerificationStatus → Json
  | .notRun => .string "notRun"
  | .running => .string "running"
  | .passed => .string "passed"
  | .failed => .string "failed"
  | .blocked => .string "blocked"
  | .cancelled => .string "cancelled"

def VerificationCheckStatus.toJson : VerificationCheckStatus → Json
  | .pending => .string "pending"
  | .running => .string "running"
  | .passed => .string "passed"
  | .failed => .string "failed"
  | .timedOut => .string "timedOut"
  | .skipped => .string "skipped"
  | .cancelled => .string "cancelled"

def VerificationCheckResult.toJson (result : VerificationCheckResult) : Json :=
  record
    [("checkId", some (.string result.checkId)),
     ("status", some result.status.toJson),
     ("startedAtUnixMs", result.startedAtUnixMs.map ofInt64),
     ("completedAtUnixMs", result.completedAtUnixMs.map ofInt64),
     ("durationMs", result.durationMs.map fun duration => ofNat duration.toNat),
     ("exitCode", result.exitCode.map fun code => .number code.toInt),
     ("logDisplayPath", result.logDisplayPath.map .string),
     ("detail", some (.string result.detail))]

def WorkspaceVerificationResult.toJson (result : WorkspaceVerificationResult) : Json :=
  record
    [("schemaVersion", some (ofNat result.schemaVersion.toNat)),
     ("workspaceId", some (ofUuid result.workspaceId)),
     ("planRevision", some (ofNat result.planRevision.toNat)),
     ("status", some result.status.toJson),
     ("startedAtUnixMs", result.startedAtUnixMs.map ofInt64),
     ("completedAtUnixMs", result.completedAtUnixMs.map ofInt64),
     ("durationMs", result.durationMs.map fun duration => ofNat duration.toNat),
     ("checks", some (ofList VerificationCheckResult.toJson result.checks)),
     ("warnings", some (ofList .string result.warnings))]

def terminalVerificationResult (result : WorkspaceVerificationResult) : Bool :=
  (result.status = .passed || result.status = .failed || result.status = .blocked ||
    result.status = .cancelled) && result.completedAtUnixMs.isSome

/-- The files of the latest result and of the history. -/
structure VerificationFiles where
  result : Option Node
  history : Option Node

def readVerificationHistory (fromSlice : List UInt8 → Option (List WorkspaceVerificationResult)) :
    Option Node → Except EvidenceStoreError (List WorkspaceVerificationResult)
  | none => .ok []
  | some node =>
    match readJson fromSlice (some node) with
    | .error error => .error error
    | .ok history =>
      if MAX_VERIFICATION_HISTORY < history.length ∨
          history.any fun result => !terminalVerificationResult result then
        .error .invalid
      else
        .ok history

/-- The history with a new result: a result of the same run is dropped. -/
def updateHistory (history : List WorkspaceVerificationResult)
    (result : WorkspaceVerificationResult) : List WorkspaceVerificationResult :=
  (result :: history.filter fun snapshot =>
    snapshot.workspaceId ≠ result.workspaceId ∨ snapshot.planRevision ≠ result.planRevision ∨
      snapshot.startedAtUnixMs ≠ result.startedAtUnixMs).take MAX_VERIFICATION_HISTORY

/-- What the two writes of `write_verification_result` meet. -/
structure ResultFaults where
  result : WriteFaults
  history : WriteFaults

def writeVerificationResult (fromSlice : List UInt8 → Option (List WorkspaceVerificationResult))
    (faults : ResultFaults) (files : VerificationFiles) (result : WorkspaceVerificationResult) :
    Except EvidenceStoreError Unit × VerificationFiles :=
  match write faults.result files.result (toVecPretty result.toJson) with
  | .error error => (.error error, files)
  | .ok written =>
    let files := { files with result := some written }
    if terminalVerificationResult result then
      match readVerificationHistory fromSlice files.history with
      | .error error => (.error error, files)
      | .ok history =>
        match write faults.history files.history
            (toVecPretty (ofList WorkspaceVerificationResult.toJson
              (updateHistory history result))) with
        | .error error => (.error error, files)
        | .ok written => (.ok (), { files with history := some written })
    else
      (.ok (), files)

/-! ### Runs of agents -/

inductive AgentRunState where
  | running
  | succeeded
  | failed
deriving DecidableEq

inductive AgentRunFailure where
  | unavailable
  | spawnFailed
  | timedOut
  | outputTooLarge
  | providerFailed
deriving DecidableEq

structure AgentRunSummary where
  schemaVersion : UInt32
  runId : Uuid
  workspaceId : Uuid
  provider : AgentProvider
  state : AgentRunState
  startedAtUnixMs : Int64
  completedAtUnixMs : Option Int64
  durationMs : Option UInt64
  promptSha256 : String
  outputSha256 : Option String
  failure : Option AgentRunFailure
deriving DecidableEq

def AgentRunState.toJson : AgentRunState → Json
  | .running => .string "running"
  | .succeeded => .string "succeeded"
  | .failed => .string "failed"

def AgentRunFailure.toJson : AgentRunFailure → Json
  | .unavailable => .string "unavailable"
  | .spawnFailed => .string "spawnFailed"
  | .timedOut => .string "timedOut"
  | .outputTooLarge => .string "outputTooLarge"
  | .providerFailed => .string "providerFailed"

def AgentRunSummary.toJson (run : AgentRunSummary) : Json :=
  record
    [("schemaVersion", some (ofNat run.schemaVersion.toNat)),
     ("runId", some (ofUuid run.runId)),
     ("workspaceId", some (ofUuid run.workspaceId)),
     ("provider", some (AgentSessions.providerJson run.provider)),
     ("state", some run.state.toJson),
     ("startedAtUnixMs", some (ofInt64 run.startedAtUnixMs)),
     ("completedAtUnixMs", run.completedAtUnixMs.map ofInt64),
     ("durationMs", run.durationMs.map fun duration => ofNat duration.toNat),
     ("promptSha256", some (.string run.promptSha256)),
     ("outputSha256", run.outputSha256.map .string),
     ("failure", run.failure.map AgentRunFailure.toJson)]

def agentRunRecency (run : AgentRunSummary) : ℤ :=
  max ((run.completedAtUnixMs.getD run.startedAtUnixMs).toInt) run.startedAtUnixMs.toInt

/-- An entry of the directory of the runs; a name that is not UTF-8 is none. -/
structure RunEntry where
  leaf : Option String
  node : Node

structure StoredAgentRun where
  leaf : String
  bytes : ℕ
  summary : AgentRunSummary

/-- What the runs meet: the directory, its listing, and files that cannot be removed. -/
structure RetentionFaults where
  directory : Option EvidenceStoreError
  listing : Bool
  remove : String → Bool

/-- The node under a name. -/
def nodeAt (entries : List RunEntry) (leaf : String) : Option Node :=
  (entries.find? fun entry => entry.leaf = some leaf).map RunEntry.node

section Retain

variable (fromSlice : List UInt8 → Option AgentRunSummary)

/-- One entry of the first loop of `retain_agent_runs`. -/
def readStoredRun (entry : RunEntry) : Except EvidenceStoreError StoredAgentRun :=
  match entry.leaf with
  | none => .error .invalid
  | some leaf =>
    match recordId leaf with
    | none => .error .invalid
    | some runId =>
      match readJson fromSlice (some entry.node), entry.node with
      | .error error, _ => .error error
      | .ok summary, .file bytes _ =>
        if summary.runId ≠ runId then .error .invalid
        else .ok { leaf := leaf, bytes := bytes.length, summary := summary }
      | .ok _, _ => .error .invalid

/-- The key of the order: the protected run first, then the most recent one. -/
def runKey (protectedRunId : Option Uuid) (run : StoredAgentRun) : ℕ ×ₗ ℤᵒᵈ ×ₗ ℤᵒᵈ ×ₗ Uuidᵒᵈ :=
  toLex (if some run.summary.runId = protectedRunId then 0 else 1,
    toLex (OrderDual.toDual (agentRunRecency run.summary),
      toLex (OrderDual.toDual run.summary.startedAtUnixMs.toInt,
        OrderDual.toDual run.summary.runId)))

/-- The checks before a file is removed: it is still the file that was read. -/
def checkPruned (entries : List RunEntry) (candidate : StoredAgentRun) :
    Except EvidenceStoreError Unit :=
  match nodeAt entries candidate.leaf with
  | none | some .unknown => .error .unavailable
  | some .special => .error .invalid
  | some (.file bytes readable) =>
    if bytes.length ≠ candidate.bytes then
      .error .invalid
    else
      match readJson fromSlice (some (.file bytes readable)) with
      | .error error => .error error
      | .ok current => if current = candidate.summary then .ok () else .error .invalid

/-- The loop that removes the pruned runs. -/
def removeRuns (faults : RetentionFaults) :
    List StoredAgentRun → List RunEntry → Except EvidenceStoreError Unit × List RunEntry
  | [], entries => (.ok (), entries)
  | candidate :: rest, entries =>
    match checkPruned fromSlice entries candidate with
    | .error error => (.error error, entries)
    | .ok _ =>
      if faults.remove candidate.leaf then (.error .unavailable, entries)
      else removeRuns faults rest (entries.filter fun entry => entry.leaf ≠ some candidate.leaf)

/-- `retain_agent_runs` on the entries in the order in which they are listed. The total of the sizes
stays far below the bound of its type. -/
def retainAgentRuns (faults : RetentionFaults) (protectedRunId : Option Uuid)
    (maximumCount maximumBytes : ℕ) (entries : List RunEntry) :
    Except EvidenceStoreError (List AgentRunSummary) × List RunEntry :=
  match faults.directory with
  | some error => (.error error, entries)
  | none =>
    if faults.listing then
      (.error .unavailable, entries)
    else
      match entries.mapM (readStoredRun fromSlice) with
      | .error error => (.error error, entries)
      | .ok stored =>
        let stored := stored.insertionSort fun left right =>
          runKey protectedRunId left ≤ runKey protectedRunId right
        let count := retainedCount maximumCount maximumBytes StoredAgentRun.bytes 0 0 stored
        let pruned := (stored.drop count).insertionSort fun left right => left.leaf ≤ right.leaf
        match removeRuns fromSlice faults pruned entries with
        | (.error error, entries) => (.error error, entries)
        | (.ok _, entries) => (.ok ((stored.take count).map StoredAgentRun.summary), entries)

/-- A file under a name, in place of what is there. -/
def putFile (entries : List RunEntry) (leaf : String) (node : Node) : List RunEntry :=
  { leaf := some leaf, node := node } :: entries.filter fun entry => entry.leaf ≠ some leaf

/-- `write_agent_run`. The directory is listed in an order of the file system. -/
def writeAgentRun (write : WriteFaults) (faults : RetentionFaults)
    (listing : List RunEntry → List RunEntry) (entries : List RunEntry) (run : AgentRunSummary) :
    Except EvidenceStoreError Unit × List RunEntry :=
  match write.root, faults.directory with
  | some error, _ => (.error error, entries)
  | none, some error => (.error error, entries)
  | none, none =>
    let leaf := recordLeaf run.runId
    match atomicReplaceBytes write.replace (nodeAt entries leaf) (toVecPretty run.toJson) with
    | .error error => (.error error, entries)
    | .ok node =>
      match retainAgentRuns fromSlice faults (some run.runId) MAX_AGENT_RUNS MAX_AGENT_RUN_BYTES
          (listing (putFile entries leaf node)) with
      | (.error error, entries) => (.error error, entries)
      | (.ok _, entries) => (.ok (), entries)

end Retain

end Wts.EvidenceStore
