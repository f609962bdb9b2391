/-
Module: Wts.App.TurnChecks
Purpose: The saved runs of host checks of one turn, and the proof that the latest run of every planned
  check passed.
Trusted boundary: `serde_json::from_slice` is the parameter `fromSlice`
-/
import Wts.App.Integration
import Wts.Library.MaxByKey
import Wts.Library.RecordFiles
import Wts.Library.Utf8

namespace Wts.TurnChecks

open Checkpoint RecordFiles
open Integration (VerificationCheck VerifiedTurnCheck VerifiedTurnChecks AgentTurnCheckpoint)
open MaxByKey (maxByKey)

def MAX_CHECKS : ℕ := 64
def MAX_RUNS : ℕ := 64
def MAX_OUTPUT_BYTES : ℕ := 65536
def MAX_DETAIL_BYTES : ℕ := 2048
def MAX_RECORD_BYTES : ℕ := 512 * 1024

inductive AgentTurnCheckStatus where
  | running
  | passed
  | failed
  | timedOut
  | cancelled
  | interrupted
  | stale
  | blocked
deriving DecidableEq

structure AgentTurnCheckRun where
  runId : Uuid
  checkId : String
  status : AgentTurnCheckStatus
  startedAtUnixMs : Int64
  completedAtUnixMs : Option Int64
  durationMs : Option UInt64
  exitCode : Option Int32
  output : String
  outputTruncated : Bool
  detail : String
deriving DecidableEq

structure RunAgentTurnCheckRequest where
  requestId : Uuid
  checkId : String
  expectedAfterCheckpointId : Uuid
  expectedPlanRevision : UInt64
deriving DecidableEq

structure StoredCheckRun where
  conversationId : Uuid
  turnRequestId : Uuid
  sessionId : Uuid
  workspaceId : Uuid
  repositoryId : String
  sourceContextSha256 : String
  request : RunAgentTurnCheckRequest
  check : VerificationCheck
  verificationStartedAtUnixMs : Option Int64
  run : AgentTurnCheckRun
deriving DecidableEq

/-- What checks use of the receipt of a turn. -/
structure AgentTurnChanges where
  conversationId : Uuid
  requestId : Uuid
  sessionId : Uuid
  workspaceId : Uuid
  repositoryId : String
  sourceContextSha256 : String
  after : Option AgentTurnCheckpoint

def validCheckId (value : String) : Bool :=
  value ≠ "" && value.utf8ByteSize ≤ 128 &&
    value.toList.all fun c => Text.isAsciiAlphanumeric c || c = '-' || c = '_' || c = '.'

/-! ### The directory of the runs -/

/-- What is under a name: something that cannot be opened or read without following links, something
else than a file, or a file. -/
inductive RunNode where
  | unreadable
  | special
  | file (bytes : List UInt8)

/-- An entry; a name that is not UTF-8 is none. -/
structure RunEntry where
  name : Option String
  node : RunNode

/-- The directory with its entries in the order in which they are listed, none where listing fails. -/
inductive RunsDirectory where
  | missing
  | unavailable
  | listed (entries : List (Option RunEntry))

/-- The identifier in the name of an entry. -/
def RunEntry.id (entry : RunEntry) : Option Uuid :=
  entry.name.bind recordId

/-- A record belongs to the turn and to its file. -/
def belongs (receipt : AgentTurnChanges) (id : Uuid) (record : StoredCheckRun) : Bool :=
  record.conversationId = receipt.conversationId && record.turnRequestId = receipt.requestId &&
    record.sessionId = receipt.sessionId && record.workspaceId = receipt.workspaceId &&
    record.repositoryId = receipt.repositoryId &&
    record.sourceContextSha256 = receipt.sourceContextSha256 && record.run.runId = id &&
    record.request.requestId = id && record.run.checkId = record.request.checkId &&
    record.check.id = record.request.checkId && validCheckId record.run.checkId &&
    record.run.output.utf8ByteSize ≤ MAX_OUTPUT_BYTES &&
    !record.run.output.toList.contains (Char.ofNat 0) &&
    record.run.detail.utf8ByteSize ≤ MAX_DETAIL_BYTES

section Read

variable (fromSlice : List UInt8 → Option StoredCheckRun) (receipt : AgentTurnChanges)

/-- One file of the loop of `read_runs`. -/
def readRun (id : Uuid) : RunNode → Except LocalWtsError StoredCheckRun
  | .unreadable | .special => .error .agentConversationUnavailable
  | .file bytes =>
    if MAX_RECORD_BYTES < bytes.length then
      .error .agentConversationUnavailable
    else
      match fromSlice bytes with
      | none => .error .agentConversationUnavailable
      | some record =>
        if belongs receipt id record then .ok record
        else .error .agentConversationUnavailable

/-- The loop of `read_runs`, with the records so far. -/
def readEntries : List (Option RunEntry) → List StoredCheckRun →
    Except LocalWtsError (List StoredCheckRun)
  | [], records => .ok records
  | none :: _, _ => .error .agentConversationUnavailable
  | some entry :: rest, records =>
    match entry.id with
    | none => readEntries rest records
    | some id =>
      if MAX_RUNS ≤ records.length then
        .error .agentConversationLimit
      else
        match readRun fromSlice receipt id entry.node with
        | .error error => .error error
        | .ok record => readEntries rest (records ++ [record])

/-- The key of the order of the records. -/
def runKey (record : StoredCheckRun) : ℤ ×ₗ Uuid :=
  toLex (record.run.startedAtUnixMs.toInt, record.run.runId)

def readRuns : RunsDirectory → Except LocalWtsError (List StoredCheckRun)
  | .missing => .ok []
  | .unavailable => .error .agentConversationUnavailable
  | .listed entries => do
    let records ← readEntries fromSlice receipt entries []
    return records.insertionSort fun first second => runKey first ≤ runKey second

end Read

/-- What the proof asks of each of the latest runs of a check. -/
def proves (afterCheckpointId : Uuid) (revision : UInt64) (check : VerificationCheck)
    (record : StoredCheckRun) : Bool :=
  record.run.status = .passed && record.run.exitCode = some 0 &&
    record.run.completedAtUnixMs.isSome &&
    record.request.expectedAfterCheckpointId = afterCheckpointId &&
    record.request.expectedPlanRevision = revision && record.check = check

/-- One check of the loop of `proof_from_saved_runs`. -/
def proveCheck (records : List StoredCheckRun) (afterCheckpointId : Uuid) (revision : UInt64)
    (check : VerificationCheck) : Except LocalWtsError VerifiedTurnCheck :=
  let matching := records.filter fun record => record.run.checkId = check.id
  match maxByKey runKey matching with
  | none => .error .agentConversationConflict
  | some latest =>
    if (matching.filter fun record =>
        record.run.startedAtUnixMs = latest.run.startedAtUnixMs).all
          (proves afterCheckpointId revision check) then
      match latest.run.completedAtUnixMs with
      | none => .error .agentConversationConflict
      | some completedAtUnixMs =>
        .ok
          { check := check
            runId := latest.run.runId
            completedAtUnixMs := completedAtUnixMs }
    else
      .error .agentConversationConflict

/-- The loop of `proof_from_saved_runs`, after the checks with the given ids. -/
def proveChecks (records : List StoredCheckRun) (afterCheckpointId : Uuid) (revision : UInt64) :
    List String → List VerificationCheck → Except LocalWtsError (List VerifiedTurnCheck)
  | _, [] => .ok []
  | ids, check :: rest =>
    if check.id ∈ ids then
      .error .agentConversationConflict
    else do
      let verified ← proveCheck records afterCheckpointId revision check
      let others ← proveChecks records afterCheckpointId revision (check.id :: ids) rest
      return verified :: others

def proofFromSavedRuns (fromSlice : List UInt8 → Option StoredCheckRun)
    (directory : RunsDirectory) (receipt : AgentTurnChanges) (revision : UInt64)
    (checks : List VerificationCheck) : Except LocalWtsError VerifiedTurnChecks :=
  if checks = [] ∨ MAX_CHECKS < checks.length ∨ revision = 0 then
    .error .agentConversationConflict
  else
    match receipt.after with
    | none => .error .agentConversationConflict
    | some after => do
      let records ← readRuns fromSlice receipt directory
      let proof ← proveChecks records after.checkpointId revision [] checks
      return {
        afterCheckpointId := after.checkpointId
        planRevision := revision
        checks := proof }

end Wts.TurnChecks
