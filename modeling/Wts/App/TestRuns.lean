/-
Module: Wts.App.TestRuns
Purpose: The store of browser test runs: a directory for each run, the retention of the newest runs,
  and how a run is begun and finalized.
Trusted boundary: the reading of a run's record, the JSON of a record, the clock, and that the
  directories above the runs are real
-/
import Wts.App.JourneyPlan
import Wts.Library.FileTree
import Wts.Library.Interrupt
import Wts.Library.Sha256

namespace Wts.Testing

open FileTree Interrupt
open Interrupt.Proc

inductive TestRunState where
  | running
  | passed
  | failed
  | timedOut
  | cancelled
deriving DecidableEq

inductive TestStepState where
  | passed
  | failed
deriving DecidableEq

structure FailureCapsule where
  failedStepId : Option String
  message : String

/-- A result of a run, with the states of its steps. -/
structure TestRunResult where
  runId : Uuid
  workspaceId : Uuid
  journeyId : String
  state : TestRunState
  startedAtUnixMs : Int64
  completedAtUnixMs : Int64
  durationMs : UInt64
  steps : List TestStepState
  failure : Option FailureCapsule
  graphSha256 : Option String

structure TestRunSummary where
  schemaVersion : UInt32
  runId : Uuid
  workspaceId : Uuid
  journeyId : String
  title : String
  state : TestRunState
  startedAtUnixMs : Int64
  completedAtUnixMs : Option Int64
  durationMs : Option UInt64
  passedSteps : ℕ
  failedSteps : ℕ
  totalSteps : ℕ
  failedStepId : Option String
  message : Option String
  artifactsDisplayPath : String
  graphSha256 : Option String

structure TestRunManifest where
  schemaVersion : UInt32
  summary : TestRunSummary
  planSha256 : String
  resultSha256 : Option String

def TestRunResult.summary (result : TestRunResult) (title artifactsDisplayPath : String)
    (totalSteps : ℕ) : TestRunSummary :=
  let passedSteps := (result.steps.filter (· = .passed)).length
  { schemaVersion := testRunSchemaVersion
    runId := result.runId
    workspaceId := result.workspaceId
    journeyId := result.journeyId
    title := title
    state := result.state
    startedAtUnixMs := result.startedAtUnixMs
    completedAtUnixMs := some result.completedAtUnixMs
    durationMs := some result.durationMs
    passedSteps := passedSteps
    failedSteps := result.steps.length - passedSteps
    totalSteps := totalSteps
    failedStepId := result.failure.bind FailureCapsule.failedStepId
    message := result.failure.map FailureCapsule.message
    artifactsDisplayPath := artifactsDisplayPath
    graphSha256 := result.graphSha256 }

inductive TestArtifactStoreError where
  | invalidPath
  | unavailable
  | alreadyExists
  | notFound
  | invalidPlan
  | invalidData
  | invalidArtifact
  | artifactLimitExceeded
  | retentionExceeded
  | invalidRetention

/-- The limits that `TestArtifactRetention::new` accepts. -/
structure TestArtifactRetention where
  maximumRuns : ℕ
  maximumBytes : UInt64
  positive : 0 < maximumRuns ∧ 0 < maximumBytes

def TestArtifactRetention.new (maximumRuns : ℕ) (maximumBytes : UInt64) :
    Except TestArtifactStoreError TestArtifactRetention :=
  if positive : 0 < maximumRuns ∧ 0 < maximumBytes then
    .ok { maximumRuns := maximumRuns, maximumBytes := maximumBytes, positive := positive }
  else
    .error .invalidRetention

/-- The limits of `Default`. -/
instance : Inhabited TestArtifactRetention where
  default :=
    { maximumRuns := 8
      maximumBytes := 128 * 1024 * 1024
      positive := by decide }

/-- The directory of a run, which is named by its identifier, with what is in it. -/
structure RunFolder where
  runId : Uuid
  entries : List (String × Node)

/-- The directory of the runs, in the order in which it is listed. -/
structure RunStore where
  runs : List RunFolder
  distinct : (runs.map RunFolder.runId).Nodup

def RunStore.find (store : RunStore) (runId : Uuid) : Option RunFolder :=
  store.runs.find? fun run => run.runId = runId

def RunStore.erase (store : RunStore) (runId : Uuid) : RunStore where
  runs := store.runs.filter fun run => run.runId ≠ runId
  distinct := (List.filter_sublist.map _).nodup store.distinct

/-- The store with one directory in place of the one with its identifier. -/
def RunStore.put (store : RunStore) (run : RunFolder) : RunStore where
  runs := run :: (store.erase run.runId).runs
  distinct := by
    rw [List.map_cons, List.nodup_cons]
    refine ⟨?_, (store.erase run.runId).distinct⟩
    intro again
    obtain ⟨other, member, same⟩ := List.mem_map.1 again
    exact absurd same (by simpa [erase] using (List.mem_filter.1 member).2)

/-- The loop of `directory_size_safely`: the entries of a directory that are left, the directories that
are pending, and the total. -/
def sizeLoop : List (String × Node) → List (List (String × Node)) → ℕ →
    Except TestArtifactStoreError ℕ
  | [], [], total => .ok total
  | [], directory :: pending, total => sizeLoop directory pending total
  | (_, .symlink _) :: _, _, _ => .error .invalidPath
  | (_, .directory _ children) :: rest, pending, total => sizeLoop rest (children :: pending) total
  | (_, .file _ bytes) :: rest, pending, total =>
    if 2 ^ 64 ≤ total + bytes.length then .error .retentionExceeded
    else sizeLoop rest pending (total + bytes.length)
termination_by entries pending => sizeOf entries + sizeOf pending

def directorySizeSafely (run : RunFolder) : Except TestArtifactStoreError ℕ :=
  sizeLoop run.entries [] 0

/-- What the store meets: the clock, the paths and records as texts, and the reading of records. -/
structure RunStoreEnv where
  unixMsNow : Int64
  pathToDisplay : Uuid → Except TestArtifactStoreError String
  planJson : JourneyPlan → List UInt8
  manifestJson : TestRunManifest → List UInt8
  resultJson : TestRunResult → List UInt8
  /-- The header of a new file. -/
  header : Header
  /-- `read_run_record` with or without the digests of the artifacts. -/
  readRunRecord : RunFolder → Bool → Except TestArtifactStoreError TestRunManifest
  /-- The checks of `write_result` on the directory of the run. -/
  validateResult : RunFolder → TestRunResult → Except TestArtifactStoreError Unit

abbrev StoreCall := Proc RunStore TestArtifactStoreError

section Calls

variable (env : RunStoreEnv)

structure StoredTestRun where
  runId : Uuid
  recency : ℤ
  bytes : ℕ

def summaryRecency (summary : TestRunSummary) : ℤ :=
  max (summary.completedAtUnixMs.getD summary.startedAtUnixMs).toInt summary.startedAtUnixMs.toInt

/-- One entry of the first loop of `enforce_retention_protecting`. -/
def storedTestRun (run : RunFolder) : Except TestArtifactStoreError StoredTestRun := do
  let manifest ← env.readRunRecord run false
  let bytes ← directorySizeSafely run
  return { runId := run.runId, recency := summaryRecency manifest.summary, bytes := bytes }

/-- The key of the order: the protected run first, then the most recent one. -/
def testRunKey (protectedRunId : Option Uuid) (run : StoredTestRun) : ℕ ×ₗ ℤᵒᵈ ×ₗ Uuidᵒᵈ :=
  toLex (if some run.runId = protectedRunId then 0 else 1,
    toLex (OrderDual.toDual run.recency, OrderDual.toDual run.runId))

variable (retention : TestArtifactRetention) (protectedRunId : Option Uuid)

/-- The loop over the runs in their order: how many of them are retained. -/
def splitLoop : ℕ → ℕ → List StoredTestRun → Except TestArtifactStoreError ℕ
  | count, _, [] => .ok count
  | count, retainedBytes, run :: rest =>
    if 2 ^ 64 ≤ retainedBytes + run.bytes then .error .retentionExceeded
    else if count = retention.maximumRuns ∨
        retention.maximumBytes.toNat < retainedBytes + run.bytes then
      if some run.runId = protectedRunId then .error .retentionExceeded else .ok count
    else splitLoop (count + 1) (retainedBytes + run.bytes) rest

/-- `remove_tree_safely` of the runs that are not retained. -/
def removeLoop : List StoredTestRun → StoreCall Unit
  | [] => return ()
  | run :: rest =>
    if some run.runId = protectedRunId then fail .retentionExceeded
    else do
      change .unavailable fun store => store.erase run.runId
      removeLoop rest

def enforceRetentionProtecting : StoreCall Unit := do
  let store ← read
  let runs ← ofExcept (store.runs.mapM (storedTestRun env))
  let runs := runs.insertionSort fun left right =>
    testRunKey protectedRunId left ≤ testRunKey protectedRunId right
  let split ← ofExcept (splitLoop retention protectedRunId 0 0 runs)
  removeLoop protectedRunId (runs.drop split)

/-! ### Beginning and finalizing a run -/

def MANIFEST_FILE : String := "manifest.json"
def JOURNEY_FILE : String := "journey.json"
def RESULT_FILE : String := "result.json"
def MAX_PLAN_BYTES : ℕ := 256 * 1024
def MAX_RESULT_BYTES : ℕ := 1024 * 1024

/-- A read of the directory of a run. -/
def requireRunDirectory (runId : Uuid) : StoreCall RunFolder := do
  match (← read).find runId with
  | none => fail .notFound
  | some run => return run

def atomicReplaceBytes (runId : Uuid) (leaf : String) (bytes : List UInt8) (maximumBytes : ℕ) :
    StoreCall Unit := do
  if maximumBytes < bytes.length then fail .artifactLimitExceeded
  else
    let run ← requireRunDirectory runId
    let replace := change .unavailable fun store : RunStore =>
      store.put { run with entries := setChild leaf (some (.file env.header bytes)) run.entries }
    match child leaf run.entries with
    | none => replace
    | some (.file _ present) => if present.length ≤ maximumBytes then replace else fail .invalidPath
    | some _ => fail .invalidPath

/-- The part of `begin` after which a failure removes the directory. -/
def beginRun (plan : JourneyPlan) : StoreCall TestRunManifest := do
  let planBytes := env.planJson plan
  atomicReplaceBytes env plan.runId JOURNEY_FILE planBytes MAX_PLAN_BYTES
  let artifactsDisplayPath ← ofExcept (env.pathToDisplay plan.runId)
  let summary : TestRunSummary :=
    { schemaVersion := testRunSchemaVersion
      runId := plan.runId
      workspaceId := plan.workspaceId
      journeyId := plan.journeyId
      title := plan.title
      state := .running
      startedAtUnixMs := env.unixMsNow
      completedAtUnixMs := none
      durationMs := none
      passedSteps := 0
      failedSteps := 0
      totalSteps := plan.steps.length
      failedStepId := none
      message := none
      artifactsDisplayPath := artifactsDisplayPath
      graphSha256 := plan.graphSha256 }
  let manifest : TestRunManifest :=
    { schemaVersion := testRunSchemaVersion
      summary := summary
      planSha256 := Sha256.hexEncode (Sha256.sha256 planBytes)
      resultSha256 := none }
  atomicReplaceBytes env plan.runId MANIFEST_FILE (env.manifestJson manifest) MAX_RESULT_BYTES
  enforceRetentionProtecting env retention (some plan.runId)
  return manifest

def «begin» (plan : JourneyPlan) : StoreCall TestRunManifest := do
  match plan.validate with
  | .error _ => fail .invalidPlan
  | .ok _ =>
    match (← read).find plan.runId with
    | some _ => fail .alreadyExists
    | none =>
      change .unavailable fun store => store.put { runId := plan.runId, entries := [] }
      match ← attempt (beginRun env retention plan) with
      | .ok manifest => return manifest
      | .error error =>
        let _ ← tryChange fun store => store.erase plan.runId
        fail error

def writeResult (result : TestRunResult) : StoreCall Unit := do
  let run ← requireRunDirectory result.runId
  ofExcept (env.validateResult run result)
  atomicReplaceBytes env result.runId RESULT_FILE (env.resultJson result) MAX_RESULT_BYTES

/-- `sha256_file`. -/
def sha256File (run : RunFolder) (leaf : String) (maximumBytes : ℕ) :
    Except TestArtifactStoreError String :=
  match child leaf run.entries with
  | none => .error .notFound
  | some (.file _ bytes) =>
    if maximumBytes < bytes.length then .error .artifactLimitExceeded
    else .ok (Sha256.hexEncode (Sha256.sha256 bytes))
  | some _ => .error .artifactLimitExceeded

def finalize (result : TestRunResult) : StoreCall TestRunManifest := do
  if result.state = .running then fail .invalidData
  else
    let run ← requireRunDirectory result.runId
    let manifest ← ofExcept (env.readRunRecord run true)
    writeResult env result
    let artifactsDisplayPath ← ofExcept (env.pathToDisplay result.runId)
    let written ← requireRunDirectory result.runId
    let resultSha256 ← ofExcept (sha256File written RESULT_FILE MAX_RESULT_BYTES)
    let manifest : TestRunManifest :=
      { manifest with
        summary := result.summary manifest.summary.title artifactsDisplayPath
          manifest.summary.totalSteps
        resultSha256 := some resultSha256 }
    atomicReplaceBytes env result.runId MANIFEST_FILE (env.manifestJson manifest) MAX_RESULT_BYTES
    enforceRetentionProtecting env retention (some result.runId)
    return manifest

end Calls

end Wts.Testing
