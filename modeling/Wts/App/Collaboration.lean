/-
Module: Wts.App.Collaboration
Purpose: The coordinator of agent tasks: preparation and dependency validation of a plan, and the
  run of its phases in waves of ready tasks.
-/
import Wts.Library.EntryMap
import Wts.Library.Grouping
import Wts.Library.StdTypes
import Wts.Library.Text

namespace Wts.Collaboration

open Text
open Std (ExtTreeMap)

/-- The text of a caller-authored task identity. -/
abbrev CollaborationTaskId := String

inductive AgentProvider where
  | codex
  | openCode
  | hermes
  | copilot
deriving DecidableEq

structure CollaborationTask where
  taskId : CollaborationTaskId
  workspaceId : Uuid
  workspaceRoot : PathBuf
  scopeRoot : PathBuf
  provider : AgentProvider
  prompt : String
  phase : ℕ
  timeout : Duration

structure CollaborationLimits where
  maximumParallelAgents : ℕ
  maximumTasksPerRun : ℕ
  maximumTaskTimeout : Duration
  maximumPromptBytes : ℕ
  maximumOutputBytes : ℕ
  maximumRetainedEvidence : ℕ
  maximumRetainedEvidenceBytes : ℕ

inductive CollaborationConfigError where
  | zeroLimit
deriving DecidableEq

inductive CollaborationPlanError where
  | empty
  | tooManyTasks
  | duplicateTaskId (task : CollaborationTaskId)
  | invalidPrompt (task : CollaborationTaskId)
  | invalidTimeout (task : CollaborationTaskId)
  | invalidWorkspaceRoot (task : CollaborationTaskId)
  | workspaceIdentityMismatch (workspaceId : Uuid)
  | workspaceRootAlias (firstWorkspaceId secondWorkspaceId : Uuid)
  | overlappingWorkspaceRoots
  | scopeOutsideWorkspace (task : CollaborationTaskId)
  | overlappingTaskScopes
  | providerConfinementUnavailable (task : CollaborationTaskId)
  | unknownDependency
  | duplicateDependency
  | dependencyPhaseConflict
  | dependencyCycle
deriving DecidableEq

inductive CollaborationConfinement where
  | workspaceWriteIsolated
  | unverified
deriving DecidableEq

inductive CollaborationStopReason where
  | cancelled
  | timedOut

inductive CollaborationAdapterFailure where
  | unavailable
  | spawnFailed
  | providerFailed
deriving DecidableEq

inductive CollaborationAdapterOutcome where
  | succeeded (output : String)
  | failed (failure : CollaborationAdapterFailure) (output : String)
  | stopped (reason : CollaborationStopReason)

inductive CollaborationTaskState where
  | succeeded
  | providerFailed
  | adapterFailed
  | adapterPanicked
  | cancelled
  | timedOut
  | outputTooLarge
  | dependencyBlocked
deriving DecidableEq

structure CollaborationTaskResult where
  taskId : CollaborationTaskId
  workspaceId : Uuid
  provider : AgentProvider
  phase : ℕ
  state : CollaborationTaskState
  output : String
  failure : Option CollaborationAdapterFailure
  startedAtUnixMs : Option Int64
  completedAtUnixMs : Int64
  durationMs : UInt64

structure PreparedTask where
  taskId : CollaborationTaskId
  workspaceId : Uuid
  workspaceRoot : PathBuf
  scopeRoot : PathBuf
  provider : AgentProvider
  prompt : String
  phase : ℕ
  timeout : Duration
deriving DecidableEq

/-- The prerequisites of tasks, by task. -/
abbrev Dependencies := ExtTreeMap CollaborationTaskId (List CollaborationTaskId)

variable (limits : CollaborationLimits)

/-- The check of `CollaborationCoordinator::new`. -/
def checkLimits : Except CollaborationConfigError Unit :=
  if limits.maximumParallelAgents = 0 ∨ limits.maximumTasksPerRun = 0 ∨
      limits.maximumTaskTimeout = 0 ∨ limits.maximumPromptBytes = 0 ∨
      limits.maximumOutputBytes = 0 ∨ limits.maximumRetainedEvidence = 0 ∨
      limits.maximumRetainedEvidenceBytes = 0 then
    .error .zeroLimit
  else
    .ok ()

/-! ### Preparation -/

/-- The metadata of a path, symbolic links not followed. -/
structure PathMetadata where
  isDir : Bool
  isSymlink : Bool

/-- What preparation asks the adapter and the file system. -/
structure PlanHost where
  confinement : AgentProvider → CollaborationConfinement
  canonicalize : PathBuf → Option PathBuf
  symlinkMetadata : PathBuf → Option PathMetadata

/-- The collections that the loop of `prepare` fills. -/
structure PrepareState where
  taskIds : List CollaborationTaskId
  rootsByWorkspace : ExtTreeMap Uuid PathBuf
  ownersByRoot : ExtTreeMap PathBuf Uuid
  scopesByPhase : ExtTreeMap ℕ (List PathBuf)
  prepared : List PreparedTask

def pathsOverlap (left right : PathBuf) : Bool :=
  left.startsWith right || right.startsWith left

/-- Two entries of a list, the first before the second, overlap. -/
def anyOverlap : List PathBuf → Bool
  | [] => false
  | path :: rest => rest.any (fun other => pathsOverlap path other) || anyOverlap rest

/-- An absolute path to a directory that is not a symbolic link, in canonical form. -/
def canonicalDirectory (host : PlanHost) (path : PathBuf) : Option PathBuf :=
  if ¬ path.absolute then
    none
  else
    match host.canonicalize path with
    | none => none
    | some canonical =>
      match host.symlinkMetadata canonical with
      | none => none
      | some metadata => if metadata.isDir ∧ ¬ metadata.isSymlink then some canonical else none

/-- The loop body of `prepare`. -/
def prepareTask (host : PlanHost) (state : PrepareState)
    (task : CollaborationTask) : Except CollaborationPlanError PrepareState :=
  if task.taskId ∈ state.taskIds then
    .error (.duplicateTaskId task.taskId)
  else
    let prompt := trim task.prompt
    if prompt = "" ∨ prompt.utf8ByteSize > limits.maximumPromptBytes ∨
        prompt.toList.any fun c => c.toNat = 0 then
      .error (.invalidPrompt task.taskId)
    else if task.timeout = 0 ∨ task.timeout > limits.maximumTaskTimeout then
      .error (.invalidTimeout task.taskId)
    else if host.confinement task.provider ≠ .workspaceWriteIsolated then
      .error (.providerConfinementUnavailable task.taskId)
    else
      match canonicalDirectory host task.workspaceRoot with
      | none => .error (.invalidWorkspaceRoot task.taskId)
      | some workspaceRoot =>
        if (state.rootsByWorkspace[task.workspaceId]?).any fun root => root ≠ workspaceRoot then
          .error (.workspaceIdentityMismatch task.workspaceId)
        else
          match (state.ownersByRoot[workspaceRoot]?).filter fun owner =>
              owner ≠ task.workspaceId with
          | some owner => .error (.workspaceRootAlias owner task.workspaceId)
          | none =>
            match canonicalDirectory host task.scopeRoot with
            | none => .error (.scopeOutsideWorkspace task.taskId)
            | some scopeRoot =>
              if ¬ scopeRoot.startsWith workspaceRoot then
                .error (.scopeOutsideWorkspace task.taskId)
              else
                .ok
                  { taskIds := task.taskId :: state.taskIds
                    rootsByWorkspace :=
                      state.rootsByWorkspace.insert task.workspaceId workspaceRoot
                    ownersByRoot := state.ownersByRoot.insert workspaceRoot task.workspaceId
                    scopesByPhase :=
                      state.scopesByPhase.insert task.phase
                        ((state.scopesByPhase[task.phase]?).getD [] ++ [scopeRoot])
                    prepared := state.prepared ++
                      [{ taskId := task.taskId
                         workspaceId := task.workspaceId
                         workspaceRoot := workspaceRoot
                         scopeRoot := scopeRoot
                         provider := task.provider
                         prompt := prompt
                         phase := task.phase
                         timeout := task.timeout }] }

def prepareTasks (limits : CollaborationLimits) (host : PlanHost) :
    List CollaborationTask → PrepareState → Except CollaborationPlanError PrepareState
  | [], state => .ok state
  | task :: rest, state =>
    match prepareTask limits host state task with
    | .error error => .error error
    | .ok next => prepareTasks limits host rest next

def prepare (host : PlanHost) (tasks : List CollaborationTask) :
    Except CollaborationPlanError (List PreparedTask) :=
  if tasks = [] then
    .error .empty
  else if tasks.length > limits.maximumTasksPerRun then
    .error .tooManyTasks
  else
    match prepareTasks limits host tasks
        { taskIds := [], rootsByWorkspace := ∅, ownersByRoot := ∅, scopesByPhase := ∅,
          prepared := [] } with
    | .error error => .error error
    | .ok state =>
      if anyOverlap state.ownersByRoot.keys then
        .error .overlappingWorkspaceRoots
      else if state.scopesByPhase.values.any anyOverlap then
        .error .overlappingTaskScopes
      else
        .ok state.prepared

def taskPhases (tasks : List PreparedTask) : List (CollaborationTaskId × ℕ) :=
  tasks.map fun task => (task.taskId, task.phase)

/-- The loop over the prerequisites of one task. -/
def checkParents (phases : List (CollaborationTaskId × ℕ)) (phase : ℕ) :
    List CollaborationTaskId → List CollaborationTaskId → Except CollaborationPlanError Unit
  | [], _ => .ok ()
  | parent :: rest, seen =>
    match EntryMap.lastValue phases parent with
    | none => .error .unknownDependency
    | some parentPhase =>
      if parent ∈ seen then
        .error .duplicateDependency
      else if parentPhase > phase then
        .error .dependencyPhaseConflict
      else
        checkParents phases phase rest (parent :: seen)

/-- The loop over the entries of the dependency map. -/
def checkEntries (phases : List (CollaborationTaskId × ℕ)) :
    List (CollaborationTaskId × List CollaborationTaskId) → Except CollaborationPlanError Unit
  | [] => .ok ()
  | (task, parents) :: rest =>
    match EntryMap.lastValue phases task with
    | none => .error .unknownDependency
    | some phase =>
      match checkParents phases phase parents [] with
      | .error error => .error error
      | .ok () => checkEntries phases rest

variable (dependencies : Dependencies)

/-- The prerequisites of a task; a task without an entry has none. -/
def parentsOf (task : CollaborationTaskId) :
    List CollaborationTaskId :=
  (dependencies[task]?).getD []

/-- The tasks whose prerequisites are no longer among the remaining ones. -/
def readyTasks (remaining : List CollaborationTaskId) :
    List CollaborationTaskId :=
  remaining.filter fun task => (parentsOf dependencies task).all fun parent => parent ∉ remaining

def removeTasks (remaining gone : List CollaborationTaskId) : List CollaborationTaskId :=
  remaining.filter fun task => task ∉ gone

/-- The loop that removes ready tasks until none remain; without a ready task there is a cycle. -/
def removeReady (dependencies : Dependencies) (remaining : List CollaborationTaskId) :
    Except CollaborationPlanError Unit :=
  if remaining = [] then
    .ok ()
  else if readyTasks dependencies remaining = [] then
    .error .dependencyCycle
  else
    removeReady dependencies (removeTasks remaining (readyTasks dependencies remaining))
termination_by remaining.length
decreasing_by
  rename_i some_ready
  obtain ⟨task, ready⟩ := List.exists_mem_of_ne_nil _ some_ready
  apply List.length_filter_lt_length_iff_exists.2
  exact ⟨task, List.mem_of_mem_filter ready, by simpa using ready⟩

def validateDependencies (tasks : List PreparedTask) (dependencies : Dependencies) :
    Except CollaborationPlanError Unit :=
  match checkEntries (taskPhases tasks) dependencies.toList with
  | .error error => .error error
  | .ok () => removeReady dependencies (tasks.map (·.taskId))

def result (task : PreparedTask) (state : CollaborationTaskState) (output : String)
    (failure : Option CollaborationAdapterFailure) (startedAtUnixMs : Option Int64)
    (completedAtUnixMs : Int64) (durationMs : UInt64) : CollaborationTaskResult where
  taskId := task.taskId
  workspaceId := task.workspaceId
  provider := task.provider
  phase := task.phase
  state := state
  output := output
  failure := failure
  startedAtUnixMs := startedAtUnixMs
  completedAtUnixMs := completedAtUnixMs
  durationMs := durationMs

def stoppedState : CollaborationStopReason → CollaborationTaskState
  | .cancelled => .cancelled
  | .timedOut => .timedOut

/-- What happens while one task is executed: whether the gate admits it, the checkpoint before the
adapter call, the outcome of the call (none for a panic), and what is observed after it. -/
structure TaskRun where
  acquire : Except CollaborationStopReason Unit
  checkpoint : Except CollaborationStopReason Unit
  outcome : Option CollaborationAdapterOutcome
  cancelledAfter : Bool
  deadlinePassed : Bool
  startedAtUnixMs : Int64
  completedAtUnixMs : Int64
  durationMs : UInt64

/-- The execution gets as far as the adapter call. -/
def TaskRun.callsAdapter (run : TaskRun) : Bool :=
  match run.acquire, run.checkpoint with
  | .ok (), .ok () => true
  | _, _ => false

def executeTask (task : PreparedTask) (run : TaskRun) :
    CollaborationTaskResult :=
  let finish (state : CollaborationTaskState) (output : String)
      (failure : Option CollaborationAdapterFailure) :=
    result task state output failure (some run.startedAtUnixMs) run.completedAtUnixMs run.durationMs
  match run.acquire with
  | .error reason =>
    result task (stoppedState reason) "" none none run.completedAtUnixMs run.durationMs
  | .ok () =>
    match run.checkpoint with
    | .error reason => finish (stoppedState reason) "" none
    | .ok () =>
      if run.cancelledAfter then
        finish .cancelled "" none
      else if run.deadlinePassed then
        finish .timedOut "" none
      else
        match run.outcome with
        | none => finish .adapterPanicked "" none
        | some (.stopped reason) => finish (stoppedState reason) "" none
        | some (.succeeded output) =>
          if output.utf8ByteSize > limits.maximumOutputBytes then
            finish .outputTooLarge "" none
          else
            finish .succeeded output none
        | some (.failed failure output) =>
          if output.utf8ByteSize > limits.maximumOutputBytes then
            finish .outputTooLarge "" (some failure)
          else
            finish
              (if failure = .providerFailed then .providerFailed else .adapterFailed)
              output (some failure)

/-- The tasks of one phase by scope. -/
abbrev ScopeGroups := ExtTreeMap PathBuf (List PreparedTask)

/-- `entry(scope_root).or_default().push(task)`. -/
def addToScope (groups : ScopeGroups) (task : PreparedTask) : ScopeGroups :=
  Grouping.addTo (fun task : PreparedTask => task.scopeRoot) [] (fun tasks task => tasks ++ [task])
    groups task

/-- The tasks by phase and scope. -/
def phased (tasks : List PreparedTask) : ExtTreeMap ℕ ScopeGroups :=
  Grouping.collect compare (fun task : PreparedTask => task.phase) ∅ addToScope tasks

def scopeTasks (groups : ScopeGroups) : List PreparedTask :=
  groups.toList.flatMap fun entry => entry.2

/-- The tasks of every phase in the order of identifiers, the phases in their order. -/
def phaseGroups (tasks : List PreparedTask) : List (List PreparedTask) :=
  (phased tasks).toList.map fun entry =>
    (scopeTasks entry.2).insertionSort fun left right => left.taskId ≤ right.taskId

/-- The states of the tasks that have a result. -/
def completedStates (results : List CollaborationTaskResult) :
    List (CollaborationTaskId × CollaborationTaskState) :=
  results.map fun task => (task.taskId, task.state)

def completedState (results : List CollaborationTaskResult) (task : CollaborationTaskId) :
    Option CollaborationTaskState :=
  EntryMap.lastValue (completedStates results) task

/-- Every prerequisite has a result. -/
def readyForWave (results : List CollaborationTaskResult) (task : PreparedTask) : Bool :=
  (parentsOf dependencies task.taskId).all fun parent => (completedState results parent).isSome

/-- The prerequisites that did not succeed. -/
def failedParents (results : List CollaborationTaskResult)
    (task : PreparedTask) : List CollaborationTaskId :=
  (parentsOf dependencies task.taskId).filter fun parent =>
    completedState results parent ≠ some .succeeded

def blockedResult (task : PreparedTask)
    (failed : List CollaborationTaskId) (now : Int64) : CollaborationTaskResult :=
  let output := "This task did not start. These prerequisites did not succeed: " ++
    String.intercalate ", " failed ++ "."
  result task .dependencyBlocked
    (if output.utf8ByteSize > limits.maximumOutputBytes then "" else output) none none now 0

/-- A task in the hands of a worker. -/
structure Working where
  task : PreparedTask
  run : TaskRun
  invoked : Bool

/-- The state of a run. The list of invocations records the adapter calls and `waves` the waves; the
source keeps neither. -/
structure RunState where
  phases : List (List PreparedTask)
  pending : List PreparedTask
  runnable : List PreparedTask
  nextTask : ℕ
  working : List Working
  results : List CollaborationTaskResult
  invocations : List CollaborationTaskId
  waves : List (List CollaborationTaskId)

def initialState (tasks : List PreparedTask) : RunState where
  phases := phaseGroups tasks
  pending := []
  runnable := []
  nextTask := 0
  working := []
  results := []
  invocations := []
  waves := []

/-- All workers of the current wave have ended. -/
def RunState.waveDone (state : RunState) : Prop :=
  state.runnable.length ≤ state.nextTask ∧ state.working = []

def RunState.finished (state : RunState) : Prop :=
  state.phases = [] ∧ state.pending = [] ∧ state.waveDone

/-- The head of the wave loop: the ready tasks leave the pending ones, and those with failed
prerequisites get their result at once. -/
def startWave (dependencies : Dependencies)
    (now : CollaborationTaskId → Int64) (state : RunState) : RunState :=
  let wave := state.pending.filter fun task => readyForWave dependencies state.results task
  let waiting := state.pending.filter fun task => ¬ readyForWave dependencies state.results task
  let blocked := wave.filter fun task => failedParents dependencies state.results task ≠ []
  { state with
    pending := waiting
    runnable := wave.filter fun task => failedParents dependencies state.results task = []
    nextTask := 0
    results := state.results ++ blocked.map fun task =>
      blockedResult limits task (failedParents dependencies state.results task) (now task.taskId)
    waves := state.waves ++ [wave.map (·.taskId)] }

/-- The number of workers of the current wave. -/
def workerCount (state : RunState) : ℕ :=
  min state.runnable.length limits.maximumParallelAgents

/-- One step of a run. -/
inductive Step (limits : CollaborationLimits) (dependencies : Dependencies) :
    RunState → RunState → Prop where
  | nextPhase (state : RunState) (group : List PreparedTask) (rest : List (List PreparedTask))
      (done : state.waveDone) (noPending : state.pending = [])
      (more : state.phases = group :: rest) :
      Step limits dependencies state
        { state with phases := rest, pending := group, runnable := [], nextTask := 0 }
  | nextWave (state : RunState) (now : CollaborationTaskId → Int64) (done : state.waveDone)
      (more : state.pending ≠ []) :
      Step limits dependencies state (startWave limits dependencies now state)
  | claim (state : RunState) (task : PreparedTask) (run : TaskRun)
      (idle : state.working.length < workerCount limits state)
      (next : state.runnable[state.nextTask]? = some task) :
      Step limits dependencies state
        { state with
          nextTask := state.nextTask + 1
          working := state.working ++ [{ task := task, run := run, invoked := false }] }
  | invoke (state : RunState) (before after : List Working) (worker : Working)
      (holds : state.working = before ++ worker :: after) (calls : worker.run.callsAdapter = true)
      (fresh : worker.invoked = false) :
      Step limits dependencies state
        { state with
          working := before ++ { worker with invoked := true } :: after
          invocations := state.invocations ++ [worker.task.taskId] }
  | finish (state : RunState) (before after : List Working) (worker : Working)
      (holds : state.working = before ++ worker :: after)
      (returned : worker.invoked = worker.run.callsAdapter) :
      Step limits dependencies state
        { state with
          working := before ++ after
          results := state.results ++ [executeTask limits worker.task worker.run] }

/-- The tasks of the report: by phase, then by identifier. -/
def report (results : List CollaborationTaskResult) : List CollaborationTaskResult :=
  results.insertionSort fun left right =>
    left.phase < right.phase ∨ left.phase = right.phase ∧ left.taskId ≤ right.taskId

end Wts.Collaboration
