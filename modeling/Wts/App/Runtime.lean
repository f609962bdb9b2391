/-
Module: Wts.App.Runtime
Purpose: The supervisor of workspace-scoped service stacks: preparation of a request, port
  reservation, the start loop with its exits, readiness polling, inspection and the two ways to stop
  stacks.
-/
import Wts.Library.StdTypes
import Wts.Library.Text

namespace Wts.Runtime

open Text

/-! ### Data -/

def maxStackIdBytes : ℕ := 96
def maxServiceIdBytes : ℕ := 96
def maxExecutableBytes : ℕ := 4 * 1024
def maxArguments : ℕ := 128
def maxArgumentBytes : ℕ := 16 * 1024
def maxEnvironmentEntries : ℕ := 64
def maxEnvironmentValueBytes : ℕ := 16 * 1024
def observationConnectTimeout : Duration := millis 50

structure RuntimeLimits where
  maxStacks : ℕ
  maxServicesPerStack : ℕ
  maxServicesTotal : ℕ
  maxStartupTimeout : Duration
  healthPollInterval : Duration
  maxWorkspaceDiskBytes : ℕ

inductive RuntimeHealthCheck where
  | process
  | tcp
deriving DecidableEq

/-- The environment is the entry list of the ordered map of the source. -/
structure RuntimeServiceRequest where
  id : String
  workingDirectory : PathBuf
  executable : String
  args : List String
  environment : List (String × String)
  preferredPort : UInt16
  dependsOn : List String
  healthCheck : RuntimeHealthCheck
  startupTimeout : Duration

structure RuntimeStackRequest where
  workspaceId : Uuid
  stackId : String
  workspaceRoot : PathBuf
  services : List RuntimeServiceRequest

structure RuntimeStackKey where
  workspaceId : Uuid
  stackId : String
deriving DecidableEq

instance : Ord RuntimeStackKey where
  compare := compareLex (compareOn RuntimeStackKey.workspaceId) (compareOn RuntimeStackKey.stackId)

instance : Std.TransOrd RuntimeStackKey :=
  inferInstanceAs (Std.TransCmp
    (compareLex (compareOn RuntimeStackKey.workspaceId) (compareOn RuntimeStackKey.stackId)))

instance : Std.LawfulEqOrd RuntimeStackKey where
  eq_of_compare := by
    intro first second equal
    change compareLex (compareOn RuntimeStackKey.workspaceId) (compareOn RuntimeStackKey.stackId)
      first second = .eq at equal
    rw [compareLex_eq_eq] at equal
    have workspaceId := Std.LawfulEqOrd.eq_of_compare equal.1
    have stackId := Std.LawfulEqOrd.eq_of_compare equal.2
    cases first
    cases second
    simp only at workspaceId stackId
    rw [workspaceId, stackId]

structure RuntimeEndpoint where
  host : String
  port : UInt16
deriving DecidableEq

inductive RuntimeServiceState where
  | starting
  | running
  | healthy
  | unhealthy
  | exited
  | stopped
deriving DecidableEq

inductive RuntimeStackState where
  | starting
  | healthy
  | degraded
  | stopped
deriving DecidableEq

structure RuntimeServiceSnapshot where
  id : String
  endpoint : RuntimeEndpoint
  processId : UInt32
  state : RuntimeServiceState
  exitCode : Option Int32
  startedAtUnixMs : UInt64
  observedAtUnixMs : UInt64
deriving DecidableEq

structure RuntimeStackSnapshot where
  key : RuntimeStackKey
  workspaceRootDisplayPath : String
  state : RuntimeStackState
  services : List RuntimeServiceSnapshot
  startedAtUnixMs : UInt64
  observedAtUnixMs : UInt64
deriving DecidableEq

inductive RuntimeError where
  | invalidLimits
  | invalidStackId
  | emptyStack
  | capacityExceeded
  | workspaceDiskBudgetExceeded
  | invalidServiceId (service : String)
  | duplicateService (service : String)
  | ambiguousServiceEnvironment
  | unknownDependency (service dependency : String)
  | dependencyCycle
  | invalidWorkspaceRoot
  | workingDirectoryOutsideWorkspace (service : String)
  | invalidExecutable (service : String)
  | invalidArguments (service : String)
  | invalidEnvironment (service : String)
  | invalidPreferredPort (service : String)
  | invalidStartupTimeout (service : String)
  | portUnavailable (service : String)
  | alreadyRunning
  | stackNotFound
  | processStartFailed (service : String)
  | startupExited (service : String)
  | startupTimedOut (service : String)
  | processObservationFailed (service : String)
  | cleanupFailed
  | cancelled
  | stateUnavailable
deriving DecidableEq

/-- A child process, known by its process identifier. -/
structure Child where
  id : UInt32
deriving DecidableEq

structure ManagedService where
  id : String
  endpoint : RuntimeEndpoint
  child : Child
  state : RuntimeServiceState
  exitCode : Option Int32
  startedAtUnixMs : UInt64
  observedAtUnixMs : UInt64
  reaped : Bool
  healthCheck : RuntimeHealthCheck
deriving DecidableEq

structure ManagedStack where
  key : RuntimeStackKey
  workspaceRoot : PathBuf
  services : List ManagedService
  startedAtUnixMs : UInt64

/-- The stacks by key, the state behind the lock of the supervisor. -/
abbrev Registry := Std.ExtTreeMap RuntimeStackKey ManagedStack

structure RuntimeSupervisor where
  limits : RuntimeLimits
  registry : Registry

structure PreparedStack where
  key : RuntimeStackKey
  workspaceRoot : PathBuf
  services : List RuntimeServiceRequest

structure ReservedService where
  request : RuntimeServiceRequest
  endpoint : RuntimeEndpoint

def newSupervisor (limits : RuntimeLimits) : Except RuntimeError RuntimeSupervisor :=
  if limits.maxStacks = 0 ∨ limits.maxServicesPerStack = 0 ∨ limits.maxServicesTotal = 0 ∨
      limits.maxStartupTimeout = 0 ∨ limits.healthPollInterval = 0 ∨
      limits.maxWorkspaceDiskBytes = 0 then
    .error .invalidLimits
  else
    .ok { limits := limits, registry := ∅ }

def ManagedService.snapshot (service : ManagedService) : RuntimeServiceSnapshot where
  id := service.id
  endpoint := service.endpoint
  processId := service.child.id
  state := service.state
  exitCode := service.exitCode
  startedAtUnixMs := service.startedAtUnixMs
  observedAtUnixMs := service.observedAtUnixMs

def stackState (services : List ManagedService) : RuntimeStackState :=
  if services.all fun service => service.state = .stopped then
    .stopped
  else if services.all fun service => service.state = .healthy ∨ service.state = .running then
    .healthy
  else if services.any fun service => service.state = .starting then
    .starting
  else
    .degraded

def ManagedStack.snapshot (stack : ManagedStack) : RuntimeStackSnapshot where
  key := stack.key
  workspaceRootDisplayPath := stack.workspaceRoot.display
  state := stackState stack.services
  services := stack.services.map ManagedService.snapshot
  startedAtUnixMs := stack.startedAtUnixMs
  observedAtUnixMs :=
    (stack.services.map (·.observedAtUnixMs)).max?.getD stack.startedAtUnixMs

/-! ### Preparation -/

def validIdentifier (value : String) (maxBytes : ℕ) : Bool :=
  value ≠ "" ∧ value.utf8ByteSize ≤ maxBytes ∧
    value.toList.all fun c => isAsciiAlphanumeric c ∨ c = '-' ∨ c = '_' ∨ c = '.'

def environmentToken (serviceId : String) : String :=
  String.ofList ((utf8Bytes serviceId).map fun byte =>
    let c := Char.ofNat byte.toNat
    if isAsciiAlphanumeric c then c.toUpper else '_')

def validEnvironmentName (name : String) : Bool :=
  match name.toList with
  | [] => false
  | first :: rest =>
    (first.isAlpha ∨ first = '_') ∧ rest.all fun c => isAsciiAlphanumeric c ∨ c = '_'

def reservedEnvironmentName (name : String) : Bool :=
  name ∈ ["PORT", "HOST", "WTS_PORT", "WTS_HOST", "WTS_WORKSPACE_ID", "WTS_STACK_ID",
    "WTS_SERVICE_ID"] ∨ "WTS_SERVICE_".toList.isPrefixOf name.toList

def hasNul (value : String) : Bool :=
  value.toList.any fun c => c.toNat = 0

def validateCommand (service : RuntimeServiceRequest) : Except RuntimeError Unit :=
  if service.executable = "" ∨ trim service.executable ≠ service.executable ∨
      service.executable.utf8ByteSize > maxExecutableBytes ∨ hasNul service.executable then
    .error (.invalidExecutable service.id)
  else if service.args.length > maxArguments ∨ service.args.any fun argument =>
      argument.utf8ByteSize > maxArgumentBytes ∨ hasNul argument then
    .error (.invalidArguments service.id)
  else if service.environment.length > maxEnvironmentEntries ∨ service.environment.any fun entry =>
      ¬ validEnvironmentName entry.1 ∨ reservedEnvironmentName entry.1 ∨
        entry.2.utf8ByteSize > maxEnvironmentValueBytes ∨ hasNul entry.2 then
    .error (.invalidEnvironment service.id)
  else
    .ok ()

/-- The ordered map of service requests by identifier. -/
abbrev ServiceMap := Std.ExtTreeMap String RuntimeServiceRequest

/-- The checks of one service request, in the order of the loop body of `prepare_stack`. -/
def prepareService (canonicalDirectory : PathBuf → Option PathBuf) (workspaceRoot : PathBuf)
    (services : ServiceMap) (environmentTokens : List String) (request : RuntimeServiceRequest) :
    Except RuntimeError RuntimeServiceRequest :=
  let service := { request with id := trim request.id }
  if ¬ validIdentifier service.id maxServiceIdBytes then
    .error (.invalidServiceId service.id)
  else if services.contains service.id then
    .error (.duplicateService service.id)
  else if environmentToken service.id ∈ environmentTokens then
    .error .ambiguousServiceEnvironment
  else
    match canonicalDirectory service.workingDirectory with
    | none => .error (.workingDirectoryOutsideWorkspace service.id)
    | some workingDirectory =>
      if workingDirectory ≠ service.workingDirectory ∨
          ¬ workingDirectory.startsWith workspaceRoot then
        .error (.workingDirectoryOutsideWorkspace service.id)
      else
        match validateCommand service with
        | .error error => .error error
        | .ok () =>
          if service.preferredPort = 0 then
            .error (.invalidPreferredPort service.id)
          else if service.startupTimeout = 0 then
            .error (.invalidStartupTimeout service.id)
          else
            .ok { service with dependsOn := sortDedup service.dependsOn }

/-- The loop that collects the service requests by identifier. -/
def collectServices (canonicalDirectory : PathBuf → Option PathBuf) (workspaceRoot : PathBuf) :
    List RuntimeServiceRequest → ServiceMap → List String → Except RuntimeError ServiceMap
  | [], services, _ => .ok services
  | request :: rest, services, environmentTokens =>
    match prepareService canonicalDirectory workspaceRoot services environmentTokens request with
    | .error error => .error error
    | .ok service =>
      collectServices canonicalDirectory workspaceRoot rest (services.insert service.id service)
        (environmentToken service.id :: environmentTokens)

/-- The first dependency that no service of the stack has as its identifier. -/
def unknownDependency (services : ServiceMap) : Option (String × String) :=
  (services.toList.flatMap fun entry =>
    entry.2.dependsOn.map fun dependency => (entry.2.id, dependency)).find?
      fun edge => ¬ services.contains edge.2

/-- The `usize` decrement of a counter, which wraps at zero in a release build. -/
def decrement (count : ℕ) : ℕ :=
  (count + (2 ^ 64 - 1)) % 2 ^ 64

structure OrderState where
  incoming : Std.ExtTreeMap String ℕ
  ready : Std.ExtTreeSet String
  order : List String

/-- One dependant of a placed service: its counter goes down, and it is ready at zero. -/
def releaseDependant (state : OrderState) (dependant : String) : OrderState :=
  let count := decrement ((state.incoming[dependant]?).getD 0)
  { state with
    incoming := state.incoming.insert dependant count
    ready := if count = 0 then state.ready.insert dependant else state.ready }

/-- The dependants of a service, in the order of the map that lists them. -/
def dependants (services : ServiceMap) (id : String) : List String :=
  services.toList.flatMap fun entry =>
    (entry.2.dependsOn.filter fun dependency => dependency = id).map fun _ => entry.2.id

/-- The loop of `dependency_order`: the smallest ready identifier comes next. The first argument
bounds the turns. -/
def orderServices (services : ServiceMap) : ℕ → OrderState → OrderState
  | 0, state => state
  | turns + 1, state =>
    match state.ready.toList.head? with
    | none => state
    | some id =>
      orderServices services turns
        ((dependants services id).foldl releaseDependant
          { state with ready := state.ready.erase id, order := state.order ++ [id] })

/-- `dependency_order`. Every turn places one service, so there are at most as many turns as
services. -/
def dependencyOrder (services : ServiceMap) : Except RuntimeError (List String) :=
  let incoming := services.map fun _ service => service.dependsOn.length
  let ready := (incoming.toList.filter fun entry => entry.2 = 0).map Prod.fst
  let final := orderServices services services.size
    { incoming := incoming, ready := Std.ExtTreeSet.ofList ready, order := [] }
  if final.order.length = services.size then .ok final.order else .error .dependencyCycle

/-- The requests in the given order, each taken out of the map once. -/
def takeServices : List String → ServiceMap → List RuntimeServiceRequest
  | [], _ => []
  | id :: rest, services =>
    match services[id]? with
    | none => takeServices rest services
    | some service => service :: takeServices rest (services.erase id)

def prepareStack (canonicalDirectory : PathBuf → Option PathBuf) (request : RuntimeStackRequest)
    (limits : RuntimeLimits) : Except RuntimeError PreparedStack :=
  if ¬ validIdentifier request.stackId maxStackIdBytes then
    .error .invalidStackId
  else if request.services = [] then
    .error .emptyStack
  else if request.services.length > limits.maxServicesPerStack ∨
      request.services.length > limits.maxServicesTotal then
    .error .capacityExceeded
  else
    match canonicalDirectory request.workspaceRoot with
    | none => .error .invalidWorkspaceRoot
    | some workspaceRoot =>
      if workspaceRoot ≠ request.workspaceRoot then
        .error .invalidWorkspaceRoot
      else
        match collectServices canonicalDirectory workspaceRoot request.services ∅ [] with
        | .error error => .error error
        | .ok services =>
          match unknownDependency services with
          | some (service, dependency) => .error (.unknownDependency service dependency)
          | none =>
            match dependencyOrder services with
            | .error error => .error error
            | .ok orderedIds =>
              .ok
                { key :=
                    { workspaceId := request.workspaceId, stackId := request.stackId }
                  workspaceRoot := workspaceRoot
                  services := takeServices orderedIds services }

/-- The least port from the preferred one upwards that is not claimed and that can be bound. -/
def reservePort (binds : UInt16 → Bool) (preferred : UInt16) (claimedPorts : List UInt16) :
    Option UInt16 :=
  ((List.range' preferred.toNat (UInt16.size - preferred.toNat)).map UInt16.ofNat).find?
    fun port => port ∉ claimedPorts ∧ binds port

/-- Ports for all services in turn. What can be bound may change from one service to the next. -/
def reserveServices : List RuntimeServiceRequest → (ℕ → UInt16 → Bool) → List UInt16 →
    Except RuntimeError (List ReservedService)
  | [], _, _ => .ok []
  | request :: rest, binds, claimedPorts =>
    match reservePort (binds 0) request.preferredPort claimedPorts with
    | none => .error (.portUnavailable request.id)
    | some port =>
      match reserveServices rest (fun n => binds (n + 1)) (port :: claimedPorts) with
      | .error error => .error error
      | .ok reserved =>
        .ok ({ request := request, endpoint := { host := "127.0.0.1", port := port } } ::
          reserved)

inductive KillResult where
  | killed
  | noSuchProcess
  | failed
deriving DecidableEq

/-- What happens while one process group is terminated. -/
structure Termination where
  kill : KillResult
  waits : Bool
  now : UInt64

/-- `terminate_process_group` on Unix: whether it returns without an error. A process that was not
reaped before is waited for. -/
def terminateProcessGroup (termination : Termination) (child : Child) (alreadyReaped : Bool) :
    Bool :=
  child.id.toNat < 2 ^ 31 ∧ termination.kill ≠ .failed ∧ (alreadyReaped ∨ termination.waits)

/-- The loop body of `stop_services`. -/
def stopService (termination : Termination) (service : ManagedService) : ManagedService × Bool :=
  if terminateProcessGroup termination service.child service.reaped then
    ({ service with
        state := .stopped, reaped := true, observedAtUnixMs := termination.now }, true)
  else
    ({ service with state := .unhealthy, observedAtUnixMs := termination.now }, false)

/-- `stop_services`: from the last service to the first. The terminations are numbered from the end
of the list. -/
def stopServices (terminations : ℕ → Termination) : List ManagedService → List ManagedService × Bool
  | [] => ([], true)
  | service :: rest =>
    let later := stopServices terminations rest
    let stopped := stopService (terminations rest.length) service
    (stopped.1 :: later.1, later.2 && stopped.2)

inductive WaitStatus where
  | exited (code : Option Int32)
  | running
  | failed

/-- One turn of the readiness loop as the service and the caller let it happen: the cancellation
flag, the clocks, the process status, and whether a connection succeeds within a time. -/
structure Poll where
  cancelled : Bool
  now : UInt64
  tryWait : WaitStatus
  elapsed : Duration
  elapsedLater : Duration
  accepts : Duration → Bool

def adaptivePollInterval (base elapsed : Duration) : Duration :=
  let steps := min (elapsed / millis 1 / 500) 4
  min (base * 2 ^ steps) (seconds 2)

/-- `endpoint_accepts` with its least connect timeout. -/
def endpointAccepts (accepts : Duration → Bool) (timeout : Duration) : Bool :=
  accepts (max timeout (millis 1))

/-- `wait_until_ready` over the turns that the loop makes. There is no result when the turns end
before the loop does. -/
def waitUntilReady (service : ManagedService) (timeout pollInterval : Duration) :
    List Poll → Option (ManagedService × Except RuntimeError Unit)
  | [] => none
  | poll :: later =>
    if poll.cancelled then
      some (service, .error .cancelled)
    else
      let service := { service with observedAtUnixMs := poll.now }
      match poll.tryWait with
      | .exited code =>
        some ({ service with state := .exited, exitCode := code, reaped := true },
          .error (.startupExited service.id))
      | .failed => some (service, .error (.processObservationFailed service.id))
      | .running =>
        if service.healthCheck = .process then
          some ({ service with state := .running }, .ok ())
        else if poll.elapsed ≥ timeout then
          some ({ service with state := .unhealthy }, .error (.startupTimedOut service.id))
        else
          let adaptivePoll := adaptivePollInterval pollInterval poll.elapsedLater
          let connectTimeout := min adaptivePoll (timeout - poll.elapsed)
          if endpointAccepts poll.accepts connectTimeout then
            some ({ service with state := .healthy }, .ok ())
          else
            waitUntilReady service timeout pollInterval later

/-! ### Starting a stack -/

/-- What happens while one service is started: the cancellation flag at the head of the loop, the
error of creating the log directory, the spawned process, the clock, and the readiness polls. -/
structure ServiceRun where
  cancelled : Bool
  logDirectoryError : Option String
  spawn : Option Child
  now : UInt64
  polls : List Poll

/-- What happens during a call of `start_stack_cancellable`. -/
structure StartRun where
  canonicalDirectory : PathBuf → Option PathBuf
  workspaceDiskBytes : PathBuf → Option ℕ
  lockPoisoned : Bool
  processRssKib : UInt32 → Option ℕ
  binds : ℕ → UInt16 → Bool
  now : UInt64
  services : ℕ → ServiceRun
  terminations : ℕ → Termination

def registeredServices (registry : Registry) : List ManagedService :=
  registry.toList.flatMap fun entry => entry.2.services

def claimedPorts (registry : Registry) : List UInt16 :=
  (registeredServices registry).map fun service => service.endpoint.port

/-- The memory of all supervised processes, if every one of them can be measured. -/
def supervisedRssKib (processRssKib : UInt32 → Option ℕ) (registry : Registry) : Option ℕ :=
  ((registeredServices registry).mapM fun service => processRssKib service.child.id).map List.sum

variable (supervisor : RuntimeSupervisor)

/-- The part of `start_stack_cancellable` before its loop: preparation, the admission checks and the
reservation of ports. -/
def admitStack (request : RuntimeStackRequest) (run : StartRun) :
    Except RuntimeError (PreparedStack × List ReservedService) :=
  match prepareStack run.canonicalDirectory request supervisor.limits with
  | .error error => .error error
  | .ok prepared =>
    if (run.workspaceDiskBytes prepared.workspaceRoot).any
        fun bytes => bytes > supervisor.limits.maxWorkspaceDiskBytes then
      .error .workspaceDiskBudgetExceeded
    else if run.lockPoisoned then
      .error .stateUnavailable
    else if supervisor.registry.contains prepared.key then
      .error .alreadyRunning
    else if (supervisedRssKib run.processRssKib supervisor.registry).any
        fun rss => rss ≥ 512 * 1024 then
      .error .capacityExceeded
    else if supervisor.registry.size ≥ supervisor.limits.maxStacks ∨
        (registeredServices supervisor.registry).length + prepared.services.length >
          supervisor.limits.maxServicesTotal then
      .error .capacityExceeded
    else
      match reserveServices prepared.services run.binds (claimedPorts supervisor.registry) with
      | .error error => .error error
      | .ok reserved => .ok (prepared, reserved)

/-- How the turn of the start loop for one service ends. -/
inductive ServiceTurn where
  | interrupted (error : RuntimeError)
  | spawnFailed (error : RuntimeError)
  | notReady (service : ManagedService) (error : RuntimeError)
  | ready (service : ManagedService)

/-- The managed service of a process that was just spawned. -/
def spawnedService (reserved : ReservedService) (child : Child) (now : UInt64) : ManagedService where
  id := reserved.request.id
  endpoint := reserved.endpoint
  child := child
  state := .starting
  exitCode := none
  startedAtUnixMs := now
  observedAtUnixMs := now
  reaped := false
  healthCheck := reserved.request.healthCheck

/-- The loop body of `start_stack_cancellable` up to its exits. The command itself is not part of
the model; only the error of its construction matters here. -/
def startService (limits : RuntimeLimits) (run : ServiceRun) (reserved : ReservedService) :
    Option ServiceTurn :=
  if run.cancelled then
    some (.interrupted .cancelled)
  else
    match run.logDirectoryError with
    | some error => some (.interrupted (.processStartFailed error))
    | none =>
      match run.spawn with
      | none => some (.spawnFailed (.processStartFailed reserved.request.id))
      | some child =>
        let startupTimeout := min reserved.request.startupTimeout limits.maxStartupTimeout
        match waitUntilReady (spawnedService reserved child run.now) startupTimeout
            limits.healthPollInterval run.polls with
        | none => none
        | some (service, .ok ()) => some (.ready service)
        | some (service, .error error) => some (.notReady service error)

/-- How the start loop ends: with all services or with an error, the processes that were spawned,
and the services that were passed to `stop_services`, as they are afterwards. -/
structure LoopEnd where
  result : Except RuntimeError (List ManagedService)
  spawned : List Child
  stopped : List ManagedService

/-- An exit through `stop_services`. -/
def exitStopping (terminations : ℕ → Termination) (services : List ManagedService)
    (error : RuntimeError) : LoopEnd :=
  let cleanup := stopServices terminations services
  { result := .error (if cleanup.2 then error else .cleanupFailed)
    spawned := services.map (·.child)
    stopped := cleanup.1 }

/-- The start loop with the services that have been started so far. There is no result when a
readiness loop does not end. -/
def startServices (limits : RuntimeLimits) (run : StartRun) :
    List ReservedService → List ManagedService → Option LoopEnd
  | [], services =>
    some { result := .ok services, spawned := services.map (·.child), stopped := [] }
  | reserved :: rest, services =>
    match startService limits (run.services services.length) reserved with
    | none => none
    | some (.interrupted error) =>
      -- this exit returns at once, without a call of `stop_services`
      some { result := .error error, spawned := services.map (·.child), stopped := [] }
    | some (.spawnFailed error) => some (exitStopping run.terminations services error)
    | some (.notReady service error) =>
      some (exitStopping run.terminations (services ++ [service]) error)
    | some (.ready service) => startServices limits run rest (services ++ [service])

/-- What a call of `start_stack_cancellable` returns and leaves behind. -/
structure StartOutcome where
  result : Except RuntimeError RuntimeStackSnapshot
  supervisor : RuntimeSupervisor
  spawned : List Child
  stopped : List ManagedService

def startStackCancellable (request : RuntimeStackRequest) (run : StartRun) : Option StartOutcome :=
  match admitStack supervisor request run with
  | .error error =>
    some { result := .error error, supervisor := supervisor, spawned := [], stopped := [] }
  | .ok (prepared, reserved) =>
    match startServices supervisor.limits run reserved [] with
    | none => none
    | some { result := .error error, spawned, stopped } =>
      some { result := .error error, supervisor := supervisor, spawned, stopped }
    | some { result := .ok services, spawned, stopped } =>
      let stack : ManagedStack :=
        { key := prepared.key
          workspaceRoot := prepared.workspaceRoot
          services := services
          startedAtUnixMs := run.now }
      some
        { result := .ok stack.snapshot
          supervisor :=
            { supervisor with registry := supervisor.registry.insert prepared.key stack }
          spawned
          stopped }

/-- What happens while one service is observed. -/
structure Observation where
  now : UInt64
  tryWait : WaitStatus
  accepts : Duration → Bool

def observeService (observation : Observation) (service : ManagedService) :
    ManagedService × Except RuntimeError Unit :=
  let service := { service with observedAtUnixMs := observation.now }
  match observation.tryWait with
  | .exited code => ({ service with state := .exited, exitCode := code, reaped := true }, .ok ())
  | .running =>
    let state :=
      match service.healthCheck with
      | .process => .running
      | .tcp =>
        if endpointAccepts observation.accepts observationConnectTimeout then .healthy
        else .unhealthy
    ({ service with state := state }, .ok ())
  | .failed => (service, .error (.processObservationFailed service.id))

/-- The loop of `inspect_stack`, which stops at the first service that cannot be observed. -/
def observeServices : List ManagedService → (ℕ → Observation) →
    List ManagedService × Except RuntimeError Unit
  | [], _ => ([], .ok ())
  | service :: rest, observations =>
    match observeService (observations 0) service with
    | (service, .error error) => (service :: rest, .error error)
    | (service, .ok ()) =>
      let later := observeServices rest fun n => observations (n + 1)
      (service :: later.1, later.2)

def inspectStack (key : RuntimeStackKey) (lockPoisoned : Bool) (observations : ℕ → Observation) :
    RuntimeSupervisor × Except RuntimeError RuntimeStackSnapshot :=
  if lockPoisoned then
    (supervisor, .error .stateUnavailable)
  else
    match supervisor.registry[key]? with
    | none => (supervisor, .error .stackNotFound)
    | some stack =>
      let observed := observeServices stack.services observations
      let stack := { stack with services := observed.1 }
      ({ supervisor with registry := supervisor.registry.insert key stack },
        observed.2.map fun _ => stack.snapshot)

def stopStack (key : RuntimeStackKey) (lockPoisoned : Bool) (terminations : ℕ → Termination) :
    RuntimeSupervisor × Except RuntimeError RuntimeStackSnapshot :=
  if lockPoisoned then
    (supervisor, .error .stateUnavailable)
  else
    match supervisor.registry[key]? with
    | none => (supervisor, .error .stackNotFound)
    | some stack =>
      let removed := supervisor.registry.erase key
      let cleanup := stopServices terminations stack.services
      let stack := { stack with services := cleanup.1 }
      if cleanup.2 then
        ({ supervisor with registry := removed }, .ok stack.snapshot)
      else
        ({ supervisor with registry := removed.insert key stack }, .error .cleanupFailed)

/-- The loop of `stop_all`: the stacks that could not be stopped are inserted again. -/
def stopEach (terminations : RuntimeStackKey → ℕ → Termination) :
    List (RuntimeStackKey × ManagedStack) → Registry → Registry × List RuntimeStackSnapshot × Bool
  | [], registry => (registry, [], true)
  | (key, stack) :: rest, registry =>
    let cleanup := stopServices (terminations key) stack.services
    let stack := { stack with services := cleanup.1 }
    let later := stopEach terminations rest (if cleanup.2 then registry else registry.insert key stack)
    (later.1, stack.snapshot :: later.2.1, cleanup.2 && later.2.2)

def stopAll (lockPoisoned : Bool) (terminations : RuntimeStackKey → ℕ → Termination) :
    RuntimeSupervisor × Except RuntimeError (List RuntimeStackSnapshot) :=
  if lockPoisoned then
    (supervisor, .error .stateUnavailable)
  else
    let stopped := stopEach terminations supervisor.registry.toList ∅
    ({ supervisor with registry := stopped.1 },
      if stopped.2.2 then .ok stopped.2.1 else .error .cleanupFailed)

end Wts.Runtime
