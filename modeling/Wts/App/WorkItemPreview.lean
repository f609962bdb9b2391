/-
Module: Wts.App.WorkItemPreview
Purpose: The previews of task workspaces: the host with its process supervisor and the proofs of the
  processes it started, a start with its reuse, restart and failure exits, and a stop by claim.
-/
import Wts.App.Runtime
import Wts.Library.UuidText

namespace Wts.Previews

open Wts.Runtime

/-- The identity of a preview process and the claim of the start that returned it last. -/
structure PreviewProof where
  probeId : String
  probeSecret : String
  claimId : Uuid

structure PreviewHost where
  runtime : RuntimeSupervisor
  proofs : Std.ExtTreeMap RuntimeStackKey PreviewProof

def previewLimits : RuntimeLimits where
  maxStacks := 2
  maxServicesPerStack := 1
  maxServicesTotal := 2
  maxStartupTimeout := seconds 20
  healthPollInterval := millis 50
  maxWorkspaceDiskBytes := 128 * 1024 * 1024

def previewSupervisor : PreviewHost where
  runtime := { limits := previewLimits, registry := ∅ }
  proofs := ∅

def previewKey (workspaceId taskId : Uuid) : RuntimeStackKey where
  workspaceId := workspaceId
  stackId := "preview-" ++ uuidText taskId

/-- The functions of the `url` crate that previews use: a base joined with a route, as text, and
the explicit port of an address. -/
structure UrlCodec where
  join : String → String → Option String
  port : String → Option UInt16

inductive AgentConversationSource where
  | ui (route label : String)
  | workItem (label : String)
  | gitlabDiscussion (title : Option String)

inductive AgentWorkItemPreviewState where
  | running
  | stopped
  | blocked

structure AgentWorkItemPreview where
  previewInstanceId : Uuid
  schemaVersion : ℕ
  workSetId : Uuid
  taskId : Uuid
  workspaceId : Uuid
  repositoryId : String
  afterCheckpointId : Uuid
  state : AgentWorkItemPreviewState
  url : Option String
  title : String
  detail : String

/-- The error of an unavailable conversation, and the errors of the calls that load the task. -/
inductive PreviewError where
  | agentConversationUnavailable
  | notLoaded (detail : String)
deriving DecidableEq

/-- `preview_identity_matches` on the reply to the probe: the text of a response of at most 4096
bytes, or nothing when the connection, the request, the reading or the decoding fails. -/
def previewIdentityMatches (reply : Option String) (secret : String) : Bool :=
  match reply with
  | none => false
  | some response =>
    "HTTP/1.1 200 ".toList.isPrefixOf response.toList ∧
      (afterBlankLine response.toList).any fun body => body = secret.toList
where
  /-- What follows the first blank line of a response. -/
  afterBlankLine : List Char → Option (List Char)
    | [] => none
    | c :: rest =>
      if ['\r', '\n', '\r', '\n'].isPrefixOf (c :: rest) then some (rest.drop 3)
      else afterBlankLine rest

/-- The port of the registered service when its process is up and proves its identity. -/
def reusablePort (proofs : Std.ExtTreeMap RuntimeStackKey PreviewProof) (key : RuntimeStackKey)
    (existing : RuntimeStackSnapshot) (reply : Option String) : Option UInt16 :=
  match existing.services.head? with
  | none => none
  | some service =>
    if (service.state = .healthy ∨ service.state = .running) ∧
        proofs[key]?.any fun proof => previewIdentityMatches reply proof.probeSecret then
      some service.endpoint.port
    else
      none

/-- What happens while a preview process is started: the preparation of the UI, the text of the
program that `node` runs, the replies of the existing and of the new process to their probes, fresh
identifiers, and everything that the calls of the supervisor observe. The operating system hands out
process identifiers below `2 ^ 31`. -/
structure PreviewStart where
  prepared : Except String (PathBuf × PathBuf)
  previewBootstrap : String
  failedPreparation : ℕ → Termination
  observations : ℕ → Observation
  existingReply : Option String
  stopBefore : ℕ → Termination
  probeId : String
  probeSecret : String
  portDraw : ℕ
  run : StartRun
  startedReply : Option String
  stopAfter : ℕ → Termination
  processIds : ∀ (n : ℕ) (child : Child), (run.services n).spawn = some child →
    child.id.toNat < 2 ^ 31

/-- Separate hosts can start previews at the same time, so they do not share one first port. -/
def preferredPort (portDraw : ℕ) : UInt16 :=
  UInt16.ofNat (20000 + portDraw % 30000)

def previewService (ui vite : PathBuf) (start : PreviewStart) : RuntimeServiceRequest where
  id := "ui"
  workingDirectory := ui
  executable := "node"
  args := ["-e", start.previewBootstrap, vite.display]
  environment :=
    [("WTS_PREVIEW_PROBE_ID", start.probeId), ("WTS_PREVIEW_PROBE_SECRET", start.probeSecret)]
  preferredPort := preferredPort start.portDraw
  dependsOn := []
  healthCheck := .tcp
  startupTimeout := seconds 20

def previewRequest (key : RuntimeStackKey) (candidate ui vite : PathBuf) (start : PreviewStart) :
    RuntimeStackRequest where
  workspaceId := key.workspaceId
  stackId := key.stackId
  workspaceRoot := candidate
  services := [previewService ui vite start]

def startErrorDetail : RuntimeError → String
  | .capacityExceeded => "Two previews are open. Close one preview window, then retry."
  | _ => "The UI preview did not start. Open this task workspace to inspect Node and its UI " ++
      "dependencies, then retry."

def previewUrl (port : UInt16) : String :=
  "http://127.0.0.1:" ++ Text.decimal port.toNat ++ "/"

/-- What a start leaves behind: the host, the address or the detail of its error, and the processes
that it spawned and that are neither registered nor reaped. -/
structure PreviewOutcome where
  host : PreviewHost
  result : Except String String
  strays : List Child

/-- The processes of a failed start of a stack that were not reaped. -/
def strayChildren (spawned : List Child) (stopped : List ManagedService) : List Child :=
  spawned.filter fun child =>
    ¬ stopped.any fun service => service.child = child ∧ service.reaped = true

/-- The part of `start_preview_process` that starts a new process. -/
def launchPreview (host : PreviewHost) (key : RuntimeStackKey) (candidate ui vite : PathBuf)
    (claimId : Uuid) (start : PreviewStart) : Option PreviewOutcome :=
  let proofs := host.proofs.erase key
  match startStackCancellable host.runtime (previewRequest key candidate ui vite start) start.run with
  | none => none
  | some { result := .error error, supervisor, spawned, stopped } =>
    some
      { host := { runtime := supervisor, proofs := proofs }
        result := .error (startErrorDetail error)
        strays := strayChildren spawned stopped }
  | some { result := .ok snapshot, supervisor, .. } =>
    match snapshot.services.head? with
    | none =>
      some
        { host := { runtime := supervisor, proofs := proofs }
          result := .error "The UI preview did not return an address. Retry the preview."
          strays := [] }
    | some service =>
      if previewIdentityMatches start.startedReply start.probeSecret then
        let proof : PreviewProof :=
          { probeId := start.probeId, probeSecret := start.probeSecret, claimId := claimId }
        some
          { host := { runtime := supervisor, proofs := proofs.insert key proof }
            result := .ok (previewUrl service.endpoint.port)
            strays := [] }
      else
        some
          { host :=
              { runtime := (stopStack supervisor key false start.stopAfter).1
                proofs := proofs }
            result := .error "Could not verify the preview process. Retry the preview."
            strays := [] }

def startPreviewProcess (host : PreviewHost) (key : RuntimeStackKey) (candidate : PathBuf)
    (claimId : Uuid) (start : PreviewStart) : Option PreviewOutcome :=
  match start.prepared with
  | .error error =>
    -- the result of this cleanup is dropped, and with it the proof of what may still run
    some
      { host :=
          { runtime := (stopStack host.runtime key false start.failedPreparation).1
            proofs := host.proofs.erase key }
        result := .error error
        strays := [] }
  | .ok (ui, vite) =>
    let inspected := inspectStack host.runtime key false start.observations
    let host := { host with runtime := inspected.1 }
    match inspected.2 with
    | .error _ => launchPreview host key candidate ui vite claimId start
    | .ok existing =>
      match reusablePort host.proofs key existing start.existingReply with
      | some port =>
        some
          { host :=
              { host with
                proofs := host.proofs.modify key fun proof => { proof with claimId := claimId } }
            result := .ok (previewUrl port)
            strays := [] }
      | none =>
        launchPreview
          { host with runtime := (stopStack host.runtime key false start.stopBefore).1 } key
          candidate ui vite claimId start

/-! ### The calls of the service -/

/-- The trusted candidate of a task, as far as previews read it. The title comes from the source of
the candidate, the route from the source of the trusted conversation. -/
structure IntegrationCandidate where
  workspaceId : Uuid
  repositoryId : String
  afterCheckpointId : Option Uuid
  candidateSource : AgentConversationSource
  candidateTarget : PathBuf
  trustedSource : AgentConversationSource

def previewTitle : AgentConversationSource → String
  | .ui _ label => label
  | .workItem label => label
  | .gitlabDiscussion title => title.getD "Task preview"

/-- The address that a start returns for a base address: a UI source opens its own route. -/
def previewAddress (urls : UrlCodec) (source : AgentConversationSource) (url : String) : String :=
  match source with
  | .ui route _ =>
    if Text.startsWith "/" route ∧ ¬ Text.startsWith "//" route ∧ '\\' ∉ route.toList then
      ((urls.join url route).filter fun address => address.utf8ByteSize ≤ 2048).getD url
    else
      url
  | _ => url

/-- A call of `start_agent_work_item_preview` with what happens while it runs: the loaded candidate,
whether its files still match its recorded result, and the start of the process. -/
structure StartCall where
  workSetId : Uuid
  taskId : Uuid
  previewInstanceId : Uuid
  loaded : Except PreviewError IntegrationCandidate
  matchesCheckTarget : Except PreviewError Bool
  start : PreviewStart

structure StartReply where
  host : PreviewHost
  result : Except PreviewError AgentWorkItemPreview
  strays : List Child

/-- `start_agent_work_item_preview`. There is no reply when the process is never ready. -/
def startAgentWorkItemPreview (urls : UrlCodec) (host : PreviewHost) (call : StartCall) :
    Option StartReply :=
  match call.loaded with
  | .error error => some { host := host, result := .error error, strays := [] }
  | .ok candidate =>
    match candidate.afterCheckpointId with
    | none => some { host := host, result := .error .agentConversationUnavailable, strays := [] }
    | some afterCheckpointId =>
      let result : AgentWorkItemPreview :=
        { previewInstanceId := call.previewInstanceId
          schemaVersion := 1
          workSetId := call.workSetId
          taskId := call.taskId
          workspaceId := candidate.workspaceId
          repositoryId := candidate.repositoryId
          afterCheckpointId := afterCheckpointId
          state := .blocked
          url := none
          title := previewTitle candidate.candidateSource
          detail := "" }
      match call.matchesCheckTarget with
      | .error error => some { host := host, result := .error error, strays := [] }
      | .ok false =>
        some
          { host := host
            result := .ok
              { result with
                detail := "This task's files changed after its recorded result. Review the " ++
                  "current task workspace before you start another preview." }
            strays := [] }
      | .ok true =>
        match startPreviewProcess host (previewKey candidate.workspaceId call.taskId)
            candidate.candidateTarget result.previewInstanceId call.start with
        | none => none
        | some { host, result := .ok url, strays } =>
          some
            { host := host
              result := .ok
                { result with
                  state := .running
                  url := some (previewAddress urls candidate.trustedSource url)
                  detail := "The preview uses this option's files. The preview window can " ++
                    "read WTS data. Use the main WTS window to make changes." }
              strays := strays }
        | some { host, result := .error detail, strays } =>
          some { host := host, result := .ok { result with detail := detail }, strays }

/-- A call of `stop_agent_work_item_preview` with what happens while it runs. -/
structure StopCall where
  workspaceId : Uuid
  taskId : Uuid
  expectedUrl : String
  claimId : Uuid
  observations : ℕ → Observation
  terminations : ℕ → Termination

def stopPreviewProcess (urls : UrlCodec) (host : PreviewHost) (call : StopCall) :
    PreviewHost × Except PreviewError Unit :=
  let key := previewKey call.workspaceId call.taskId
  if host.proofs[key]?.all fun proof => proof.claimId ≠ call.claimId then
    (host, .ok ())
  else
    let inspected := inspectStack host.runtime key false call.observations
    let host := { host with runtime := inspected.1 }
    match inspected.2 with
    | .error _ => (host, .ok ())
    | .ok stack =>
      let expectedPort := urls.port call.expectedUrl
      if stack.services.head?.any fun service => some service.endpoint.port = expectedPort then
        let stopped := stopStack host.runtime key false call.terminations
        match stopped.2 with
        | .error _ => ({ host with runtime := stopped.1 }, .error .agentConversationUnavailable)
        | .ok _ => ({ runtime := stopped.1, proofs := host.proofs.erase key }, .ok ())
      else
        (host, .ok ())

/-- A host with the history that the callers know: for each task the claim and the address of its
latest successful start, and the processes that starts left unregistered and unreaped. -/
structure Tracked where
  host : PreviewHost
  latest : Std.ExtTreeMap RuntimeStackKey (Uuid × String)
  strays : List Child

def Tracked.initial : Tracked where
  host := previewSupervisor
  latest := ∅
  strays := []

inductive Call where
  | start (call : StartCall)
  | stop (call : StopCall)

/-- The history after a reply: a running preview is the latest successful start of its task. -/
def recordStart (latest : Std.ExtTreeMap RuntimeStackKey (Uuid × String)) :
    Except PreviewError AgentWorkItemPreview → Std.ExtTreeMap RuntimeStackKey (Uuid × String)
  | .error _ => latest
  | .ok preview =>
    match preview.url with
    | none => latest
    | some url =>
      latest.insert (previewKey preview.workspaceId preview.taskId)
        (preview.previewInstanceId, url)

/-- One call. A start whose process is never ready does not return. -/
def step (urls : UrlCodec) (tracked : Tracked) : Call → Option Tracked
  | .start call =>
    (startAgentWorkItemPreview urls tracked.host call).map fun reply =>
      { host := reply.host
        latest := recordStart tracked.latest reply.result
        strays := tracked.strays ++ reply.strays }
  | .stop call => some { tracked with host := (stopPreviewProcess urls tracked.host call).1 }

end Wts.Previews
