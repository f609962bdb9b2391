/-
Module: Wts.App.AgentObservation
Purpose: The observation of an agent from its session log: the state that the records of the log build
  up, with the agent's work periods, and the reader of the log that keeps its offset and state for the
  next call.
Trusted boundary: serde_json is given by readers of the records and of the texts inside them. Times are
  integers: the arithmetic of years beyond the range of an i64 in milliseconds is not modelled.
-/
import Wts.App.AgentSessions
import Wts.App.CodeWorkspace
import Wts.Library.LineReader
import Wts.Library.Lines

namespace Wts.AgentObservation

open Text
open AgentSessions (AgentNeedsInput AgentChangeRequestProposal AgentMrLinkProposal validProposal
  validMrLinkProposal)
open CodeWorkspace (Value get)
open Std (ExtTreeMap ExtTreeSet)

def maxCandidateFiles : ℕ := 128
def maxEventLineBytes : ℕ := 2 * 1024 * 1024
def maxAgentUpdateChars : ℕ := 800
def maxAgentUpdateLines : ℕ := 4

/-- WTS keeps at most this many recent agent work periods per session. -/
def maxWorkPeriods : ℕ := 200

inductive AgentObservationActivity where
  | thinking
  | usingTools
  | editing
  | runningCommand
  | searching
  | delegating

inductive AgentObservationUpdateKind where
  | progress
  | completion

structure AgentWorkPeriod where
  startedAtUnixMs : ℤ
  endedAtUnixMs : ℤ
  ongoing : Bool
deriving DecidableEq

def question : AgentNeedsInput where
  kind := .question
  detail := "Agent has a question."

def access : AgentNeedsInput where
  kind := .access
  detail := "Agent needs access."

structure RolloutContent where
  contentType : Option String
  text : Option String

/-- The fields of a payload that the events read. -/
structure RolloutPayload where
  payloadType : Option String
  turnId : Option String
  name : Option String
  callId : Option String
  arguments : Option String
  input : Option String
  role : Option String
  phase : Option String
  model : Option String
  content : Option (List RolloutContent)
  lastAgentMessage : Option String
  startedAt : Option ℤ
  completedAt : Option ℤ
  durationMs : Option ℤ

structure RolloutRecord where
  recordType : Option String
  timestamp : Option String
  payload : Option RolloutPayload

/-- How serde_json reads a line of the log, and the JSON texts inside the records. -/
structure Readers (ν : Type) where
  record : List UInt8 → Option RolloutRecord
  json : String → Option (Value ν)
  changeRequestProposal : String → Option AgentChangeRequestProposal
  mrLinkProposal : String → Option AgentMrLinkProposal

variable {ν : Type} (readers : Readers ν)

def parseI64 (text : String) : Option ℤ :=
  let digits : List Char → Option ℕ := fun digits =>
    if digits ≠ [] ∧ digits.all Char.isDigit then some (Nat.ofDigitChars 10 digits 0) else none
  match text.toList with
  | '-' :: rest => (digits rest).bind fun n => if n ≤ 2 ^ 63 then some (-(n : ℤ)) else none
  | '+' :: rest => (digits rest).bind fun n => if n < 2 ^ 63 then some (n : ℤ) else none
  | rest => (digits rest).bind fun n => if n < 2 ^ 63 then some (n : ℤ) else none

/-- The three numbers between two separators, as `splitn(3, ..)` cuts them. -/
def threeNumbers (separator : Char) (text : String) : Option (ℤ × ℤ × ℤ) := do
  let (first, rest) ← splitOnce separator text
  let (second, third) ← splitOnce separator rest
  some (← parseI64 first, ← parseI64 second, ← parseI64 third)

/-- Codex writes turn times in whole Unix seconds. -/
def secondsToUnixMs (seconds : ℤ) : Option ℤ :=
  if 0 < seconds ∧ seconds * 1000 < 2 ^ 63 then some (seconds * 1000) else none

def civilDays (year month day : ℤ) : ℤ :=
  let (y, m) := if month ≤ 2 then (year - 1, month + 9) else (year, month - 3)
  let era := y / 400
  let yearOfEra := y - era * 400
  let dayOfYear := (153 * m + 2) / 5 + day - 1
  let dayOfEra := yearOfEra * 365 + yearOfEra / 4 - yearOfEra / 100 + dayOfYear
  era * 146097 + dayOfEra - 719468

/-- Parses the UTC "2026-09-24T05:57:02.677Z" form that Codex writes. -/
def rfc3339ToUnixMs (value : String) : Option ℤ := do
  let value ← if endsWith "Z" value then some (String.ofList value.toList.dropLast) else none
  let (date, time) ← splitOnce 'T' value
  let (year, month, day) ← threeNumbers '-' date
  let (clock, fraction) := (splitOnce '.' time).getD (time, "0")
  let (hour, minute, second) ← threeNumbers ':' clock
  if 1 ≤ month ∧ month ≤ 12 ∧ 1 ≤ day ∧ day ≤ 31 ∧ hour ≤ 23 ∧ minute ≤ 59 ∧ second ≤ 60 then
    let digits := fraction.toList ++ List.replicate (3 - fraction.toList.length) '0'
    let millis ← parseI64 (String.ofList (digits.take 3))
    some ((civilDays year month day * 86400 + hour * 3600 + minute * 60 + second) * 1000 + millis)
  else none

def saturatingAdd (first second : ℤ) : ℤ :=
  max (-2 ^ 63) (min (2 ^ 63 - 1) (first + second))

def changeRequestProposalPrefix : String := "WTS_CHANGE_REQUEST_PROPOSAL:"
def mrLinkProposalPrefix : String := "WTS_MR_LINK_PROPOSAL:"

def stripSuffix (ending text : String) : Option String :=
  if endsWith ending text then
    some (String.ofList (text.toList.take (text.toList.length - ending.toList.length)))
  else none

/-- Returns the JSON after a prefix on one response line, which may be wrapped in an HTML comment. -/
def proposalPayload (line start : String) : Option String := do
  let line := trim line
  let line ←
    match stripPrefix "<!--" line with
    | some inner => (stripSuffix "-->" inner).map trim
    | none => some line
  (stripPrefix start line).map trim

/-- True when a response line carries a WTS proposal for the host and not for the user. -/
def isProposalLine (line : String) : Bool :=
  (proposalPayload line changeRequestProposalPrefix).isSome ||
    (proposalPayload line mrLinkProposalPrefix).isSome

def parseAgentMrLinkProposals (value : String) : List AgentMrLinkProposal :=
  (((((lines value).filterMap fun line => proposalPayload line mrLinkProposalPrefix).filter
    fun json => json.utf8ByteSize ≤ 512).filterMap readers.mrLinkProposal).filter
      fun proposal => validMrLinkProposal proposal).take 16

def parseAgentChangeRequestProposals (value : String) : List AgentChangeRequestProposal :=
  ((((lines value).filterMap fun line => proposalPayload line changeRequestProposalPrefix).filterMap
    readers.changeRequestProposal).filter fun proposal => validProposal proposal).take 16

def boundedAgentUpdate (value : String) : Option String :=
  let kept := (((lines value).map trim).filter fun line =>
    !line.isEmpty && !isProposalLine line).take maxAgentUpdateLines
  let normalized := ("\n".intercalate kept).toList
  if normalized = [] then none
  else
    let bounded := (normalized.filter fun character => !isControl character || character = '\n').take
      maxAgentUpdateChars
    some (String.ofList
      (if maxAgentUpdateChars < normalized.length then bounded ++ ['…'] else bounded))

def activityForTool : Option String → AgentObservationActivity
  | none => .usingTools
  | some name =>
    if name ∈ ["apply_patch", "write_file", "edit_file"] then .editing
    else if name ∈ ["exec", "exec_command", "write_stdin"] then .runningCommand
    else if containsText "search" name || containsText "web" name then .searching
    else if containsText "agent" name || containsText "delegate" name then .delegating
    else .usingTools

def asStr : Value ν → Option String
  | .string value => some value
  | _ => none

def valueGet (value : Value ν) (key : String) : Option (Value ν) :=
  match value with
  | .object fields => get key fields
  | _ => none

def requestsEscalatedAccess (arguments : String) : Bool :=
  let permission := do
    let value ← readers.json arguments
    let found ← (valueGet value "sandbox_permissions").or (valueGet value "sandboxPermissions")
    asStr found
  permission = some "require_escalated"

def inputRequestForTool (name arguments : Option String) : Option AgentNeedsInput := do
  let fullName ← name
  let leaf := String.ofList (fullName.toList.rtakeWhile fun c => c ≠ '.' && c ≠ ':')
  if leaf ∈ ["request_user_input", "requestUserInput"] then some question
  else if leaf ∈ ["request_approval", "requestApproval", "request_permission"] then some access
  else if leaf ∈ ["exec", "exec_command"] ∧ arguments.any (requestsEscalatedAccess readers) then
    some access
  else none

def inputCallKey (callId toolName : Option String) : String :=
  (callId.or toolName).getD "agent-input"

inductive TerminalEvent where
  | completed
  | interrupted

structure EventState where
  activeTurns : ExtTreeSet String
  lastTerminal : Option TerminalEvent
  activity : Option AgentObservationActivity
  sawActivity : Bool
  latestUpdate : Option String
  updateKind : Option AgentObservationUpdateKind
  pendingInput : ExtTreeMap String AgentNeedsInput
  changeRequestProposals : List AgentChangeRequestProposal
  mrLinkProposals : List AgentMrLinkProposal
  turnStarts : ExtTreeMap String ℤ
  finishedPeriods : List AgentWorkPeriod
  lastAgentSignal : Option ℤ
  splitTurns : ExtTreeSet String
  model : Option String

/-- A finished period, if it does not end before it starts. -/
def finished (started ended : ℤ) : Option AgentWorkPeriod :=
  if started ≤ ended then
    some { startedAtUnixMs := started, endedAtUnixMs := ended, ongoing := false }
  else none

namespace EventState

/-- `EventState::default`. -/
def initial : EventState where
  activeTurns := ∅
  lastTerminal := none
  activity := none
  sawActivity := false
  latestUpdate := none
  updateKind := none
  pendingInput := ∅
  changeRequestProposals := []
  mrLinkProposals := []
  turnStarts := ∅
  finishedPeriods := []
  lastAgentSignal := none
  splitTurns := ∅
  model := none

variable (state : EventState)

def waiting : Bool :=
  !state.pendingInput.isEmpty

/-- The periods with the one of the running turn, the newest ones in the order of their starts. -/
def workPeriods (lastChangeUnixMs : ℤ) : List AgentWorkPeriod :=
  let ongoing := state.turnStarts.toList.filterMap fun (turnId, started) =>
    if turnId ∈ state.activeTurns then
      some {
        startedAtUnixMs := started
        endedAtUnixMs := max lastChangeUnixMs started
        ongoing := true }
    else none
  let periods := (state.finishedPeriods ++ ongoing).insertionSort
    fun first second : AgentWorkPeriod => first.startedAtUnixMs ≤ second.startedAtUnixMs
  periods.drop (periods.length - maxWorkPeriods)

/-! ### Events -/

/-- A new turn supersedes an interrupted turn without a terminal event. -/
def supersede : EventState :=
  let periods := state.turnStarts.toList.filterMap fun (oldId, start) =>
    if oldId ∈ state.activeTurns then state.lastAgentSignal.bind fun signal => finished start signal
    else none
  { state with
    finishedPeriods := state.finishedPeriods ++ periods
    turnStarts := ∅
    activeTurns := ∅ }

def recordStart (turnStarts : ExtTreeMap String ℤ) (turnId : String) :
    Option ℤ → ExtTreeMap String ℤ
  | some started => turnStarts.insert turnId started
  | none => turnStarts

def startTurn (turnId : String) (started : Option ℤ) : EventState :=
  let state := if turnId ∈ state.activeTurns then state else state.supersede
  { state with
    turnStarts := recordStart state.turnStarts turnId started
    activeTurns := state.activeTurns.insert turnId }

def taskStarted (payload : RolloutPayload) (timestamp : Option ℤ) :
    EventState :=
  let state :=
    match payload.turnId with
    | some turnId =>
      state.startTurn turnId ((payload.startedAt.bind secondsToUnixMs).or timestamp)
    | none => state
  { state with
    lastTerminal := none
    activity := some .thinking
    sawActivity := true
    latestUpdate := none
    updateKind := none
    pendingInput := ∅
    changeRequestProposals := []
    mrLinkProposals := [] }

/-- The start of a turn that completes, as far as it is known. -/
def turnStart (turnId : String) (payload : RolloutPayload) : Option ℤ :=
  state.turnStarts[turnId]?.or
    (if turnId ∈ state.splitTurns then none else payload.startedAt.bind secondsToUnixMs)

def turnEnd (payload : RolloutPayload) (started timestamp : Option ℤ) : Option ℤ :=
  (payload.completedAt.bind secondsToUnixMs).or (timestamp.or do
    let start ← started
    let duration ← payload.durationMs
    some (saturatingAdd start duration))

def completeTurn (turnId : String) (payload : RolloutPayload) (timestamp : Option ℤ) : EventState :=
  let started := state.turnStart turnId payload
  let period := do
    let start ← started
    let ended ← turnEnd payload started timestamp
    finished start ended
  { state with
    activeTurns := state.activeTurns.erase turnId
    splitTurns := state.splitTurns.erase turnId
    finishedPeriods := state.finishedPeriods ++ period.toList
    turnStarts := state.turnStarts.erase turnId }

def reportCompletion (payload : RolloutPayload) : EventState :=
  let state := { state with
    lastTerminal := some .completed
    activity := none
    pendingInput := ∅ }
  let state :=
    match payload.lastAgentMessage with
    | some message =>
      let proposals := parseAgentChangeRequestProposals readers message
      { state with
        mrLinkProposals := parseAgentMrLinkProposals readers message
        changeRequestProposals :=
          if proposals = [] then state.changeRequestProposals else proposals }
    | none => state
  match payload.lastAgentMessage.bind boundedAgentUpdate with
  | some update => { state with latestUpdate := some update, updateKind := some .completion }
  | none => state

def taskComplete (payload : RolloutPayload) (timestamp : Option ℤ) :
    EventState :=
  match payload.turnId with
  | some turnId => reportCompletion readers (state.completeTurn turnId payload timestamp) payload
  | none => reportCompletion readers state payload

def abortTurn (turnId : String) (timestamp : Option ℤ) : EventState :=
  let period := do
    let start ← state.turnStarts[turnId]?
    let ended ← timestamp
    finished start ended
  { state with
    activeTurns := state.activeTurns.erase turnId
    turnStarts := state.turnStarts.erase turnId
    finishedPeriods := state.finishedPeriods ++ period.toList }

def turnAborted (payload : RolloutPayload) (timestamp : Option ℤ) :
    EventState :=
  let state :=
    match payload.turnId with
    | some turnId => state.abortTurn turnId timestamp
    | none => { state with activeTurns := ∅, turnStarts := ∅ }
  { state with
    lastTerminal := some .interrupted
    activity := none
    pendingInput := ∅ }

/-- The texts of an assistant message, the last one first. -/
def outputTexts (payload : RolloutPayload) : List String :=
  (payload.content.getD []).reverse.filterMap fun item =>
    if item.contentType = some "output_text" then item.text else none

def assistantMessage (payload : RolloutPayload) : EventState :=
  let texts := outputTexts payload
  let state :=
    match texts.head? with
    | some text =>
      let links := parseAgentMrLinkProposals readers text
      let proposals := parseAgentChangeRequestProposals readers text
      { state with
        mrLinkProposals := if links = [] then state.mrLinkProposals else links
        changeRequestProposals :=
          if proposals = [] then state.changeRequestProposals else proposals }
    | none => state
  match texts.findSome? boundedAgentUpdate with
  | some update =>
    { state with
      latestUpdate := some update
      updateKind := some (if payload.phase = some "commentary" then .progress else .completion) }
  | none => state

def toolCall (payload : RolloutPayload) : EventState :=
  let state :=
    match inputRequestForTool readers payload.name (payload.arguments.or payload.input) with
    | some request =>
      { state with
        pendingInput := state.pendingInput.insert (inputCallKey payload.callId payload.name) request
        activity := none }
    | none => { state with activity := some (activityForTool payload.name) }
  { state with sawActivity := true }

def toolOutput (payload : RolloutPayload) : EventState :=
  match payload.callId with
  | some callId => { state with pendingInput := state.pendingInput.erase callId }
  | none => state

def requestInput (payload : RolloutPayload) (toolName : String)
    (request : AgentNeedsInput) : EventState :=
  { state with
    pendingInput := state.pendingInput.insert (inputCallKey payload.callId (some toolName)) request
    activity := none
    sawActivity := true }

def inputResponse (payload : RolloutPayload) : EventState :=
  match payload.callId with
  | some callId => { state with pendingInput := state.pendingInput.erase callId }
  | none => { state with pendingInput := ∅ }

end EventState

/-- What a record reports. -/
inductive RecordEvent where
  | turnContext
  | taskStarted
  | taskComplete
  | turnAborted
  | webSearchEnd
  | subAgentActivity
  | reasoning
  | assistantMessage
  | toolCall
  | toolOutput
  | inputRequest
  | approvalRequest
  | inputResponse
  | other
deriving DecidableEq

def recordEvent (recordType : Option String) (payload : RolloutPayload) : RecordEvent :=
  match recordType, payload.payloadType with
  | some "turn_context", _ => .turnContext
  | some "event_msg", some "task_started" => .taskStarted
  | some "event_msg", some "task_complete" => .taskComplete
  | some "event_msg", some "turn_aborted" => .turnAborted
  | some "event_msg", some "web_search_end" => .webSearchEnd
  | some "event_msg", some "sub_agent_activity" => .subAgentActivity
  | some "response_item", some "reasoning" => .reasoning
  | some "response_item", some "message" =>
    if payload.role = some "assistant" then .assistantMessage else .other
  | some "response_item", some "function_call" => .toolCall
  | some "response_item", some "custom_tool_call" => .toolCall
  | some "response_item", some "function_call_output" => .toolOutput
  | some "response_item", some "custom_tool_call_output" => .toolOutput
  | some "event_msg", some "request_user_input" => .inputRequest
  | some "event_msg", some "user_input_request" => .inputRequest
  | some "event_msg", some "approval_request" => .approvalRequest
  | some "event_msg", some "exec_approval_request" => .approvalRequest
  | some "event_msg", some "apply_patch_approval_request" => .approvalRequest
  | some "event_msg", some "user_input_response" => .inputResponse
  | some "event_msg", some "approval_response" => .inputResponse
  | _, _ => .other

/-- Whether a record shows that the agent works. -/
def agentSignal (recordType : Option String) (payload : RolloutPayload) : Bool :=
  recordType = some "response_item" &&
    (payload.role = some "assistant" ||
      payload.payloadType.any fun payloadType =>
        payloadType ∈ ["reasoning", "function_call", "custom_tool_call", "function_call_output",
          "custom_tool_call_output"])

def validModel (model : String) : Bool :=
  !model.isEmpty && model.utf8ByteSize ≤ 200 && !model.toList.any isControl

namespace EventState

variable (state : EventState)

def applyEvent (event : RecordEvent) (payload : RolloutPayload)
    (timestamp : Option ℤ) : EventState :=
  match event with
  | .turnContext =>
    match payload.model.filter validModel with
    | some model => { state with model := some model }
    | none => state
  | .taskStarted => state.taskStarted payload timestamp
  | .taskComplete => taskComplete readers state payload timestamp
  | .turnAborted => state.turnAborted payload timestamp
  | .webSearchEnd => { state with activity := some .searching, sawActivity := true }
  | .subAgentActivity => { state with activity := some .delegating, sawActivity := true }
  | .reasoning => { state with activity := some .thinking, sawActivity := true }
  | .assistantMessage => assistantMessage readers state payload
  | .toolCall => toolCall readers state payload
  | .toolOutput => state.toolOutput payload
  | .inputRequest => state.requestInput payload "request_user_input" question
  | .approvalRequest => state.requestInput payload "approval_request" access
  | .inputResponse => state.inputResponse payload
  | .other => state

/-- A turn stops when the session begins to wait for the user, and goes on when the wait ends. -/
def noteWaiting (wasWaiting : Bool) (timestamp : Option ℤ) : EventState :=
  match wasWaiting, state.waiting, timestamp with
  | false, true, some ended =>
    { state with
      splitTurns := state.turnStarts.toList.foldl (fun split turn => split.insert turn.1)
        state.splitTurns
      finishedPeriods := state.finishedPeriods ++
        state.turnStarts.toList.filterMap fun turn => finished turn.2 ended
      turnStarts := ∅ }
  | true, false, some start =>
    { state with
      turnStarts := state.activeTurns.toList.foldl
        (fun starts turnId => starts.insertIfNew turnId start) state.turnStarts }
  | _, _, _ => state

def noteSignal (signal : Bool) (timestamp : Option ℤ) : EventState :=
  if signal then { state with lastAgentSignal := timestamp.or state.lastAgentSignal } else state

def retainPeriods : EventState :=
  { state with
    finishedPeriods := state.finishedPeriods.drop (state.finishedPeriods.length - maxWorkPeriods) }

end EventState

def recordTime (record : RolloutRecord) : Option ℤ :=
  record.timestamp.bind rfc3339ToUnixMs

/-- The effect of a record, before the oldest periods are dropped. -/
def applyPayload (state : EventState) (record : RolloutRecord) (payload : RolloutPayload) :
    EventState :=
  let applied := EventState.applyEvent readers state (recordEvent record.recordType payload) payload
    (recordTime record)
  (applied.noteWaiting state.waiting (recordTime record)).noteSignal
    (agentSignal record.recordType payload) (recordTime record)

/-- The effect of a record; one without a payload has none. -/
def applyRecord (state : EventState) (record : RolloutRecord) : EventState :=
  match record.payload with
  | none => state
  | some payload => (applyPayload readers state record payload).retainPeriods

/-- The effect of a line of the log; one that is no record has none. -/
def applyLine (state : EventState) (line : List UInt8) : EventState :=
  match readers.record line with
  | none => state
  | some record => applyRecord readers state record

/-- A log as a call finds it: what its metadata say, its bytes, and whether they can be read. -/
structure LogFile where
  identity : ℕ × ℕ
  modified : Option ℤ
  length : ℕ
  bytes : List UInt8
  readable : Bool

structure CachedEventState where
  identity : ℕ × ℕ
  modified : Option ℤ
  length : ℕ
  offset : ℕ
  state : EventState

abbrev Cache := ExtTreeMap PathBuf CachedEventState

def popFirst (cache : Cache) : Cache :=
  match cache.minKey? with
  | some path => cache.erase path
  | none => cache

/-- Whether the entry is of the file, and the file has only grown since. -/
def usable (file : LogFile) (entry : CachedEventState) : Bool :=
  entry.identity = file.identity && entry.length ≤ file.length &&
    (entry.length ≠ file.length || entry.modified = file.modified)

/-- Where a call starts to read, and with which state. -/
def resumePoint (cache : Cache) (path : PathBuf) (file : LogFile) : ℕ × EventState :=
  match cache[path]?.filter (usable file) with
  | some entry => (entry.offset, entry.state)
  | none => (0, EventState.initial)

/-- A call; the file is missing when it cannot be opened. -/
def readEventState (cache : Cache) (path : PathBuf) (file : Option LogFile) :
    Option EventState × Cache :=
  match file with
  | none => (none, cache)
  | some file =>
    let (offset, state) := resumePoint cache path file
    let cache := cache.erase path
    if !file.readable then (none, cache)
    else
      let (offset, state) := LineReader.readLines 0x0a maxEventLineBytes (applyLine readers)
        (file.bytes.drop offset) offset state
      let cache := popFirst^[cache.size + 1 - maxCandidateFiles] cache
      (some state, cache.insert path {
        identity := file.identity
        modified := file.modified
        length := file.length
        offset := offset
        state := state })

end Wts.AgentObservation
