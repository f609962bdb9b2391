/-
Module: Wts.App.AgentSessions
Purpose: The ledger of agent sessions: one JSON file that every operation reads, checks, changes and
  writes back under a lock.
-/
import Wts.App.Collaboration
import Wts.Library.FirstMatch
import Wts.Library.JsonPretty
import Wts.Library.Serde

namespace Wts.AgentSessions

open Serde Text
open Collaboration (AgentProvider)

def agentSessionSchemaVersion : UInt32 := 1

def maxSessionFileBytes : ℕ := 4 * 1024 * 1024

def maxRetainedSessions : ℕ := 4096

def staleHeartbeatAfterMs : ℤ := 5 * 60 * 1000

inductive TerminalProvider where
  | terminal
  | warp
deriving DecidableEq

inductive AgentSessionCategory where
  | uncategorized
  | ideation
  | investigation
  | implementation
  | verification
  | review
  | other
deriving DecidableEq

inductive AgentSessionStatus where
  | launching
  | handoffAccepted
  | running
  | stopping
  | completed
  | failed
  | interrupted
deriving DecidableEq

inductive AgentSessionFailure where
  | launchRejected
  | providerFailed
  | processExited
  | staleHeartbeat
  | launchOutcomeUnknown
  | userStopped
deriving DecidableEq

inductive AgentNeedsInputKind where
  | question
  | access
deriving DecidableEq

structure AgentNeedsInput where
  kind : AgentNeedsInputKind
  detail : String
deriving DecidableEq

inductive AgentChangeRequestVerificationStatus where
  | notReported
  | passed
  | partly
  | failed
deriving DecidableEq

structure AgentChangeRequestVerification where
  status : AgentChangeRequestVerificationStatus
  summary : String
deriving DecidableEq

structure AgentChangeRequestProposal where
  schemaVersion : UInt32
  repositoryId : String
  sourceHeadCommitOid : String
  title : String
  body : String
  issueKeys : List String
  verification : Option AgentChangeRequestVerification
deriving DecidableEq

structure AgentMrLinkProposal where
  schemaVersion : UInt32
  repositoryId : String
  iid : UInt64
deriving DecidableEq

structure AgentSession where
  schemaVersion : UInt32
  sessionId : Uuid
  workspaceId : Uuid
  provider : AgentProvider
  terminal : TerminalProvider
  category : AgentSessionCategory
  status : AgentSessionStatus
  startedAtUnixMs : Int64
  lastHeartbeatAtUnixMs : Int64
  endedAtUnixMs : Option Int64
  failure : Option AgentSessionFailure
  needsInput : Option AgentNeedsInput
  changeRequestProposals : List AgentChangeRequestProposal
  mrLinkProposals : List AgentMrLinkProposal
deriving DecidableEq

/-- The observed sessions and the unassigned work are not kept in the file: they are dropped when it
is read. -/
structure AgentSessionList where
  schemaVersion : UInt32
  sessions : List AgentSession
  observedSessions : List Json
  unassignedWork : List Json

inductive AgentSessionStoreError where
  | unavailable
  | invalid
  | notFound
  | notRunning

def AgentNeedsInput.isValid (input : AgentNeedsInput) : Bool :=
  match input.kind with
  | .question => input.detail = "Agent has a question."
  | .access => input.detail = "Agent needs access."

def isAsciiHexDigit (c : Char) : Bool :=
  c.isDigit || ('a' ≤ c && c ≤ 'f') || ('A' ≤ c && c ≤ 'F')

/-- `PROJECT-1`: a bounded upper-case project and a bounded decimal number. -/
def validIssueKey (key : String) : Bool :=
  match splitOnce '-' key with
  | none => false
  | some (project, number) =>
    project ≠ "" && project.utf8ByteSize ≤ 32 &&
      project.toList.all (fun c => c.isUpper || c.isDigit || c = '_') &&
      number ≠ "" && number.utf8ByteSize ≤ 16 && number.toList.all Char.isDigit

def validVerification (verification : AgentChangeRequestVerification) : Bool :=
  trim verification.summary ≠ "" && verification.summary.toList.length ≤ 1024 &&
    verification.summary.toList.all fun c => !isControl c || c = '\n'

def validProposal (proposal : AgentChangeRequestProposal) : Bool :=
  proposal.schemaVersion = 1 && proposal.repositoryId ≠ "" &&
    proposal.repositoryId.utf8ByteSize ≤ 160 && trim proposal.repositoryId = proposal.repositoryId &&
    (proposal.sourceHeadCommitOid.utf8ByteSize = 40 || proposal.sourceHeadCommitOid.utf8ByteSize = 64) &&
    proposal.sourceHeadCommitOid.toList.all isAsciiHexDigit &&
    trim proposal.title ≠ "" && proposal.title.toList.length ≤ 256 &&
    trim proposal.body ≠ "" && proposal.body.toList.length ≤ 16000 &&
    proposal.issueKeys.length ≤ 16 && proposal.issueKeys.all validIssueKey &&
    proposal.verification.all validVerification &&
    (proposal.title.toList ++ proposal.body.toList).all fun c => !isControl c || c = '\n' || c = '\t'

def validMrLinkProposal (proposal : AgentMrLinkProposal) : Bool :=
  proposal.schemaVersion = 1 && proposal.repositoryId ≠ "" &&
    proposal.repositoryId.utf8ByteSize ≤ 160 && trim proposal.repositoryId = proposal.repositoryId &&
    0 < proposal.iid.toNat && proposal.iid.toNat ≤ 9007199254740991

/-- A session that can still change: its process may be alive. -/
def AgentSessionStatus.isLive : AgentSessionStatus → Bool
  | .launching | .running | .stopping => true
  | _ => false

variable (session : AgentSession)

/-- Which of the end time, the failure and the input signal go with a status. -/
def statusConsistent : Prop :=
  match session.status with
  | .launching =>
    session.endedAtUnixMs = none ∧ session.failure = none ∧ session.needsInput = none
  | .handoffAccepted =>
    session.endedAtUnixMs ≠ none ∧ session.failure = none ∧ session.needsInput = none
  | .running =>
    session.endedAtUnixMs = none ∧ session.failure = none ∧
      session.needsInput.all AgentNeedsInput.isValid
  | .stopping =>
    session.endedAtUnixMs = none ∧ session.failure = none ∧ session.needsInput = none
  | .completed =>
    session.endedAtUnixMs ≠ none ∧ session.failure = none ∧ session.needsInput = none
  | .failed | .interrupted =>
    session.endedAtUnixMs ≠ none ∧ session.failure ≠ none ∧ session.needsInput = none

instance (session : AgentSession) : Decidable (statusConsistent session) := by
  unfold statusConsistent
  split <;> infer_instance

structure ValidSession (session : AgentSession) : Prop where
  version : session.schemaVersion = agentSessionSchemaVersion
  sessionId : session.sessionId ≠ 0
  workspaceId : session.workspaceId ≠ 0
  started : 0 ≤ session.startedAtUnixMs
  heartbeat : session.startedAtUnixMs ≤ session.lastHeartbeatAtUnixMs
  consistent : statusConsistent session
  ended : session.endedAtUnixMs.all fun ended => session.lastHeartbeatAtUnixMs ≤ ended
  proposalCount : session.changeRequestProposals.length ≤ 16
  proposals : ∀ proposal ∈ session.changeRequestProposals, validProposal proposal
  linkCount : session.mrLinkProposals.length ≤ 16
  links : ∀ proposal ∈ session.mrLinkProposals, validMrLinkProposal proposal

theorem validSession_iff : ValidSession session ↔
      session.schemaVersion = agentSessionSchemaVersion ∧ session.sessionId ≠ 0 ∧
        session.workspaceId ≠ 0 ∧ 0 ≤ session.startedAtUnixMs ∧
        session.startedAtUnixMs ≤ session.lastHeartbeatAtUnixMs ∧ statusConsistent session ∧
        (session.endedAtUnixMs.all fun ended => session.lastHeartbeatAtUnixMs ≤ ended) ∧
        session.changeRequestProposals.length ≤ 16 ∧
        (∀ proposal ∈ session.changeRequestProposals, validProposal proposal) ∧
        session.mrLinkProposals.length ≤ 16 ∧
        ∀ proposal ∈ session.mrLinkProposals, validMrLinkProposal proposal := by
  constructor
  · intro valid
    exact ⟨valid.version, valid.sessionId, valid.workspaceId, valid.started, valid.heartbeat,
      valid.consistent, valid.ended, valid.proposalCount, valid.proposals, valid.linkCount,
      valid.links⟩
  intro ⟨version, sessionId, workspaceId, started, heartbeat, consistent, ended, proposalCount,
    proposals, linkCount, links⟩
  exact ⟨version, sessionId, workspaceId, started, heartbeat, consistent, ended, proposalCount,
    proposals, linkCount, links⟩

instance (session : AgentSession) : Decidable (ValidSession session) :=
  decidable_of_iff' _ (validSession_iff session)

/-! ### The file -/

def providerJson : AgentProvider → Json
  | .codex => .string "codex"
  | .openCode => .string "openCode"
  | .hermes => .string "hermes"
  | .copilot => .string "copilot"

def TerminalProvider.toJson : TerminalProvider → Json
  | .terminal => .string "terminal"
  | .warp => .string "warp"

def AgentSessionCategory.toJson : AgentSessionCategory → Json
  | .uncategorized => .string "uncategorized"
  | .ideation => .string "ideation"
  | .investigation => .string "investigation"
  | .implementation => .string "implementation"
  | .verification => .string "verification"
  | .review => .string "review"
  | .other => .string "other"

def AgentSessionStatus.toJson : AgentSessionStatus → Json
  | .launching => .string "launching"
  | .handoffAccepted => .string "handoffAccepted"
  | .running => .string "running"
  | .stopping => .string "stopping"
  | .completed => .string "completed"
  | .failed => .string "failed"
  | .interrupted => .string "interrupted"

def AgentSessionFailure.toJson : AgentSessionFailure → Json
  | .launchRejected => .string "launchRejected"
  | .providerFailed => .string "providerFailed"
  | .processExited => .string "processExited"
  | .staleHeartbeat => .string "staleHeartbeat"
  | .launchOutcomeUnknown => .string "launchOutcomeUnknown"
  | .userStopped => .string "userStopped"

def AgentNeedsInputKind.toJson : AgentNeedsInputKind → Json
  | .question => .string "question"
  | .access => .string "access"

def AgentNeedsInput.slots (input : AgentNeedsInput) : List (String × Option Json) :=
  [("kind", some input.kind.toJson), ("detail", some (.string input.detail))]

def AgentNeedsInput.toJson (input : AgentNeedsInput) : Json :=
  record input.slots

def AgentChangeRequestVerificationStatus.toJson : AgentChangeRequestVerificationStatus → Json
  | .notReported => .string "notReported"
  | .passed => .string "passed"
  | .partly => .string "partial"
  | .failed => .string "failed"

def AgentChangeRequestVerification.slots (verification : AgentChangeRequestVerification) :
    List (String × Option Json) :=
  [("status", some verification.status.toJson), ("summary", some (.string verification.summary))]

def AgentChangeRequestVerification.toJson (verification : AgentChangeRequestVerification) : Json :=
  record verification.slots

def AgentChangeRequestProposal.slots (proposal : AgentChangeRequestProposal) :
    List (String × Option Json) :=
  [("schemaVersion", some (ofNat proposal.schemaVersion.toNat)),
    ("repositoryId", some (.string proposal.repositoryId)),
    ("sourceHeadCommitOid", some (.string proposal.sourceHeadCommitOid)),
    ("title", some (.string proposal.title)), ("body", some (.string proposal.body)),
    ("issueKeys", some (ofList .string proposal.issueKeys)),
    ("verification", proposal.verification.map AgentChangeRequestVerification.toJson)]

def AgentChangeRequestProposal.toJson (proposal : AgentChangeRequestProposal) : Json :=
  record proposal.slots

def AgentMrLinkProposal.slots (proposal : AgentMrLinkProposal) : List (String × Option Json) :=
  [("schemaVersion", some (ofNat proposal.schemaVersion.toNat)),
    ("repositoryId", some (.string proposal.repositoryId)),
    ("iid", some (ofNat proposal.iid.toNat))]

def AgentMrLinkProposal.toJson (proposal : AgentMrLinkProposal) : Json :=
  record proposal.slots

def AgentSession.slots : List (String × Option Json) :=
  [("schemaVersion", some (ofNat session.schemaVersion.toNat)),
    ("sessionId", some (ofUuid session.sessionId)),
    ("workspaceId", some (ofUuid session.workspaceId)),
    ("provider", some (providerJson session.provider)),
    ("terminal", some session.terminal.toJson), ("category", some session.category.toJson),
    ("status", some session.status.toJson),
    ("startedAtUnixMs", some (ofInt64 session.startedAtUnixMs)),
    ("lastHeartbeatAtUnixMs", some (ofInt64 session.lastHeartbeatAtUnixMs)),
    ("endedAtUnixMs", some (nullable ofInt64 session.endedAtUnixMs)),
    ("failure", some (nullable AgentSessionFailure.toJson session.failure)),
    ("needsInput", session.needsInput.map AgentNeedsInput.toJson),
    ("changeRequestProposals",
      nonempty AgentChangeRequestProposal.toJson session.changeRequestProposals),
    ("mrLinkProposals", nonempty AgentMrLinkProposal.toJson session.mrLinkProposals)]

def AgentSession.toJson : Json :=
  record session.slots

def AgentSessionList.slots (list : AgentSessionList) : List (String × Option Json) :=
  [("schemaVersion", some (ofNat list.schemaVersion.toNat)),
    ("sessions", some (ofList AgentSession.toJson list.sessions)),
    ("observedSessions", nonempty id list.observedSessions),
    ("unassignedWork", nonempty id list.unassignedWork)]

def AgentSessionList.toJson (list : AgentSessionList) : Json :=
  record list.slots

def readProvider : Json → Option AgentProvider :=
  variant [("codex", .codex), ("openCode", .openCode), ("hermes", .hermes), ("copilot", .copilot)]

def TerminalProvider.ofJson : Json → Option TerminalProvider :=
  variant [("terminal", .terminal), ("warp", .warp)]

def AgentSessionCategory.ofJson : Json → Option AgentSessionCategory :=
  variant
    [("uncategorized", .uncategorized), ("ideation", .ideation), ("investigation", .investigation),
      ("implementation", .implementation), ("verification", .verification), ("review", .review),
      ("other", .other)]

def AgentSessionStatus.ofJson : Json → Option AgentSessionStatus :=
  variant
    [("launching", .launching), ("handoffAccepted", .handoffAccepted), ("running", .running),
      ("stopping", .stopping), ("completed", .completed), ("failed", .failed),
      ("interrupted", .interrupted)]

def AgentSessionFailure.ofJson : Json → Option AgentSessionFailure :=
  variant
    [("launchRejected", .launchRejected), ("providerFailed", .providerFailed),
      ("processExited", .processExited), ("staleHeartbeat", .staleHeartbeat),
      ("launchOutcomeUnknown", .launchOutcomeUnknown), ("userStopped", .userStopped)]

def AgentNeedsInputKind.ofJson : Json → Option AgentNeedsInputKind :=
  variant [("question", .question), ("access", .access)]

def needsInputFields : List String :=
  ["kind", "detail"]

/-- The reader refuses a detail that does not belong to its kind. -/
def AgentNeedsInput.ofJson (value : Json) : Option AgentNeedsInput := do
  let fields ← objectFields needsInputFields value
  let kind ← readField AgentNeedsInputKind.ofJson "kind" fields
  let detail ← readField text "detail" fields
  let input : AgentNeedsInput := { kind := kind, detail := detail }
  if input.isValid then some input else none

def AgentChangeRequestVerificationStatus.ofJson :
    Json → Option AgentChangeRequestVerificationStatus :=
  variant
    [("notReported", .notReported), ("passed", .passed), ("partial", .partly), ("failed", .failed)]

def verificationFields : List String :=
  ["status", "summary"]

def AgentChangeRequestVerification.ofJson (value : Json) :
    Option AgentChangeRequestVerification := do
  let fields ← objectFields verificationFields value
  let status ← readField AgentChangeRequestVerificationStatus.ofJson "status" fields
  let summary ← readField text "summary" fields
  some { status := status, summary := summary }

def proposalFields : List String :=
  ["schemaVersion", "repositoryId", "sourceHeadCommitOid", "title", "body", "issueKeys",
    "verification"]

def AgentChangeRequestProposal.ofJson (value : Json) : Option AgentChangeRequestProposal := do
  let fields ← objectFields proposalFields value
  let schemaVersion ← readField uint32 "schemaVersion" fields
  let repositoryId ← readField text "repositoryId" fields
  let sourceHeadCommitOid ← readField text "sourceHeadCommitOid" fields
  let title ← readField text "title" fields
  let body ← readField text "body" fields
  let issueKeys ← readField (list text) "issueKeys" fields
  let verification ← readOptional AgentChangeRequestVerification.ofJson "verification" fields
  some {
    schemaVersion := schemaVersion
    repositoryId := repositoryId
    sourceHeadCommitOid := sourceHeadCommitOid
    title := title
    body := body
    issueKeys := issueKeys
    verification := verification }

def mrLinkProposalFields : List String :=
  ["schemaVersion", "repositoryId", "iid"]

def AgentMrLinkProposal.ofJson (value : Json) : Option AgentMrLinkProposal := do
  let fields ← objectFields mrLinkProposalFields value
  let schemaVersion ← readField uint32 "schemaVersion" fields
  let repositoryId ← readField text "repositoryId" fields
  let iid ← readField uint64 "iid" fields
  some { schemaVersion := schemaVersion, repositoryId := repositoryId, iid := iid }

def sessionFields : List String :=
  ["schemaVersion", "sessionId", "workspaceId", "provider", "terminal", "category", "status",
    "startedAtUnixMs", "lastHeartbeatAtUnixMs", "endedAtUnixMs", "failure", "needsInput",
    "changeRequestProposals", "mrLinkProposals"]

def AgentSession.ofJson (value : Json) : Option AgentSession := do
  let fields ← objectFields sessionFields value
  let schemaVersion ← readField uint32 "schemaVersion" fields
  let sessionId ← readField uuid "sessionId" fields
  let workspaceId ← readField uuid "workspaceId" fields
  let provider ← readField readProvider "provider" fields
  let terminalProvider ← readField TerminalProvider.ofJson "terminal" fields
  let category ← readField AgentSessionCategory.ofJson "category" fields
  let status ← readField AgentSessionStatus.ofJson "status" fields
  let startedAtUnixMs ← readField int64 "startedAtUnixMs" fields
  let lastHeartbeatAtUnixMs ← readField int64 "lastHeartbeatAtUnixMs" fields
  let endedAtUnixMs ← readOptional int64 "endedAtUnixMs" fields
  let failure ← readOptional AgentSessionFailure.ofJson "failure" fields
  let needsInput ← readOptional AgentNeedsInput.ofJson "needsInput" fields
  let changeRequestProposals ←
    readList AgentChangeRequestProposal.ofJson "changeRequestProposals" fields
  let mrLinkProposals ← readList AgentMrLinkProposal.ofJson "mrLinkProposals" fields
  some {
    schemaVersion := schemaVersion
    sessionId := sessionId
    workspaceId := workspaceId
    provider := provider
    terminal := terminalProvider
    category := category
    status := status
    startedAtUnixMs := startedAtUnixMs
    lastHeartbeatAtUnixMs := lastHeartbeatAtUnixMs
    endedAtUnixMs := endedAtUnixMs
    failure := failure
    needsInput := needsInput
    changeRequestProposals := changeRequestProposals
    mrLinkProposals := mrLinkProposals }

/-- Which values are readable as an observed session and as unassigned work. Both are dropped after
reading, so only their acceptance matters. -/
structure LedgerReader where
  acceptsObserved : Json → Bool
  acceptsUnassigned : Json → Bool

def keepIf (accepts : Json → Bool) (value : Json) : Option Json :=
  if accepts value then some value else none

def listFields : List String :=
  ["schemaVersion", "sessions", "observedSessions", "unassignedWork"]

variable (reader : LedgerReader)

def AgentSessionList.ofJson (value : Json) : Option AgentSessionList := do
  let fields ← objectFields listFields value
  let schemaVersion ← readField uint32 "schemaVersion" fields
  let sessions ← readField (list AgentSession.ofJson) "sessions" fields
  let observedSessions ← readList (keepIf reader.acceptsObserved) "observedSessions" fields
  let unassignedWork ← readList (keepIf reader.acceptsUnassigned) "unassignedWork" fields
  some {
    schemaVersion := schemaVersion
    sessions := sessions
    observedSessions := observedSessions
    unassignedWork := unassignedWork }

def ledgerText (sessions : List AgentSession) : String :=
  Json.pretty
    (AgentSessionList.toJson
      { schemaVersion := agentSessionSchemaVersion, sessions := sessions, observedSessions := [],
        unassignedWork := [] })

/-- The checks of `read_locked` on the text of the file, and the sessions that it gives. -/
def readLedger (contents : String) :
    Except AgentSessionStoreError (List AgentSession) :=
  if maxSessionFileBytes < contents.utf8ByteSize then .error .invalid
  else
    match (Json.parse contents).bind (AgentSessionList.ofJson reader) with
    | none => .error .invalid
    | some list =>
      if list.schemaVersion ≠ agentSessionSchemaVersion ∨
          maxRetainedSessions < list.sessions.length ∨
          ∃ session ∈ list.sessions, ¬ValidSession session then
        .error .invalid
      else
        .ok list.sessions

/-- What one call gets from outside: the milliseconds since the Unix epoch, none if the clock is
before it, the identifier that `Uuid::new_v4` draws, and whether the file can be read and written. -/
structure CallEnv where
  clock : Option ℕ
  fresh : Uuid
  readable : Bool
  writable : Bool

def nowUnixMs (env : CallEnv) : Except AgentSessionStoreError Int64 :=
  match env.clock with
  | none => .error .unavailable
  | some milliseconds =>
    if milliseconds < 2 ^ 63 then .ok (Int64.ofNat milliseconds) else .error .unavailable

/-- `read_locked`: none stands for a missing file. -/
def readLocked (env : CallEnv) (file : Option String) :
    Except AgentSessionStoreError (List AgentSession) :=
  match file with
  | none => .error .unavailable
  | some contents => if env.readable then readLedger reader contents else .error .unavailable

/-- `write_locked`: the new contents of the file. It is replaced as a whole. -/
def writeLocked (env : CallEnv) (sessions : List AgentSession) :
    Except AgentSessionStoreError String :=
  if maxSessionFileBytes < (ledgerText sessions).utf8ByteSize then .error .invalid
  else if env.writable then .ok (ledgerText sessions)
  else .error .unavailable

def saturatingSub (left right : Int64) : ℤ :=
  max (-2 ^ 63) (min (2 ^ 63 - 1) (left.toInt - right.toInt))

def AgentSession.interrupted (now : Int64) (failure : AgentSessionFailure) :
    AgentSession :=
  { session with
    status := .interrupted
    endedAtUnixMs := some now
    failure := some failure
    needsInput := none }

def recoverStaleSession (now : Int64) (session : AgentSession) : AgentSession :=
  if staleHeartbeatAfterMs < saturatingSub now session.lastHeartbeatAtUnixMs then
    match session.status with
    | .launching => session.interrupted now .launchOutcomeUnknown
    | .running | .stopping => session.interrupted now .staleHeartbeat
    | _ => session
  else
    session

def recoverStale (now : Int64) (sessions : List AgentSession) : List AgentSession :=
  sessions.map (recoverStaleSession now)

def recoverOrphanedSession (now : Int64) (session : AgentSession) : AgentSession :=
  match session.status with
  | .launching =>
    AgentSession.interrupted { session with lastHeartbeatAtUnixMs := now } now .launchOutcomeUnknown
  | .running | .stopping =>
    AgentSession.interrupted { session with lastHeartbeatAtUnixMs := now } now .processExited
  | _ => session

def recoverOrphaned (now : Int64) (sessions : List AgentSession) : List AgentSession :=
  sessions.map (recoverOrphanedSession now)

/-- The order of start times, then of identifiers. -/
def startedBefore (left right : AgentSession) : Bool :=
  left.startedAtUnixMs.toInt < right.startedAtUnixMs.toInt ||
    (left.startedAtUnixMs = right.startedAtUnixMs && left.sessionId < right.sessionId)

/-- The position of the first ended session with the least start time and identifier. -/
def oldestEnded (sessions : List AgentSession) : Option ℕ :=
  let ended := sessions.zipIdx.filter fun entry => !entry.1.status.isLive
  let oldest := ended.foldl (fun best entry =>
    match best with
    | none => some entry
    | some kept => if startedBefore entry.1 kept.1 then some entry else some kept) none
  oldest.map Prod.snd

/-- `prune_terminal_sessions`: a full ledger loses one ended session, if it has one. -/
def pruneTerminalSessions (sessions : List AgentSession) : List AgentSession :=
  if sessions.length < maxRetainedSessions then sessions
  else
    match oldestEnded sessions with
    | none => sessions
    | some index => sessions.eraseIdx index

/-! ### Operations -/

inductive SessionAnswer where
  | opened
  | session (session : AgentSession)
  | listed (sessions : List AgentSession)

/-- What an operation does with the sessions that it read: the sessions to write back, if any, and
its answer once they are written. -/
structure LedgerChange where
  written : Option (List AgentSession)
  answer : Except AgentSessionStoreError SessionAnswer

/-- The frame of every operation: read, change, write back. -/
def withLedger (env : CallEnv) (file : Option String) (body : List AgentSession → LedgerChange) :
    Except AgentSessionStoreError SessionAnswer × Option String :=
  match readLocked reader env file with
  | .error error => (.error error, file)
  | .ok sessions =>
    match (body sessions).written with
    | none => ((body sessions).answer, file)
    | some written =>
      match writeLocked env written with
      | .error error => (.error error, file)
      | .ok contents => ((body sessions).answer, some contents)

/-- The frame of the operations that read the clock first. -/
def withClock (env : CallEnv) (file : Option String)
    (body : Int64 → List AgentSession → LedgerChange) :
    Except AgentSessionStoreError SessionAnswer × Option String :=
  match nowUnixMs env with
  | .error error => (.error error, file)
  | .ok now => withLedger reader env file (body now)

/-- `start_at` and `begin_launch`, which differ in the first status. -/
def openSession (status : AgentSessionStatus) (fresh workspaceId : Uuid) (provider : AgentProvider)
    (terminalProvider : TerminalProvider) (category : AgentSessionCategory) (now : Int64)
    (sessions : List AgentSession) : LedgerChange :=
  let session : AgentSession :=
    { schemaVersion := agentSessionSchemaVersion
      sessionId := fresh
      workspaceId := workspaceId
      provider := provider
      terminal := terminalProvider
      category := category
      status := status
      startedAtUnixMs := now
      lastHeartbeatAtUnixMs := now
      endedAtUnixMs := none
      failure := none
      needsInput := none
      changeRequestProposals := []
      mrLinkProposals := [] }
  { written := some (pruneTerminalSessions (recoverStale now sessions) ++ [session])
    answer := .ok (.session session) }

/-- The operations on one session: the session is looked up, must have one of some statuses and is
changed. `rewrites` says that a session with another status still has the ledger written back. -/
def updateSession (sessionId : Uuid) (eligible : AgentSessionStatus → Bool) (rewrites : Bool)
    (change : AgentSession → AgentSession) (sessions : List AgentSession) : LedgerChange :=
  match sessions.find? fun session => session.sessionId = sessionId with
  | none => { written := none, answer := .error .notFound }
  | some session =>
    if eligible session.status then
      { written := some (modifyFirst (fun session => session.sessionId = sessionId) change sessions)
        answer := .ok (.session (change session)) }
    else
      { written := if rewrites then some sessions else none
        answer := .error .notRunning }

def isRunningOrStopping : AgentSessionStatus → Bool
  | .running | .stopping => true
  | _ => false

def updateRunning (sessionId : Uuid)
    (ending : Option (AgentSessionStatus × Option AgentSessionFailure)) (now : Int64)
    (sessions : List AgentSession) : LedgerChange :=
  updateSession sessionId isRunningOrStopping true
    (fun session =>
      match ending with
      | none => { session with lastHeartbeatAtUnixMs := now }
      | some (status, failure) =>
        { session with
          lastHeartbeatAtUnixMs := now
          status := status
          endedAtUnixMs := if status ≠ .stopping then some now else none
          failure := failure
          needsInput := none })
    (recoverStale now sessions)

def updateLaunch (sessionId : Uuid) (status : AgentSessionStatus)
    (failure : Option AgentSessionFailure) (now : Int64) (sessions : List AgentSession) :
    LedgerChange :=
  updateSession sessionId (fun status => status = .launching) true
    (fun session =>
      { session with
        lastHeartbeatAtUnixMs := now
        status := status
        endedAtUnixMs := if status ≠ .running then some now else none
        failure := failure
        needsInput := if status ≠ .running then none else session.needsInput })
    (recoverStale now sessions)

def setNeedsInput (sessionId : Uuid) (needsInput : Option AgentNeedsInput) (now : Int64)
    (sessions : List AgentSession) : LedgerChange :=
  updateSession sessionId (fun status => status = .running) true
    (fun session => { session with lastHeartbeatAtUnixMs := now, needsInput := needsInput })
    (recoverStale now sessions)

/-- `set_change_request_proposals` after its check of the proposals. -/
def setChangeRequestProposals (sessionId : Uuid) (proposals : List AgentChangeRequestProposal)
    (now : Int64) (sessions : List AgentSession) : LedgerChange :=
  updateSession sessionId isRunningOrStopping true
    (fun session =>
      { session with lastHeartbeatAtUnixMs := now, changeRequestProposals := proposals })
    (recoverStale now sessions)

/-- `set_mr_link_proposals` after its check of the proposals. It neither reads the clock nor recovers
stale sessions. -/
def setMrLinkProposals (sessionId : Uuid) (proposals : List AgentMrLinkProposal)
    (sessions : List AgentSession) : LedgerChange :=
  updateSession sessionId isRunningOrStopping false
    (fun session => { session with mrLinkProposals := proposals }) sessions

/-- `request_stop`. It does not recover stale sessions. -/
def requestStop (sessionId : Uuid) (now : Int64) (sessions : List AgentSession) : LedgerChange :=
  updateSession sessionId (fun status => status = .launching || status = .running) false
    (fun session =>
      { session with status := .stopping, needsInput := none, lastHeartbeatAtUnixMs := now })
    sessions

/-- Newest first, then by identifier. -/
def listOrder (left right : AgentSession) : Bool :=
  right.startedAtUnixMs.toInt < left.startedAtUnixMs.toInt ||
    (right.startedAtUnixMs = left.startedAtUnixMs && left.sessionId ≤ right.sessionId)

def listSessions (workspaceId : Option Uuid) (now : Int64) (sessions : List AgentSession) :
    LedgerChange :=
  let recovered := recoverStale now sessions
  { written := if recovered ≠ sessions then some recovered else none
    answer := .ok (.listed ((recovered.filter fun session =>
      workspaceId.all fun id => session.workspaceId = id).mergeSort listOrder)) }

inductive SessionCall where
  | reopen
  | start (workspaceId : Uuid) (provider : AgentProvider) (terminalProvider : TerminalProvider)
      (category : AgentSessionCategory)
  | beginLaunch (workspaceId : Uuid) (provider : AgentProvider) (terminalProvider : TerminalProvider)
      (category : AgentSessionCategory)
  | acceptHandoff (sessionId : Uuid)
  | acceptOwnedProcess (sessionId : Uuid)
  | failLaunch (sessionId : Uuid) (failure : AgentSessionFailure)
  | rejectLaunch (sessionId : Uuid)
  | heartbeat (sessionId : Uuid)
  | setNeedsInput (sessionId : Uuid) (needsInput : Option AgentNeedsInput)
  | setChangeRequestProposals (sessionId : Uuid) (proposals : List AgentChangeRequestProposal)
  | setMrLinkProposals (sessionId : Uuid) (proposals : List AgentMrLinkProposal)
  | finish (sessionId : Uuid)
  | fail (sessionId : Uuid) (failure : AgentSessionFailure)
  | requestStop (sessionId : Uuid)
  | interrupt (sessionId : Uuid) (failure : AgentSessionFailure)
  | list (workspaceId : Option Uuid)

/-- `AgentSessionStore::open` on the ledger: a missing file is created, and sessions of a stopped
host are ended. -/
def openStore (env : CallEnv) (file : Option String) :
    Except AgentSessionStoreError SessionAnswer × Option String :=
  match file with
  | none =>
    match writeLocked env [] with
    | .error error => (.error error, none)
    | .ok contents => (.ok .opened, some contents)
  | some _ =>
    match readLocked reader env file, nowUnixMs env with
    | .error error, _ => (.error error, file)
    | .ok _, .error error => (.error error, file)
    | .ok sessions, .ok now =>
      if recoverOrphaned now sessions = sessions then (.ok .opened, file)
      else
        match writeLocked env (recoverOrphaned now sessions) with
        | .error error => (.error error, file)
        | .ok contents => (.ok .opened, some contents)

/-- One call on the ledger file. -/
def perform (env : CallEnv) (file : Option String) :
    SessionCall → Except AgentSessionStoreError SessionAnswer × Option String
  | .reopen => openStore reader env file
  | .start workspaceId provider terminalProvider category =>
    withClock reader env file
      (openSession .running env.fresh workspaceId provider terminalProvider category)
  | .beginLaunch workspaceId provider terminalProvider category =>
    withClock reader env file
      (openSession .launching env.fresh workspaceId provider terminalProvider category)
  | .acceptHandoff sessionId =>
    withClock reader env file (updateLaunch sessionId .handoffAccepted none)
  | .acceptOwnedProcess sessionId =>
    withClock reader env file (updateLaunch sessionId .running none)
  | .failLaunch sessionId failure =>
    withClock reader env file (updateLaunch sessionId .failed (some failure))
  | .rejectLaunch sessionId =>
    withClock reader env file (updateLaunch sessionId .failed (some .launchRejected))
  | .heartbeat sessionId => withClock reader env file (updateRunning sessionId none)
  | .setNeedsInput sessionId needsInput =>
    withClock reader env file (setNeedsInput sessionId needsInput)
  | .setChangeRequestProposals sessionId proposals =>
    if 16 < proposals.length ∨ ∃ proposal ∈ proposals, ¬validProposal proposal then
      (.error .invalid, file)
    else
      withClock reader env file (setChangeRequestProposals sessionId proposals)
  | .setMrLinkProposals sessionId proposals =>
    if 16 < proposals.length ∨ ∃ proposal ∈ proposals, ¬validMrLinkProposal proposal then
      (.error .invalid, file)
    else
      withLedger reader env file (setMrLinkProposals sessionId proposals)
  | .finish sessionId =>
    withClock reader env file (updateRunning sessionId (some (.completed, none)))
  | .fail sessionId failure =>
    withClock reader env file (updateRunning sessionId (some (.failed, some failure)))
  | .requestStop sessionId => withClock reader env file (requestStop sessionId)
  | .interrupt sessionId failure =>
    withClock reader env file (updateRunning sessionId (some (.interrupted, some failure)))
  | .list workspaceId => withClock reader env file (listSessions workspaceId)

/-- A run of calls, each with its environment. -/
def ledgerRun (reader : LedgerReader) (file : Option String) :
    List (SessionCall × CallEnv) → Option String
  | [] => file
  | (call, env) :: rest => ledgerRun reader (perform reader env file call).2 rest

end Wts.AgentSessions
