/-
Module: Wts.Proofs.AgentSessionJson
Purpose: A written ledger is read back: every record of the session file inverts its serialization, the
  checked input signal included.
Trusted boundary: none
Main exports: parse_ledgerText
-/
import Wts.App.AgentSessions

namespace Wts.AgentSessions

open Option Serde
open Collaboration (AgentProvider)

@[simp] theorem readProvider_providerJson (provider : AgentProvider) :
    readProvider (providerJson provider) = some provider := by
  cases provider <;> rfl

@[simp] theorem TerminalProvider.ofJson_toJson (provider : TerminalProvider) :
    TerminalProvider.ofJson provider.toJson = some provider := by
  cases provider <;> rfl

@[simp] theorem AgentSessionCategory.ofJson_toJson (category : AgentSessionCategory) :
    AgentSessionCategory.ofJson category.toJson = some category := by
  cases category <;> rfl

@[simp] theorem AgentSessionStatus.ofJson_toJson (status : AgentSessionStatus) :
    AgentSessionStatus.ofJson status.toJson = some status := by
  cases status <;> rfl

@[simp] theorem AgentSessionFailure.ofJson_toJson (failure : AgentSessionFailure) :
    AgentSessionFailure.ofJson failure.toJson = some failure := by
  cases failure <;> rfl

@[simp] theorem AgentNeedsInputKind.ofJson_toJson (kind : AgentNeedsInputKind) :
    AgentNeedsInputKind.ofJson kind.toJson = some kind := by
  cases kind <;> rfl

@[simp] theorem AgentChangeRequestVerificationStatus.ofJson_toJson
    (status : AgentChangeRequestVerificationStatus) :
    AgentChangeRequestVerificationStatus.ofJson status.toJson = some status := by
  cases status <;> rfl

/-! ### Records -/

theorem AgentNeedsInput.distinct (input : AgentNeedsInput) : (input.slots.map Prod.fst).Nodup := by
  show needsInputFields.Nodup
  decide

theorem AgentNeedsInput.ofJson_toJson {input : AgentNeedsInput} (valid : input.isValid) :
    AgentNeedsInput.ofJson input.toJson = some input := by
  have fields := objectFields_record needsInputFields input.distinct fun _ member => member
  have kind := readField_present "kind" input.distinct rfl
    (AgentNeedsInputKind.ofJson_toJson input.kind)
  have detail := readField_present "detail" input.distinct rfl (text_string input.detail)
  simp only [AgentNeedsInput.ofJson, AgentNeedsInput.toJson, fields, kind, detail,
    bind_eq_bind, bind_some, valid, if_true]

section

variable (verification : AgentChangeRequestVerification)
include verification

theorem AgentChangeRequestVerification.distinct : (verification.slots.map Prod.fst).Nodup := by
  show verificationFields.Nodup
  decide

theorem AgentChangeRequestVerification.ofJson_toJson :
    AgentChangeRequestVerification.ofJson verification.toJson = some verification := by
  have fields := objectFields_record verificationFields verification.distinct fun _ member => member
  have status := readField_present "status" verification.distinct rfl
    (AgentChangeRequestVerificationStatus.ofJson_toJson verification.status)
  have summary := readField_present "summary" verification.distinct rfl
    (text_string verification.summary)
  simp only [AgentChangeRequestVerification.ofJson, AgentChangeRequestVerification.toJson, fields,
    status, summary, bind_eq_bind, bind_some]

theorem AgentChangeRequestVerification.toJson_ne_null : verification.toJson ≠ .null := by
  intro same
  cases same

end

theorem AgentChangeRequestProposal.distinct (proposal : AgentChangeRequestProposal) :
    (proposal.slots.map Prod.fst).Nodup := by
  show proposalFields.Nodup
  decide

theorem AgentChangeRequestProposal.ofJson_toJson (proposal : AgentChangeRequestProposal) :
    AgentChangeRequestProposal.ofJson proposal.toJson = some proposal := by
  have fields := objectFields_record proposalFields proposal.distinct fun _ member => member
  have schemaVersion := readField_present "schemaVersion" proposal.distinct rfl
    (uint32_ofNat proposal.schemaVersion)
  have repositoryId := readField_present "repositoryId" proposal.distinct rfl
    (text_string proposal.repositoryId)
  have sourceHeadCommitOid := readField_present "sourceHeadCommitOid" proposal.distinct rfl
    (text_string proposal.sourceHeadCommitOid)
  have title := readField_present "title" proposal.distinct rfl (text_string proposal.title)
  have body := readField_present "body" proposal.distinct rfl (text_string proposal.body)
  have issueKeys := readField_present "issueKeys" proposal.distinct rfl
    (list_ofList fun key (_ : key ∈ proposal.issueKeys) => text_string key)
  have verification := readOptional_present "verification" proposal.distinct rfl
    (fun verification _ => AgentChangeRequestVerification.ofJson_toJson verification)
    AgentChangeRequestVerification.toJson_ne_null
  simp only [AgentChangeRequestProposal.ofJson, AgentChangeRequestProposal.toJson, fields,
    schemaVersion, repositoryId, sourceHeadCommitOid, title, body, issueKeys, verification,
    bind_eq_bind, bind_some]

theorem AgentMrLinkProposal.distinct (proposal : AgentMrLinkProposal) :
    (proposal.slots.map Prod.fst).Nodup := by
  show mrLinkProposalFields.Nodup
  decide

theorem AgentMrLinkProposal.ofJson_toJson (proposal : AgentMrLinkProposal) :
    AgentMrLinkProposal.ofJson proposal.toJson = some proposal := by
  have fields := objectFields_record mrLinkProposalFields proposal.distinct fun _ member => member
  have schemaVersion := readField_present "schemaVersion" proposal.distinct rfl
    (uint32_ofNat proposal.schemaVersion)
  have repositoryId := readField_present "repositoryId" proposal.distinct rfl
    (text_string proposal.repositoryId)
  have iid := readField_present "iid" proposal.distinct rfl (uint64_ofNat proposal.iid)
  simp only [AgentMrLinkProposal.ofJson, AgentMrLinkProposal.toJson, fields, schemaVersion,
    repositoryId, iid, bind_eq_bind, bind_some]

theorem AgentSession.distinct (session : AgentSession) : (session.slots.map Prod.fst).Nodup := by
  show sessionFields.Nodup
  decide

theorem ValidSession.needsInput {session : AgentSession} (valid : ValidSession session) :
    ∀ input ∈ session.needsInput, input.isValid := by
  have consistent := valid.consistent
  unfold statusConsistent at consistent
  split at consistent
  case h_3 =>
    intro input present
    have all := consistent.2.2
    rw [present] at all
    exact all
  all_goals
    intro input present
    rw [consistent.2.2] at present
    cases present

theorem AgentSession.ofJson_toJson {session : AgentSession}
    (valid : ∀ input ∈ session.needsInput, input.isValid) :
    AgentSession.ofJson session.toJson = some session := by
  have fields := objectFields_record sessionFields session.distinct fun _ member => member
  have schemaVersion := readField_present "schemaVersion" session.distinct rfl
    (uint32_ofNat session.schemaVersion)
  have sessionId := readField_present "sessionId" session.distinct rfl
    (uuid_ofUuid session.sessionId)
  have workspaceId := readField_present "workspaceId" session.distinct rfl
    (uuid_ofUuid session.workspaceId)
  have provider := readField_present "provider" session.distinct rfl
    (readProvider_providerJson session.provider)
  have terminalProvider := readField_present "terminal" session.distinct rfl
    (TerminalProvider.ofJson_toJson session.terminal)
  have category := readField_present "category" session.distinct rfl
    (AgentSessionCategory.ofJson_toJson session.category)
  have status := readField_present "status" session.distinct rfl
    (AgentSessionStatus.ofJson_toJson session.status)
  have started := readField_present "startedAtUnixMs" session.distinct rfl
    (int64_ofInt64 session.startedAtUnixMs)
  have heartbeat := readField_present "lastHeartbeatAtUnixMs" session.distinct rfl
    (int64_ofInt64 session.lastHeartbeatAtUnixMs)
  have ended := readOptional_nullable "endedAtUnixMs" session.distinct rfl
    (fun time (_ : time ∈ session.endedAtUnixMs) => int64_ofInt64 time)
    (fun time same => Json.noConfusion same)
  have failure := readOptional_nullable "failure" session.distinct rfl
    (fun failure (_ : failure ∈ session.failure) => AgentSessionFailure.ofJson_toJson failure)
    (by intro failure same; cases failure <;> cases same)
  have needsInput := readOptional_present "needsInput" session.distinct rfl
    (fun input present => AgentNeedsInput.ofJson_toJson (valid input present))
    (by intro input same; cases same)
  have proposals := readList_present "changeRequestProposals" session.distinct rfl
    (fun proposal (_ : proposal ∈ session.changeRequestProposals) =>
      AgentChangeRequestProposal.ofJson_toJson proposal)
  have links := readList_present "mrLinkProposals" session.distinct rfl
    (fun proposal (_ : proposal ∈ session.mrLinkProposals) =>
      AgentMrLinkProposal.ofJson_toJson proposal)
  calc AgentSession.ofJson session.toJson
      = _ := bind_of_eq_some fields _
    _ = _ := bind_of_eq_some schemaVersion _
    _ = _ := bind_of_eq_some sessionId _
    _ = _ := bind_of_eq_some workspaceId _
    _ = _ := bind_of_eq_some provider _
    _ = _ := bind_of_eq_some terminalProvider _
    _ = _ := bind_of_eq_some category _
    _ = _ := bind_of_eq_some status _
    _ = _ := bind_of_eq_some started _
    _ = _ := bind_of_eq_some heartbeat _
    _ = _ := bind_of_eq_some ended _
    _ = _ := bind_of_eq_some failure _
    _ = _ := bind_of_eq_some needsInput _
    _ = _ := bind_of_eq_some proposals _
    _ = _ := bind_of_eq_some links _
    _ = some session := rfl

theorem AgentSessionList.distinct (list : AgentSessionList) : (list.slots.map Prod.fst).Nodup := by
  show listFields.Nodup
  decide

/-- A ledger is read back. -/
theorem parse_ledgerText (reader : LedgerReader) {sessions : List AgentSession}
    (valid : ∀ session ∈ sessions, ∀ input ∈ session.needsInput, input.isValid) :
    (Json.parse (ledgerText sessions)).bind (AgentSessionList.ofJson reader) =
      some { schemaVersion := agentSessionSchemaVersion, sessions := sessions,
             observedSessions := [], unassignedWork := [] } := by
  let written : AgentSessionList :=
    { schemaVersion := agentSessionSchemaVersion, sessions := sessions, observedSessions := [],
      unassignedWork := [] }
  have fields := objectFields_record listFields written.distinct fun _ member => member
  have schemaVersion := readField_present "schemaVersion" written.distinct rfl
    (uint32_ofNat written.schemaVersion)
  have read := readField_present "sessions" written.distinct rfl
    (list_ofList fun session (member : session ∈ written.sessions) =>
      AgentSession.ofJson_toJson (valid session member))
  have observed : readList (keepIf reader.acceptsObserved) "observedSessions"
      (present written.slots) = some written.observedSessions :=
    readList_present "observedSessions" written.distinct rfl fun _ member => by cases member
  have unassigned : readList (keepIf reader.acceptsUnassigned) "unassignedWork"
      (present written.slots) = some written.unassignedWork :=
    readList_present "unassignedWork" written.distinct rfl fun _ member => by cases member
  rw [ledgerText, Json.parse_pretty, bind_some]
  simp only [AgentSessionList.ofJson, AgentSessionList.toJson]
  simp only [written] at fields schemaVersion read observed unassigned
  simp only [fields, schemaVersion, read, observed, unassigned, bind_eq_bind, bind_some]

end Wts.AgentSessions
