/-
Module: Wts.Core.WorkspaceJson
Purpose: The JSON form of the workspace requests, as their derived serialization defines it:
  camel-case names, unknown fields rejected, optional fields left out when absent, intents tagged by
  `type`.
-/
import Wts.Core.Workspace
import Wts.Library.JsonRoundTrip
import Wts.Library.Serde

namespace Wts.Workspace

open Serde

def WorkspaceIntent.toJson : WorkspaceIntent → Json
  | .jira issueKey => .object [("type", .string "jira"), ("issueKey", .string issueKey)]
  | .openProject workPackageId displayId =>
    .object
      [("type", .string "openProject"), ("workPackageId", ofNat workPackageId.toNat),
        ("displayId", .string displayId)]
  | .repositorySet label => .object [("type", .string "repositorySet"), ("label", .string label)]

def WorkspaceProvider.toJson : WorkspaceProvider → Json
  | .codex => .string "codex"
  | .openCode => .string "openCode"
  | .hermes => .string "hermes"
  | .vsCode => .string "vsCode"
  | .copilot => .string "copilot"

def WorkspacePhase.toJson : WorkspacePhase → Json
  | .draft => .string "draft"

def WorkspaceRepositoryRequest.toJson (repository : WorkspaceRepositoryRequest) : Json :=
  .object
    (writeOptional "repositoryId" .string repository.repositoryId ++
      [("label", .string repository.label), ("baseRef", .string repository.baseRef)])

def RuntimePortPolicy.toJson : RuntimePortPolicy → Json
  | .prefer => .string "prefer"
  | .fixed => .string "fixed"

def RuntimePortSelection.toJson (port : RuntimePortSelection) : Json :=
  .object
    [("portId", .string port.portId), ("preferredPort", ofNat port.preferredPort.toNat),
      ("policy", port.policy.toJson)]

def RuntimeServiceSelection.toJson (service : RuntimeServiceSelection) : Json :=
  .object
    [("candidateId", .string service.candidateId),
      ("ports", ofList RuntimePortSelection.toJson service.ports)]

def RuntimePlanSelection.toJson (runtime : RuntimePlanSelection) : Json :=
  .object
    [("analysisDigest", .string runtime.analysisDigest),
      ("services", ofList RuntimeServiceSelection.toJson runtime.services)]

def WorkspacePlanningFolder.toJson : WorkspacePlanningFolder → Json
  | .plans => .string "plans"
  | .plansAndKanban => .string "plansAndKanban"

def WorkspacePlanningFormat.toJson : WorkspacePlanningFormat → Json
  | .notes => .string "notes"
  | .kanban => .string "kanban"

def WorkspacePlanningSelection.toJson (planning : WorkspacePlanningSelection) : Json :=
  .object [("folder", planning.folder.toJson), ("format", planning.format.toJson)]

def CreateWorkspaceRequest.fields (request : CreateWorkspaceRequest) : List (String × Json) :=
  [("intent", request.intent.toJson), ("title", .string request.title),
      ("preferredProvider", request.preferredProvider.toJson),
      ("repositories", ofList WorkspaceRepositoryRequest.toJson request.repositories)] ++
    (writeOptional "runtime" RuntimePlanSelection.toJson request.runtime ++
      writeOptional "planning" WorkspacePlanningSelection.toJson request.planning)

def CreateWorkspaceRequest.toJson (request : CreateWorkspaceRequest) : Json :=
  .object request.fields

/-! ### Reading -/

/-- The tag decides which other fields are known. -/
def WorkspaceIntent.ofJson (value : Json) : Option WorkspaceIntent :=
  match objectFields ["type", "issueKey", "workPackageId", "displayId", "label"] value with
  | none => none
  | some fields =>
    match readField text "type" fields with
    | some "jira" =>
      if ∀ name ∈ fields.map Prod.fst, name ∈ ["type", "issueKey"] then
        (readField text "issueKey" fields).map .jira
      else
        none
    | some "openProject" =>
      if ∀ name ∈ fields.map Prod.fst, name ∈ ["type", "workPackageId", "displayId"] then
        (readField uint64 "workPackageId" fields).bind fun workPackageId =>
          (readField text "displayId" fields).map (.openProject workPackageId)
      else
        none
    | some "repositorySet" =>
      if ∀ name ∈ fields.map Prod.fst, name ∈ ["type", "label"] then
        (readField text "label" fields).map .repositorySet
      else
        none
    | _ => none

def WorkspaceProvider.ofJson : Json → Option WorkspaceProvider :=
  variant
    [("codex", .codex), ("openCode", .openCode), ("hermes", .hermes), ("vsCode", .vsCode),
      ("copilot", .copilot)]

def WorkspacePhase.ofJson : Json → Option WorkspacePhase :=
  variant [("draft", .draft)]

def RuntimePortPolicy.ofJson : Json → Option RuntimePortPolicy :=
  variant [("prefer", .prefer), ("fixed", .fixed)]

def RuntimePortSelection.ofJson (value : Json) : Option RuntimePortSelection := do
  let fields ← objectFields ["portId", "preferredPort", "policy"] value
  let portId ← readField text "portId" fields
  let preferredPort ← readField uint16 "preferredPort" fields
  let policy ← readField RuntimePortPolicy.ofJson "policy" fields
  some { portId := portId, preferredPort := preferredPort, policy := policy }

def RuntimeServiceSelection.ofJson (value : Json) : Option RuntimeServiceSelection := do
  let fields ← objectFields ["candidateId", "ports"] value
  let candidateId ← readField text "candidateId" fields
  let ports ← readField (list RuntimePortSelection.ofJson) "ports" fields
  some { candidateId := candidateId, ports := ports }

def RuntimePlanSelection.ofJson (value : Json) : Option RuntimePlanSelection := do
  let fields ← objectFields ["analysisDigest", "services"] value
  let analysisDigest ← readField text "analysisDigest" fields
  let services ← readField (list RuntimeServiceSelection.ofJson) "services" fields
  some { analysisDigest := analysisDigest, services := services }

def WorkspacePlanningFolder.ofJson : Json → Option WorkspacePlanningFolder :=
  variant [("plans", .plans), ("plansAndKanban", .plansAndKanban)]

def WorkspacePlanningFormat.ofJson : Json → Option WorkspacePlanningFormat :=
  variant [("notes", .notes), ("kanban", .kanban)]

def WorkspacePlanningSelection.ofJson (value : Json) : Option WorkspacePlanningSelection := do
  let fields ← objectFields ["folder", "format"] value
  let folder ← readField WorkspacePlanningFolder.ofJson "folder" fields
  let format ← readField WorkspacePlanningFormat.ofJson "format" fields
  some { folder := folder, format := format }

@[simp] theorem WorkspaceIntent.ofJson_toJson (intent : WorkspaceIntent) :
    WorkspaceIntent.ofJson intent.toJson = some intent := by
  cases intent <;>
    simp [WorkspaceIntent.toJson, WorkspaceIntent.ofJson, objectFields, readField, List.lookup]

@[simp] theorem WorkspaceProvider.ofJson_toJson (provider : WorkspaceProvider) :
    WorkspaceProvider.ofJson provider.toJson = some provider := by
  cases provider <;> rfl

@[simp] theorem WorkspacePhase.ofJson_toJson (phase : WorkspacePhase) :
    WorkspacePhase.ofJson phase.toJson = some phase := by
  cases phase
  rfl

@[simp] theorem RuntimePortPolicy.ofJson_toJson (policy : RuntimePortPolicy) :
    RuntimePortPolicy.ofJson policy.toJson = some policy := by
  cases policy <;> rfl

@[simp] theorem RuntimePortSelection.ofJson_toJson (port : RuntimePortSelection) :
    RuntimePortSelection.ofJson port.toJson = some port := by
  simp [RuntimePortSelection.toJson, RuntimePortSelection.ofJson, objectFields, readField,
    List.lookup]

@[simp] theorem RuntimeServiceSelection.ofJson_toJson (service : RuntimeServiceSelection) :
    RuntimeServiceSelection.ofJson service.toJson = some service := by
  have ports : list RuntimePortSelection.ofJson
      (ofList RuntimePortSelection.toJson service.ports) = some service.ports :=
    list_ofList fun port _ => RuntimePortSelection.ofJson_toJson port
  simp [RuntimeServiceSelection.toJson, RuntimeServiceSelection.ofJson, objectFields, readField,
    List.lookup, ports]

@[simp] theorem RuntimePlanSelection.ofJson_toJson (runtime : RuntimePlanSelection) :
    RuntimePlanSelection.ofJson runtime.toJson = some runtime := by
  have services : list RuntimeServiceSelection.ofJson
      (ofList RuntimeServiceSelection.toJson runtime.services) = some runtime.services :=
    list_ofList fun service _ => RuntimeServiceSelection.ofJson_toJson service
  simp [RuntimePlanSelection.toJson, RuntimePlanSelection.ofJson, objectFields, readField,
    List.lookup, services]

@[simp] theorem WorkspacePlanningFolder.ofJson_toJson (folder : WorkspacePlanningFolder) :
    WorkspacePlanningFolder.ofJson folder.toJson = some folder := by
  cases folder <;> rfl

@[simp] theorem WorkspacePlanningFormat.ofJson_toJson (format : WorkspacePlanningFormat) :
    WorkspacePlanningFormat.ofJson format.toJson = some format := by
  cases format <;> rfl

@[simp] theorem WorkspacePlanningSelection.ofJson_toJson (planning : WorkspacePlanningSelection) :
    WorkspacePlanningSelection.ofJson planning.toJson = some planning := by
  simp [WorkspacePlanningSelection.toJson, WorkspacePlanningSelection.ofJson, objectFields,
    readField, List.lookup]

/-- `serde_json::to_vec` of a request. -/
def requestJson (request : CreateWorkspaceRequest) : String :=
  request.toJson.print

end Wts.Workspace
