/-
Module: Wts.Proofs.StoreCreate
Purpose: What a creation writes.
Trusted boundary: none
Main exports: createNew_eq_ok, create_of_new
-/
import Wts.Library.Utf8
import Wts.Proofs.StoreLinks

namespace Wts.Store

open Workspace Tables

variable {store : WorkspaceStore} {env : CallEnv} {tables written : Tables} {workspaceId : Uuid}

/-- The workspace exists, is not removed, and its rows are sound. -/
def Live (store : WorkspaceStore) (tables : Tables) (workspaceId : Uuid) : Prop :=
  ∃ decoded, loadProjection store tables workspaceId = .ok (some decoded)

theorem live_iff_require : Live store tables workspaceId ↔
      ∃ decoded, requireProjection store tables workspaceId = .ok decoded := by
  simp only [Live, requireProjection]
  constructor
  · rintro ⟨decoded, loaded⟩
    exact ⟨decoded, by rw [loaded]⟩
  rintro ⟨decoded, required⟩
  split at required
  · cases required
  · cases required
  next loaded => exact ⟨_, loaded⟩

theorem loadProjection_of_tombstoned (removed : tables.tombstoned workspaceId = true) :
    loadProjection store tables workspaceId = .ok none := by
  simp only [loadProjection, removed, if_true]
  split <;> rfl

/-- A corrupt row is reported as such. -/
def IsCorrupt (error : WorkspaceStoreError) : Prop :=
  ∃ detail, error = .corruptRecord detail

variable {error : WorkspaceStoreError}

theorem validateDisplayName_error {displayName : Option String}
    (invalid : validateDisplayName displayName = .error error) : IsCorrupt error := by
  simp only [validateDisplayName] at invalid
  grind [IsCorrupt]

variable {record : WorkspaceRecord}

theorem validateDomain_error
    (invalid : validateDomain store record = .error error) : IsCorrupt error := by
  simp only [validateDomain] at invalid
  grind [IsCorrupt]

theorem validateRecord_error
    (invalid : validateRecord store record = .error error) : IsCorrupt error := by
  simp only [validateRecord] at invalid
  repeat (split at invalid; · cases invalid; exact ⟨_, rfl⟩)
  split at invalid
  next named =>
    cases invalid
    exact validateDisplayName_error named
  · split at invalid
    · cases invalid
      exact ⟨_, rfl⟩
    · exact validateDomain_error invalid

theorem decodeLifecycle_error {row : Option LifecycleRow}
    (invalid : decodeLifecycle record row = .error error) : IsCorrupt error := by
  cases row with
  | none => cases invalid
  | some row =>
    simp only [decodeLifecycle, validateLifecycle, validateLifecycleTimestamp] at invalid
    grind [IsCorrupt]

theorem loadProjection_error
    (failed : loadProjection store tables workspaceId = .error error) : IsCorrupt error := by
  simp only [loadProjection, decodeProjection] at failed
  grind [IsCorrupt, validateRecord_error, decodeLifecycle_error]

theorem persistJiraIntentWorkItemLink_eq_ok
    (persisted : persistJiraIntentWorkItemLink env record tables = .ok written) :
    ∃ links, written = { tables with links := links } ∧ LinkStep tables.links links ∧
      ((∀ issueKey, record.intent ≠ .jira issueKey) → links = tables.links) := by
  simp only [persistJiraIntentWorkItemLink] at persisted
  split at persisted
  next issueKey intent =>
    split at persisted
    · cases persisted
    rename_i valid
    split at persisted
    · cases persisted
    rename_i inserted
    obtain ⟨free, rfl⟩ := insertLink_eq_ok inserted
    obtain rfl := insertLinkEvent_eq_ok persisted
    exact ⟨_, rfl, .created ⟨free, valid, rfl, rfl⟩, fun other => absurd intent (other issueKey)⟩
  · cases persisted
    exact ⟨_, rfl, .same, fun _ => rfl⟩

/-- The tables after the statements of a creation. -/
structure CreationWrites (tables written : Tables) (idempotencyKey : Uuid)
    (record : WorkspaceRecord) (recordJson : String) (version : Int64) : Prop where
  events : ∃ event : CreatedEvent, event.idempotencyKey = idempotencyKey ∧
    written.createdEvents = tables.createdEvents ++ [event]
  projection : written.projection = tables.projection.insert record.workspaceId
    { recordVersion := version, recordJson := recordJson,
      updatedAtUnixMs := record.createdAtUnixMs }
  lifecycle : written.lifecycle = tables.lifecycle.insert record.workspaceId
    { workspaceRecordVersion := version, materializationState := .notMaterialized,
      worktreeCount := 0, observedAtUnixMs := record.createdAtUnixMs }
  workflow : written.workflow = tables.workflow.insert record.workspaceId
    { state := .ready, workflowRevision := 1, updatedAtUnixMs := record.createdAtUnixMs }
  placement : ∃ row, written.placement = tables.placement.insert record.workspaceId row
  tombstones : written.tombstoneEvents = tables.tombstoneEvents
  links : LinkStep tables.links written.links
  plain : (∀ issueKey, record.intent ≠ .jira issueKey) → written.links = tables.links
  reviews : written.reviews = tables.reviews

variable {idempotencyKey : Uuid} {version : Int64}

theorem insertWorkspace_written {digest recordJson : String}
    (inserted : insertWorkspace env idempotencyKey digest record recordJson version tables =
      .ok written) :
    ∃ event rank links, event.idempotencyKey = idempotencyKey ∧
      event.workspaceId = record.workspaceId ∧
      (∀ other ∈ tables.createdEvents, other.workspaceId ≠ event.workspaceId ∧
        other.idempotencyKey ≠ event.idempotencyKey) ∧ LinkStep tables.links links ∧
      ((∀ issueKey, record.intent ≠ .jira issueKey) → links = tables.links) ∧
      written = { tables with
          createdEvents := tables.createdEvents ++ [event]
          projection := tables.projection.insert record.workspaceId
            { recordVersion := version, recordJson := recordJson,
              updatedAtUnixMs := record.createdAtUnixMs }
          lifecycle := tables.lifecycle.insert record.workspaceId
            { workspaceRecordVersion := version, materializationState := .notMaterialized,
              worktreeCount := 0, observedAtUnixMs := record.createdAtUnixMs }
          workflow := tables.workflow.insert record.workspaceId
            { state := .ready, workflowRevision := 1, updatedAtUnixMs := record.createdAtUnixMs }
          placement := tables.placement.insert record.workspaceId
            { mode := .automatic, laneRank := rank, updatedAtUnixMs := record.createdAtUnixMs }
          links := links } := by
  simp only [insertWorkspace, insertCreatedEvent, insertProjection, insertLifecycle,
    insertWorkflow, insertPlacement] at inserted
  split at inserted
  · cases inserted
  rename_i first
  split at inserted
  · cases inserted
  rename_i second
  split at inserted
  · cases inserted
  rename_i third
  split at inserted
  · cases inserted
  rename_i fourth
  split at inserted
  · cases inserted
  rename_i fifth
  obtain ⟨links, rfl, step, plain⟩ := persistJiraIntentWorkItemLink_eq_ok inserted
  split at first
  · cases first
  rename_i fresh
  cases first
  split at second
  · cases second
  cases second
  split at third
  · cases third
  cases third
  split at fourth
  · cases fourth
  cases fourth
  split at fifth
  · cases fifth
  cases fifth
  refine ⟨_, _, links, rfl, rfl, ?_, step, plain, rfl⟩
  intro other member
  simp only [List.any_eq_true, decide_eq_true_eq, not_exists, not_and, not_or] at fresh
  exact (fresh other member).2

theorem insertWorkspace_eq_ok {digest recordJson : String}
    (inserted : insertWorkspace env idempotencyKey digest record recordJson version tables =
      .ok written) : CreationWrites tables written idempotencyKey record recordJson version := by
  obtain ⟨event, rank, links, key, _, _, step, plain, rfl⟩ := insertWorkspace_written inserted
  exact ⟨⟨event, key, rfl⟩, rfl, rfl, rfl, ⟨_, rfl⟩, rfl, step, plain, rfl⟩

/-! ### The new record -/

theorem validateRecord_createdAt
    (valid : validateRecord store record = .ok ()) : ¬ record.createdAtUnixMs < 0 := by
  simp only [validateRecord] at valid
  grind

/-- What the creation of a new workspace checks and writes. -/
structure CreatedNew (store : WorkspaceStore) (tables written : Tables) (idempotencyKey : Uuid)
    (decoded : DecodedProjection) (recordJson : String) (version : Int64) : Prop where
  root : decoded.record.workspaceRootId = store.workspaceRoot.id
  valid : validateRecord store decoded.record = .ok ()
  updated : decoded.record.updatedAtUnixMs = decoded.record.createdAtUnixMs
  lifecycle : decoded.lifecycle = newLifecycle decoded.record.createdAtUnixMs
  json : boundedRecordJson decoded.record = .ok recordJson
  versioned : recordVersionColumn decoded.record.recordVersion = .ok version
  writes : CreationWrites tables written idempotencyKey decoded.record recordJson version

variable {decoded : DecodedProjection} {request : CreateWorkspaceRequest}

theorem createNew_eq_ok
    (created : createNew store env idempotencyKey request tables = .ok (decoded, written)) :
    ∃ recordJson version,
      CreatedNew store tables written idempotencyKey decoded recordJson version := by
  simp only [createNew] at created
  split at created
  · cases created
  split at created
  · cases created
  rename_i valid
  split at created
  · cases created
  split at created
  · cases created
  rename_i json
  split at created
  · cases created
  rename_i version
  split at created
  · cases created
  rename_i inserted
  cases created
  exact ⟨_, _, rfl, valid, rfl, rfl, json, version, insertWorkspace_eq_ok inserted⟩

theorem validateLifecycle_newLifecycle (record : WorkspaceRecord) :
    validateLifecycle record (newLifecycle record.createdAtUnixMs) = .ok () := by
  simp [validateLifecycle, validateLifecycleTimestamp, newLifecycle]

namespace CreatedNew

variable {idempotencyKey : Uuid} {decoded : DecodedProjection} {recordJson : String}
variable {version : Int64}

section

variable (new : CreatedNew store tables written idempotencyKey decoded recordJson version)
include new

theorem view_ok :
    ∃ workspace, view store written decoded.record decoded.lifecycle = .ok workspace := by
  obtain ⟨row, placement⟩ := new.writes.placement
  have placed : written.placement[decoded.record.workspaceId]? = some row := by
    rw [placement]
    simp
  have workflow : written.workflow[decoded.record.workspaceId]? =
      some { state := .ready, workflowRevision := 1,
             updatedAtUnixMs := decoded.record.createdAtUnixMs } := by
    rw [new.writes.workflow]
    simp
  have notBefore := validateRecord_createdAt new.valid
  simp only [view, new.root, new.valid, new.lifecycle, validateLifecycle_newLifecycle,
    loadWorkflow, workflow, placed]
  simp [notBefore]

theorem lifecycle_row : written.lifecycle[decoded.record.workspaceId]? =
      some { workspaceRecordVersion := version, materializationState := .notMaterialized,
             worktreeCount := 0, observedAtUnixMs := decoded.record.createdAtUnixMs } := by
  rw [new.writes.lifecycle, Std.ExtTreeMap.getElem?_insert_self]

/-- The rows of a new workspace are sound. -/
theorem soundRows : SoundRows store written decoded.record.workspaceId decoded.record := by
  have versioned := recordVersionColumn_eq_ok new.versioned
  obtain ⟨isJson, small⟩ := boundedRecordJson_eq_ok new.json
  refine ⟨rfl, small, new.valid, ⟨version, versioned, ?_⟩,
    newLifecycle decoded.record.createdAtUnixMs, ?_⟩
  · rw [new.writes.projection, Std.ExtTreeMap.getElem?_insert_self, isJson, new.updated]
  rw [new.lifecycle_row]
  exact decodeLifecycle_some_iff.2
    ⟨versioned.symm, by simp, by simp, validateLifecycle_newLifecycle _, rfl⟩

theorem live (present : tables.tombstoned decoded.record.workspaceId = false) :
    loadProjection store written decoded.record.workspaceId = .ok (some decoded) := by
  have kept : written.tombstoned decoded.record.workspaceId = false := by
    rw [tombstoned, new.writes.tombstones]
    exact present
  obtain ⟨lifecycle, observed, found⟩ := new.soundRows.load kept
  rw [new.lifecycle_row] at observed
  have same : lifecycle = decoded.lifecycle := by
    rw [new.lifecycle]
    exact (decodeLifecycle_some_iff.1 observed).2.2.2.2
  rw [found, same]

end

end CreatedNew

theorem createTransaction_eq_ok {replayed : Bool}
    (created : createTransaction store env idempotencyKey request tables =
      .ok ((decoded, replayed), written)) :
    (findCreated tables idempotencyKey).isSome ∧ written = tables ∨
      findCreated tables idempotencyKey = none ∧
        createNew store env idempotencyKey request tables = .ok (decoded, written) := by
  simp only [createTransaction] at created
  split at created
  next found =>
    split at created
    · cases created
    cases created
    exact .inl ⟨by rw [found]; rfl, rfl⟩
  next unknown =>
    split at created
    · cases created
    rename_i inserted
    cases created
    exact .inr ⟨unknown, inserted⟩

theorem create_error {key : String}
    (failed : (create store env key request tables).1 = .error error) :
    (create store env key request tables).2 = tables := by
  revert failed
  simp only [create]
  split
  · exact fun _ => rfl
  split
  · exact fun _ => rfl
  simp only [inTransaction]
  split
  · exact fun _ => rfl
  rename_i value written created
  obtain ⟨decoded, replayed⟩ := value
  rcases createTransaction_eq_ok created with ⟨_, rfl⟩ | ⟨_, inserted⟩
  · simp [thenView]
  obtain ⟨_, _, new⟩ := createNew_eq_ok inserted
  obtain ⟨workspace, viewed⟩ := new.view_ok
  intro failed
  simp [thenView, viewed] at failed

theorem boundedRecordJson_of_short
    (short : 4 * (Json.chars record.toJson).length ≤ maxRecordJsonBytes) :
    boundedRecordJson record = .ok record.toJson.print := by
  have size := Text.utf8ByteSize_ofList_le (Json.chars record.toJson)
  simp only [boundedRecordJson]
  rw [if_neg]
  exact Nat.not_lt.2 (size.trans short)

theorem createNew_of_parts {timestamp : Int64} {recordJson : String}
    (now : unixTimeMs env = .ok timestamp) (new : newRecord store env request timestamp = record)
    (valid : validateRecord store record = .ok ())
    (lifecycle : validateLifecycle record (newLifecycle timestamp) = .ok ())
    (json : boundedRecordJson record = .ok recordJson)
    (versioned : recordVersionColumn record.recordVersion = .ok version)
    (inserted : insertWorkspace env idempotencyKey (requestDigest request) record recordJson version
      tables = .ok written) : createNew store env idempotencyKey request tables =
      .ok ({ record := record, lifecycle := newLifecycle timestamp }, written) := by
  simp only [createNew, now, new, valid, lifecycle, json, versioned, inserted]

theorem create_of_new {key : String} {normalized : CreateWorkspaceRequest}
    (parsed : parseIdempotencyKey key = .ok idempotencyKey)
    (accepted : request.normalize store.toLowercase = .ok normalized)
    (unknown : findCreated tables idempotencyKey = none)
    (created : createNew store env idempotencyKey normalized tables = .ok (decoded, written)) :
    (create store env key request tables).2 = written := by
  simp only [create, parsed, accepted, orInvalid, thenView_tables, inTransaction,
    createTransaction, unknown, created]

theorem run_create (key : String) (request : CreateWorkspaceRequest) :
    run store [(.create key request, env)] tables = (create store env key request tables).2 := by
  simp only [run, perform]

theorem validRootId_main : validRootId "main" = true := by
  decide +kernel

def sampleStore : WorkspaceStore where
  workspaceRoot :=
    { id := "main"
      path := { absolute := true, components := ["w"] }
      validId := validRootId_main
      absolute := rfl
      noParent := by decide }
  toLowercase := fun text => String.ofList (text.toList.map Char.toLower)
  acceptsJson := fun text => (Json.parse text).isSome
  jsonError := fun _ => "invalid record"
  linkJsonError := fun _ => "invalid link"

def sampleEnv (time : ℕ) : CallEnv where
  clock := some time
  fresh := fun index => Fin.ofNat _ (1000 * time + index)

def sampleKey : String := "00000000-0000-4000-8000-000000000001"

def sampleKeyId : Uuid := 0x40008000000000000001

def sampleRequest : CreateWorkspaceRequest where
  intent := .repositorySet "web"
  title := "Web"
  preferredProvider := .codex
  repositories := [{ repositoryId := none, label := "app", baseRef := "main" }]
  runtime := none
  planning := none

def sampleRecord : WorkspaceRecord :=
  newRecord sampleStore (sampleEnv 1) sampleRequest 1

theorem parse_sampleKey : parseIdempotencyKey sampleKey = .ok sampleKeyId := by
  decide +kernel

theorem normalize_sampleRequest :
    sampleRequest.normalize sampleStore.toLowercase = .ok sampleRequest := by
  decide +kernel

theorem sample_createNew :
    ∃ written, createNew sampleStore (sampleEnv 1) sampleKeyId sampleRequest empty =
      .ok ({ record := sampleRecord, lifecycle := newLifecycle 1 }, written) := by
  have valid : validateRecord sampleStore sampleRecord = .ok () := by decide +kernel
  have lifecycle : validateLifecycle sampleRecord (newLifecycle 1) = .ok () := by decide +kernel
  have json : boundedRecordJson sampleRecord = .ok sampleRecord.toJson.print :=
    boundedRecordJson_of_short (by decide +kernel)
  have version : recordVersionColumn sampleRecord.recordVersion = .ok 1 := by decide +kernel
  have inserted : (insertWorkspace (sampleEnv 1) sampleKeyId (requestDigest sampleRequest)
      sampleRecord sampleRecord.toJson.print 1 empty).toOption.isSome = true := by
    decide +kernel
  have now : unixTimeMs (sampleEnv 1) = .ok 1 := by decide +kernel
  cases written : insertWorkspace (sampleEnv 1) sampleKeyId (requestDigest sampleRequest)
      sampleRecord sampleRecord.toJson.print 1 empty with
  | error error =>
    rw [written] at inserted
    cases inserted
  | ok tables =>
    exact ⟨tables, createNew_of_parts now rfl valid lifecycle json version written⟩

theorem sample_created :
    ∃ tables, run sampleStore [(.create sampleKey sampleRequest, sampleEnv 1)] empty =
        tables ∧ Live sampleStore tables 1000 ∧ tables.links = empty.links ∧
        tables.tombstoneEvents = [] ∧ tables.reviews = empty.reviews := by
  obtain ⟨tables, created⟩ := sample_createNew
  obtain ⟨_, _, new⟩ := createNew_eq_ok created
  refine ⟨tables, ?_, ⟨_, new.live rfl⟩, new.writes.plain ?_, new.writes.tombstones,
    new.writes.reviews⟩
  · have unknown : findCreated empty sampleKeyId = none := rfl
    rw [run_create]
    exact create_of_new parse_sampleKey normalize_sampleRequest unknown created
  intro issueKey same
  cases same

end Wts.Store
