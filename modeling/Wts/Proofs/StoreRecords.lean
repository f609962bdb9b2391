/-
Module: Wts.Proofs.StoreRecords
Purpose: The saved record of a workspace under the calls that change its repositories: what a call that
  succeeds has written, and that a call that fails has written nothing.
Trusted boundary: none
Main exports: Rewrites, Committed
-/
import Wts.Proofs.StoreCreate

namespace Wts.Store

open Text Workspace

variable {store : WorkspaceStore} {env : CallEnv} {tables written : Tables} {workspaceId : Uuid}

/-- The record that is stored for a workspace. -/
def savedRecord (tables : Tables) (workspaceId : Uuid) : Option WorkspaceRecord :=
  tables.projection[workspaceId]?.bind fun row =>
    (Json.parse row.recordJson).bind WorkspaceRecord.ofJson

/-- The view shows the record. -/
structure Shows (store : WorkspaceStore) (record : WorkspaceRecord) (shown : WorkspaceView) :
    Prop where
  schemaVersion : shown.schemaVersion = record.schemaVersion
  workspaceId : shown.workspaceId = record.workspaceId
  recordVersion : shown.recordVersion = record.recordVersion
  intent : shown.intent = record.intent
  title : shown.title = record.title
  displayName : shown.displayName = record.displayName
  preferredProvider : shown.preferredProvider = record.preferredProvider
  repositories : shown.repositories = record.repositories
  runtime : shown.runtime = record.runtime
  planning : shown.planning = record.planning
  displayPath : shown.workspaceDisplayPath =
    (store.workspaceRoot.path.join record.workspaceLeaf).display
  createdAt : shown.createdAtUnixMs = record.createdAtUnixMs

variable {decoded : DecodedProjection}

theorem decodeProjection_record {row : ProjectionRow} {lifecycle : Option LifecycleRow}
    (read : decodeProjection store workspaceId row lifecycle = .ok decoded) :
    (Json.parse row.recordJson).bind WorkspaceRecord.ofJson = some decoded.record ∧
      decoded.record.workspaceId = workspaceId ∧ validateRecord store decoded.record = .ok () := by
  simp only [decodeProjection] at read
  split at read
  · cases read
  split at read
  · cases read
  rename_i record parsed
  split at read
  · cases read
  rename_i same
  have id : record.workspaceId = workspaceId := by
    by_contra other
    exact same (.inl other)
  split at read
  · cases read
  rename_i valid
  split at read
  · cases read
  cases read
  exact ⟨parsed, id, valid⟩

theorem loadProjection_record
    (loaded : loadProjection store tables workspaceId = .ok (some decoded)) :
    savedRecord tables workspaceId = some decoded.record ∧
      decoded.record.workspaceId = workspaceId ∧ validateRecord store decoded.record = .ok () := by
  unfold loadProjection at loaded
  split at loaded
  · cases loaded
  rename_i row found
  split at loaded
  · cases loaded
  split at loaded
  · cases loaded
  rename_i read
  cases loaded
  have ⟨parsed, same⟩ := decodeProjection_record read
  exact ⟨by rw [savedRecord, found]; exact parsed, same⟩

theorem requireProjection_record
    (required : requireProjection store tables workspaceId = .ok decoded) :
    savedRecord tables workspaceId = some decoded.record ∧
      decoded.record.workspaceId = workspaceId := by
  unfold requireProjection at required
  split at required
  · cases required
  · cases required
  rename_i loaded
  cases required
  have ⟨saved, id, _⟩ := loadProjection_record loaded
  exact ⟨saved, id⟩

variable {lifecycle : WorkspaceLifecycleSummary} {record : WorkspaceRecord} {shown : WorkspaceView}

theorem view_eq_ok (built : view store tables record lifecycle = .ok shown) :
    Shows store record shown ∧ record.workspaceRootId = store.workspaceRoot.id ∧
      ∃ workflow, loadWorkflow tables record.workspaceId = .ok workflow := by
  unfold view at built
  split at built
  · cases built
  rename_i root
  split at built
  · cases built
  split at built
  · cases built
  split at built
  · cases built
  rename_i workflow loaded
  cases built
  exact ⟨⟨rfl, rfl, rfl, rfl, rfl, rfl, rfl, rfl, rfl, rfl, rfl, rfl⟩, not_not.1 root,
    workflow, loaded⟩

theorem view_ok_of
    {workflow : WorkspaceWorkflowSummary} (root : record.workspaceRootId = store.workspaceRoot.id)
    (valid : validateRecord store record = .ok ())
    (observed : validateLifecycle record lifecycle = .ok ())
    (loaded : loadWorkflow tables record.workspaceId = .ok workflow) :
    ∃ shown, view store tables record lifecycle = .ok shown := by
  unfold view
  rw [if_neg (not_not.2 root), valid, observed, loaded]
  exact ⟨_, rfl⟩

theorem get_eq_ok (got : get store workspaceId tables = .ok (some shown)) :
    ∃ decoded, loadProjection store tables workspaceId = .ok (some decoded) ∧
      savedRecord tables workspaceId = some decoded.record ∧ Shows store decoded.record shown ∧
      decoded.record.workspaceRootId = store.workspaceRoot.id ∧
      ∃ workflow, loadWorkflow tables workspaceId = .ok workflow := by
  unfold get at got
  split at got
  · cases got
  · cases got
  rename_i decoded loaded
  split at got
  · cases got
  rename_i built
  cases got
  have ⟨saved, id, _⟩ := loadProjection_record loaded
  have ⟨shows, root, workflow, known⟩ := view_eq_ok built
  rw [id] at known
  exact ⟨decoded, loaded, saved, shows, root, workflow, known⟩

/-! ### Writing -/

/-- The tables hold another record of the workspace; its place in the workflow is the same. -/
structure Rewrites (tables written : Tables) (workspaceId : Uuid) (record : WorkspaceRecord) :
    Prop where
  saved : savedRecord written workspaceId = some record
  workflow : loadWorkflow written workspaceId = loadWorkflow tables workspaceId

variable {before : WorkspaceRecord}

theorem updateProjection_rewrites {updatedAtUnixMs : Int64}
    (saved : savedRecord tables workspaceId = some before) : Rewrites tables
      (updateProjection workspaceId record.toJson.print updatedAtUnixMs tables) workspaceId
      record := by
  unfold updateProjection
  unfold savedRecord at saved
  split
  · rename_i missing
    rw [missing] at saved
    cases saved
  refine ⟨?_, rfl⟩
  simp [savedRecord, Json.parse_print, WorkspaceRecord.ofJson_toJson]

theorem updateWorktreeCount_rewrites {worktreeCount : ℕ}
    {observedAtUnixMs : Int64} (rewrites : Rewrites tables written workspaceId record) :
    Rewrites tables (updateWorktreeCount workspaceId worktreeCount observedAtUnixMs written)
      workspaceId record := by
  unfold updateWorktreeCount
  split
  · exact rewrites
  exact ⟨rewrites.saved, rewrites.workflow⟩

theorem writeRepositories_rewrites
    (id : record.workspaceId = workspaceId) (saved : savedRecord tables workspaceId = some before) :
    Rewrites tables (writeRepositories record lifecycle record.toJson.print tables) workspaceId
      record := by
  subst id
  simp only [writeRepositories]
  split
  · exact updateWorktreeCount_rewrites (updateProjection_rewrites saved)
  exact updateProjection_rewrites saved

/-- What a transaction that changes the repositories has checked and written. -/
structure Committed (store : WorkspaceStore) (tables written : Tables) (workspaceId : Uuid)
    (decoded : DecodedProjection) (repositories : List WorkspaceRepositoryPlan) : Prop where
  record : ∃ before updatedAtUnixMs, savedRecord tables workspaceId = some before ∧
    decoded.record =
      { before with repositories := repositories, updatedAtUnixMs := updatedAtUnixMs }
  id : decoded.record.workspaceId = workspaceId
  rewrites : Rewrites tables written workspaceId decoded.record
  valid : validateRecord store decoded.record = .ok ()
  observed : validateLifecycle decoded.record decoded.lifecycle = .ok ()

theorem eq_print_of_boundedRecordJson {text : String}
    (bounded : boundedRecordJson record = .ok text) : text = record.toJson.print := by
  simp only [boundedRecordJson] at bounded
  split at bounded
  · cases bounded
  exact (Except.ok.inj bounded).symm

variable {repository : WorkspaceRepositoryRequest}

theorem addRepositoryTransaction_committed
    (added : addRepositoryTransaction store env workspaceId repository tables =
      .ok (decoded, written)) : ∃ before plan, savedRecord tables workspaceId = some before ∧
      plan.repositoryId = repository.repositoryId ∧ plan.label = repository.label ∧
      plan.baseRef = repository.baseRef ∧ Committed store tables written workspaceId decoded
        (sortPlans store (before.repositories ++ [plan])) := by
  simp only [addRepositoryTransaction] at added
  split at added
  · cases added
  rename_i start required
  obtain ⟨saved, id⟩ := requireProjection_record required
  split at added
  · cases added
  rename_i now _
  split at added
  · cases added
  split at added
  · cases added
  rename_i valid
  split at added
  · cases added
  rename_i observed
  split at added
  · cases added
  rename_i text bounded
  cases added
  obtain rfl := eq_print_of_boundedRecordJson bounded
  exact ⟨start.record, _, saved, rfl, rfl, rfl,
    ⟨start.record, now, saved, rfl⟩, id, writeRepositories_rewrites id saved, valid,
    observed⟩

variable {repositoryId : String}

theorem removeRepositoryTransaction_committed
    (removed : removeRepositoryTransaction store env workspaceId repositoryId tables =
      .ok (decoded, written)) : ∃ before, savedRecord tables workspaceId = some before ∧
      Committed store tables written workspaceId decoded
        (before.repositories.filter fun plan => plan.repositoryId ≠ some repositoryId) := by
  simp only [removeRepositoryTransaction] at removed
  split at removed
  · cases removed
  rename_i start required
  obtain ⟨saved, id⟩ := requireProjection_record required
  split at removed
  · cases removed
  split at removed
  · cases removed
  rename_i now _
  split at removed
  · cases removed
  split at removed
  · cases removed
  rename_i valid
  split at removed
  · cases removed
  rename_i observed
  cases removed
  exact ⟨start.record, saved, ⟨start.record, now, saved, rfl⟩, id,
    writeRepositories_rewrites id saved, valid, observed⟩

theorem Committed.view_ok {repositories : List WorkspaceRepositoryPlan}
    (committed : Committed store tables written workspaceId decoded repositories)
    (got : get store workspaceId tables = .ok (some shown)) :
    ∃ changed, viewDecoded store decoded written = .ok changed ∧
      Shows store decoded.record changed := by
  obtain ⟨start, _, saved, _, root, workflow, known⟩ := get_eq_ok got
  obtain ⟨before, now, same, record⟩ := committed.record
  obtain rfl := Option.some.inj (same.symm.trans saved)
  have rooted : decoded.record.workspaceRootId = store.workspaceRoot.id := by rw [record]; exact root
  obtain ⟨changed, built⟩ := view_ok_of rooted committed.valid committed.observed
    (by rw [committed.id, committed.rewrites.workflow]; exact known)
  exact ⟨changed, built, (view_eq_ok built).1⟩

variable {outcome : Except WorkspaceStoreError WorkspaceView}

theorem thenView_cases {body : Tables → Except WorkspaceStoreError (DecodedProjection × Tables)}
    (called : thenView (inTransaction tables body) (viewDecoded store) = (outcome, written))
    (builds : ∀ decoded after, body tables = .ok (decoded, after) →
      ∃ shown, viewDecoded store decoded after = .ok shown) :
    (∃ error, outcome = .error error ∧ written = tables) ∨
      ∃ decoded shown, outcome = .ok shown ∧ body tables = .ok (decoded, written) ∧
        viewDecoded store decoded written = .ok shown := by
  cases ran : body tables with
  | error error =>
    simp only [inTransaction, ran, thenView] at called
    cases called
    exact .inl ⟨error, rfl, rfl⟩
  | ok result =>
    obtain ⟨decoded, after⟩ := result
    obtain ⟨shown, built⟩ := builds decoded after ran
    rw [inTransaction_ok.2 ran, thenView, built] at called
    cases called
    exact .inr ⟨decoded, shown, rfl, rfl, built⟩

theorem addRepository_cases (got : get store workspaceId tables = .ok (some shown))
    (called : addRepository store env workspaceId repository tables = (outcome, written)) :
    (∃ error, outcome = .error error ∧ written = tables) ∨
      ∃ changed plan record, outcome = .ok changed ∧ plan.repositoryId = repository.repositoryId ∧
        plan.label = repository.label ∧ plan.baseRef = repository.baseRef ∧
        Rewrites tables written workspaceId record ∧ Shows store record changed ∧
        ∃ before updatedAtUnixMs, savedRecord tables workspaceId = some before ∧ record =
            { before with
              repositories := sortPlans store (before.repositories ++ [plan])
              updatedAtUnixMs := updatedAtUnixMs } := by
  obtain ⟨error, failed, same⟩ | ⟨decoded, changed, ok, ran, built⟩ :=
    thenView_cases called fun decoded after ran => by
      obtain ⟨_, _, _, _, _, _, committed⟩ := addRepositoryTransaction_committed ran
      obtain ⟨changed, built, _⟩ := committed.view_ok got
      exact ⟨changed, built⟩
  · exact .inl ⟨error, failed, same⟩
  obtain ⟨before, plan, saved, id, label, base, committed⟩ :=
    addRepositoryTransaction_committed ran
  obtain ⟨start, now, same, record⟩ := committed.record
  obtain rfl := Option.some.inj (same.symm.trans saved)
  exact .inr ⟨changed, plan, decoded.record, ok, id, label, base, committed.rewrites,
    (view_eq_ok built).1, start, now, saved, record⟩

theorem removeRepository_cases (got : get store workspaceId tables = .ok (some shown))
    (called : removeRepository store env workspaceId repositoryId tables = (outcome, written)) :
    (∃ error, outcome = .error error ∧ written = tables) ∨
      ∃ changed record, outcome = .ok changed ∧ Rewrites tables written workspaceId record ∧
        Shows store record changed ∧
        ∃ before updatedAtUnixMs, savedRecord tables workspaceId = some before ∧ record =
            { before with
              repositories := before.repositories.filter fun plan =>
                plan.repositoryId ≠ some repositoryId
              updatedAtUnixMs := updatedAtUnixMs } := by
  obtain ⟨error, failed, same⟩ | ⟨decoded, changed, ok, ran, built⟩ :=
    thenView_cases called fun decoded after ran => by
      obtain ⟨_, _, committed⟩ := removeRepositoryTransaction_committed ran
      obtain ⟨changed, built, _⟩ := committed.view_ok got
      exact ⟨changed, built⟩
  · exact .inl ⟨error, failed, same⟩
  obtain ⟨before, saved, committed⟩ := removeRepositoryTransaction_committed ran
  obtain ⟨start, now, same, record⟩ := committed.record
  obtain rfl := Option.some.inj (same.symm.trans saved)
  exact .inr ⟨changed, decoded.record, ok, committed.rewrites, (view_eq_ok built).1, start, now,
    saved, record⟩

theorem observeLifecycle_records (materializationState : WorkspaceMaterializationState)
    (worktreeCount : UInt32) (other : Uuid) : savedRecord
        (observeLifecycle store env workspaceId materializationState worktreeCount tables).2 other =
      savedRecord tables other := by
  simp only [observeLifecycle]
  split
  · rfl
  apply inTransaction_related fun before after => savedRecord after other = savedRecord before other
  · rfl
  intro lifecycle after observed
  simp only [observeLifecycleTransaction] at observed
  repeat' split at observed
  all_goals cases observed
  rfl

end Wts.Store
