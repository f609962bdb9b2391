/-
Module: Wts.Proofs.StoreFrame
Purpose: What the calls of the store leave alone, and the induction over its runs.
Trusted boundary: none
Main exports: RowEffect, run_invariant
-/
import Wts.Proofs.StoreSound

namespace Wts.Store

open Workspace
open Std (ExtTreeMap)

variable {α β : Type}
variable {store : WorkspaceStore} {env : CallEnv} {tables written : Tables} {workspaceId : Uuid}

theorem run_append (store : WorkspaceStore) (before after : List (Call × CallEnv))
    (tables : Tables) :
    run store (before ++ after) tables = run store after (run store before tables) := by
  induction before generalizing tables with
  | nil => rfl
  | cons step rest ih => exact ih _

/-- What every call keeps, every run keeps. -/
theorem run_invariant (Holds : Tables → Prop)
    (keeps : ∀ env tables call, Holds tables → Holds (perform store env tables call).2)
    (calls : List (Call × CallEnv)) (holds : Holds tables) : Holds (run store calls tables) := by
  induction calls generalizing tables with
  | nil => exact holds
  | cons step rest ih => exact ih (keeps step.2 tables step.1 holds)

variable {body : Tables → Except WorkspaceStoreError (α × Tables)}

theorem inTransaction_error
    {error : WorkspaceStoreError} (failed : (inTransaction tables body).1 = .error error) :
    (inTransaction tables body).2 = tables := by
  simp only [inTransaction] at failed ⊢
  split <;> simp_all

theorem inTransaction_ok {value : α} :
    inTransaction tables body = (.ok value, written) ↔ body tables = .ok (value, written) := by
  simp only [inTransaction]
  split <;> simp_all

theorem inTransaction_related (Related : Tables → Tables → Prop) (same : Related tables tables)
    (kept : ∀ value written, body tables = .ok (value, written) → Related tables written) :
    Related tables (inTransaction tables body).2 := by
  simp only [inTransaction]
  split
  · exact same
  exact kept _ _ ‹_›

@[simp] theorem thenView_tables (outcome : Outcome α)
    (build : α → Tables → Except WorkspaceStoreError β) :
    (thenView outcome build).2 = outcome.2 := by
  obtain ⟨result, tables⟩ := outcome
  cases result <;> rfl

/-! ### Creation events, links and threads -/

/-- Creation events, links and review threads are the same. -/
structure SameDocuments (tables written : Tables) : Prop where
  created : written.createdEvents = tables.createdEvents
  links : written.links = tables.links
  reviews : written.reviews = tables.reviews

/-- A live workspace: it has a projection and no tombstone. -/
def Present (tables : Tables) (workspaceId : Uuid) : Prop :=
  tables.tombstoned workspaceId = false ∧ (tables.projection[workspaceId]?).isSome = true

variable {decoded : DecodedProjection}

theorem present_of_load (loaded : loadProjection store tables workspaceId = .ok (some decoded)) :
    Present tables workspaceId ∧ decoded.record.workspaceId = workspaceId := by
  simp only [loadProjection, decodeProjection] at loaded
  grind [Present]

theorem present_of_require (required : requireProjection store tables workspaceId = .ok decoded) :
    Present tables workspaceId ∧ decoded.record.workspaceId = workspaceId := by
  simp only [requireProjection] at required
  grind [present_of_load]

/-- A placement table in which only the ranks of workspaces without a tombstone differ. -/
structure Reordered (tables : Tables) (placement : ExtTreeMap Uuid PlacementRow) : Prop where
  modes : ∀ id : Uuid, (placement[id]?).map PlacementRow.mode =
    (tables.placement[id]?).map PlacementRow.mode
  removed : ∀ id : Uuid, tables.tombstoned id = true → placement[id]? = tables.placement[id]?

/-- The event that a change of the workflow adds to the log of a live workspace. -/
structure IsNext (tables : Tables) (event : BoardPlacementEvent) (workspaceId : Uuid)
    (current : WorkspaceWorkflowSummary) : Prop where
  workspace : event.workspaceId = workspaceId
  present : Present tables workspaceId
  loaded : loadWorkflow tables workspaceId = .ok current
  state : event.fromState = current.state
  mode : event.fromMode = current.placement.mode
  revision : event.workflowRevision = current.revision + 1

/-- What the log of the state changes says of an event: nothing if the card stays in its lane. -/
def stateChange (workspaceId : Uuid) (fromState toState : WorkspaceWorkflowState) (revision : ℕ) :
    List (Uuid × WorkspaceWorkflowState × WorkspaceWorkflowState × ℕ) :=
  if fromState = toState then [] else [(workspaceId, fromState, toState, revision)]

def WorkflowEvent.change (event : WorkflowEvent) :
    Uuid × WorkspaceWorkflowState × WorkspaceWorkflowState × ℕ :=
  (event.workspaceId, event.fromState, event.toState, event.workflowRevision)

/-- What a call on an existing workspace can do to the rows of the workspaces. -/
inductive RowEffect (store : WorkspaceStore) (tables : Tables) : Tables → Prop where
  | same : RowEffect store tables tables
  | observed {observations} : RowEffect store tables { tables with observations := observations }
  | record {workspaceId : Uuid} {projection lifecycle} (present : Present tables workspaceId)
      (kept : (projection[workspaceId]?).isSome = true)
      (observed : (tables.lifecycle[workspaceId]?).isSome = true →
        (lifecycle[workspaceId]?).isSome = true)
      (others : ∀ other : Uuid, other ≠ workspaceId →
        projection[other]? = tables.projection[other]? ∧
          lifecycle[other]? = tables.lifecycle[other]?)
      (sound : Sound store tables workspaceId →
        Sound store { tables with projection := projection, lifecycle := lifecycle } workspaceId) :
      RowEffect store tables { tables with projection := projection, lifecycle := lifecycle }
  | removed {event} (present : Present tables event.workspaceId) :
      RowEffect store tables { tables with tombstoneEvents := tables.tombstoneEvents ++ [event] }
  | moved {workspaceId current event changes row placement placed}
      (next : IsNext tables event workspaceId current) (reordered : Reordered tables placement)
      (logged : changes.map WorkflowEvent.change =
        stateChange workspaceId event.fromState event.toState event.workflowRevision)
      (result : row.state = event.toState ∧ placed.mode = event.toMode ∧
        row.workflowRevision = event.workflowRevision) :
      RowEffect store tables
        { tables with
          workflowEvents := tables.workflowEvents ++ changes
          placementEvents := tables.placementEvents ++ [event]
          workflow := tables.workflow.insert workspaceId row
          placement := placement.insert workspaceId placed }

theorem RowEffect.documents (effect : RowEffect store tables written) : SameDocuments tables written := by
  cases effect <;> exact ⟨rfl, rfl, rfl⟩

theorem getElem?_insert_ne {β : Type} (rows : ExtTreeMap Uuid β) (row : β) {id other : Uuid}
    (different : other ≠ id) : (rows.insert id row)[other]? = rows[other]? := by
  simp [ExtTreeMap.getElem?_insert, different.symm]

theorem updateProjection_rows (present : Present tables workspaceId) (recordJson : String)
    (updatedAtUnixMs : Int64) :
    ∃ row, updateProjection workspaceId recordJson updatedAtUnixMs tables =
      { tables with projection := tables.projection.insert workspaceId row } := by
  obtain ⟨row, found⟩ := Option.isSome_iff_exists.1 present.2
  exact ⟨_, by rw [updateProjection, found]⟩

theorem RowEffect.inserted (present : Present tables workspaceId) (row : ProjectionRow)
    {lifecycle : ExtTreeMap Uuid LifecycleRow}
    (observed : (tables.lifecycle[workspaceId]?).isSome = true →
      (lifecycle[workspaceId]?).isSome = true)
    (others : ∀ other ≠ workspaceId, lifecycle[other]? = tables.lifecycle[other]?)
    (sound : Sound store tables workspaceId → Sound store { tables with
        projection := tables.projection.insert workspaceId row, lifecycle := lifecycle } workspaceId) :
    RowEffect store tables { tables with
        projection := tables.projection.insert workspaceId row, lifecycle := lifecycle } :=
  .record present (by simp) observed (fun other different =>
    ⟨getElem?_insert_ne _ _ different, others other different⟩) sound

theorem writeRepositories_rows {record : WorkspaceRecord}
    (present : Present tables record.workspaceId) (lifecycle : WorkspaceLifecycleSummary)
    (recordJson : String)
    (sound : Sound store tables record.workspaceId →
      Sound store (writeRepositories record lifecycle recordJson tables) record.workspaceId) :
    RowEffect store tables (writeRepositories record lifecycle recordJson tables) := by
  obtain ⟨row, written⟩ := updateProjection_rows present recordJson record.updatedAtUnixMs
  revert sound
  simp only [writeRepositories, written, updateWorktreeCount]
  split
  · split
    · exact .inserted present row id fun _ _ => rfl
    · exact .inserted present row (by simp) fun _ different => getElem?_insert_ne _ _ different
  exact .inserted present row id fun _ _ => rfl

theorem rename_rows (request : RenameWorkspaceRequest) :
    RowEffect store tables (rename store env workspaceId request tables).2 := by
  simp only [rename]
  split
  · exact .same
  rw [thenView_tables]
  apply inTransaction_related (RowEffect store) .same
  intro decoded written renamed
  have sound : Sound store tables workspaceId → Sound store written workspaceId :=
    fun ⟨_, rows⟩ => rows.rename renamed
  simp only [renameTransaction] at renamed
  split at renamed
  · cases renamed
  rename_i required
  split at renamed
  · cases renamed
  split at renamed
  · cases renamed
  split at renamed
  · cases renamed
  cases renamed
  obtain ⟨row, same⟩ := updateProjection_rows (present_of_require required).1 _ _
  rw [same] at sound ⊢
  exact .inserted (present_of_require required).1 row id (fun _ _ => rfl) sound

theorem writtenRepositories_rows {record : WorkspaceRecord}
    (required : requireProjection store tables workspaceId = .ok decoded)
    (same : record.workspaceId = decoded.record.workspaceId) (lifecycle : WorkspaceLifecycleSummary)
    (recordJson : String)
    (sound : Sound store tables workspaceId →
      Sound store (writeRepositories record lifecycle recordJson tables) workspaceId) :
    RowEffect store tables (writeRepositories record lifecycle recordJson tables) := by
  obtain ⟨present, named⟩ := present_of_require required
  rw [← named, ← same] at present sound
  exact writeRepositories_rows present lifecycle recordJson sound

theorem addRepository_rows (repository : WorkspaceRepositoryRequest) :
    RowEffect store tables (addRepository store env workspaceId repository tables).2 := by
  rw [addRepository, thenView_tables]
  apply inTransaction_related (RowEffect store) .same
  intro decoded written added
  have sound : Sound store tables workspaceId → Sound store written workspaceId :=
    fun ⟨_, rows⟩ => rows.addRepository added
  simp only [addRepositoryTransaction] at added
  split at added
  · cases added
  rename_i required
  repeat (split at added; · cases added)
  cases added
  exact writtenRepositories_rows required (by rfl) _ _ sound

theorem removeRepository_rows (repositoryId : String) :
    RowEffect store tables (removeRepository store env workspaceId repositoryId tables).2 := by
  rw [removeRepository, thenView_tables]
  apply inTransaction_related (RowEffect store) .same
  intro decoded written removed
  have sound : Sound store tables workspaceId → Sound store written workspaceId :=
    fun ⟨_, rows⟩ => rows.removeRepository removed
  simp only [removeRepositoryTransaction] at removed
  split at removed
  · cases removed
  rename_i required
  repeat (split at removed; · cases removed)
  cases removed
  exact writtenRepositories_rows required (by rfl) _ _ sound

theorem observeLifecycle_rows (materializationState : WorkspaceMaterializationState)
    (worktreeCount : UInt32) : RowEffect store tables
      (observeLifecycle store env workspaceId materializationState worktreeCount tables).2 := by
  simp only [observeLifecycle]
  split
  · exact .same
  rename_i known
  apply inTransaction_related (RowEffect store) .same
  intro lifecycle written observed
  have sound : Sound store tables workspaceId → Sound store written workspaceId :=
    fun ⟨_, rows⟩ => rows.observe known observed
  simp only [observeLifecycleTransaction] at observed
  split at observed
  · cases observed
  · cases observed
  rename_i loaded
  obtain ⟨present, _⟩ := present_of_load loaded
  split at observed
  · cases observed
  split at observed
  · cases observed
  split at observed
  · cases observed
  cases observed
  exact .record present present.2 (by simp)
    (fun _ different => ⟨rfl, getElem?_insert_ne _ _ different⟩) sound

theorem tombstone_rows (idempotencyKey effectDigest resultJson : String) : RowEffect store tables
      (tombstone store env workspaceId idempotencyKey effectDigest resultJson tables).2 := by
  simp only [tombstone]
  split
  · exact .same
  split
  · exact .same
  split
  · exact .same
  apply inTransaction_related (RowEffect store) .same
  intro result written removed
  simp only [tombstoneTransaction, insertTombstone] at removed
  split at removed
  · split at removed
    · cases removed
    · cases removed
      exact .same
  split at removed
  · cases removed
  split at removed
  · cases removed
  · cases removed
  rename_i loaded
  split at removed
  · cases removed
  split at removed
  · cases removed
  rename_i inserted
  split at inserted
  · cases inserted
  cases inserted
  cases removed
  exact .removed (present_of_load loaded).1

theorem Reordered.refl (tables : Tables) : Reordered tables tables.placement :=
  ⟨fun _ => rfl, fun _ _ => rfl⟩

variable {updatedAtUnixMs : Int64} {placement : ExtTreeMap Uuid PlacementRow}

theorem applyLaneOrder_rows {order : List Uuid} {rank : ℕ} (reordered : Reordered tables placement)
    (live : ∀ id ∈ order, tables.tombstoned id = false)
    (applied : applyLaneOrder updatedAtUnixMs order rank { tables with placement := placement } =
      .ok written) :
    ∃ placement, Reordered tables placement ∧ written = { tables with placement := placement } := by
  induction order generalizing rank placement with
  | nil =>
    cases applied
    exact ⟨placement, reordered, rfl⟩
  | cons id rest ih =>
    simp only [applyLaneOrder] at applied
    split at applied
    · cases applied
    split at applied
    · cases applied
    rename_i row found
    refine ih ⟨?_, ?_⟩ (fun other member => live other (List.mem_cons_of_mem _ member)) applied
    · intro other
      rw [← reordered.modes other, ExtTreeMap.getElem?_insert]
      split
      · rename_i same
        rw [← Std.LawfulEqCmp.compare_eq_iff_eq.1 same, found]
        rfl
      rfl
    intro other removed
    have different : other ≠ id := by
      rintro rfl
      rw [live other List.mem_cons_self] at removed
      cases removed
    exact (getElem?_insert_ne _ _ different).trans (reordered.removed other removed)

theorem live_of_mem_lane {state : WorkspaceWorkflowState} {excluded : Option Uuid} {id : Uuid}
    (member : id ∈ loadLaneWorkspaceIds tables state excluded) : tables.tombstoned id = false := by
  simp only [loadLaneWorkspaceIds, laneRows, List.mem_map, List.mem_insertionSort,
    List.mem_filterMap] at member
  obtain ⟨_, ⟨entry, _, ranked⟩, rfl⟩ := member
  split at ranked
  · rename_i kept
    obtain ⟨_, _, rfl⟩ := Option.map_eq_some_iff.1 ranked
    exact Bool.eq_false_iff.2 kept.2.2
  cases ranked

variable {current : WorkspaceWorkflowSummary}

theorem present_of_requireRevision {expected : ℕ}
    (required : requireRevision store workspaceId expected tables = .ok current) :
    Present tables workspaceId ∧ loadWorkflow tables workspaceId = .ok current := by
  simp only [requireRevision] at required
  split at required
  · cases required
  next projected => grind [present_of_require projected]

variable {targetState : WorkspaceWorkflowState}

theorem persistWorkflowEvent_eq_ok
    (persisted : persistWorkflowEvent env workspaceId current targetState updatedAtUnixMs tables =
      .ok written) :
    ∃ changes : List WorkflowEvent,
      changes.map WorkflowEvent.change = stateChange workspaceId current.state targetState
        (current.revision + 1) ∧
        written = { tables with workflowEvents := tables.workflowEvents ++ changes } := by
  simp only [persistWorkflowEvent, insertWorkflowEvent] at persisted
  split at persisted
  · rename_i moved
    split at persisted
    · cases persisted
    cases persisted
    exact ⟨[_], (if_neg moved).symm, rfl⟩
  rename_i stays
  cases persisted
  exact ⟨[], (if_pos (not_not.1 stays)).symm, by rw [List.append_nil]⟩

theorem insertPlacementEvent_eq_ok {event : BoardPlacementEvent}
    (inserted : insertPlacementEvent event tables = .ok written) :
    written = { tables with placementEvents := tables.placementEvents ++ [event] } := by
  simp only [insertPlacementEvent] at inserted
  split at inserted
  · cases inserted
  cases inserted
  rfl

theorem persistWorkflowChange_rows {current summary : WorkspaceWorkflowSummary}
    {targetMode : WorkspaceBoardPlacementMode} {targetRank : ℕ} {eventType : BoardEventType}
    (present : Present tables workspaceId)
    (loaded : loadWorkflow tables workspaceId = .ok current) (reordered : Reordered tables placement)
    (persisted : persistWorkflowChange env workspaceId current targetState targetMode targetRank
      eventType updatedAtUnixMs { tables with placement := placement } = .ok (summary, written)) :
    RowEffect store tables written := by
  simp only [persistWorkflowChange, updateWorkflow, updatePlacement] at persisted
  split at persisted
  · cases persisted
  split at persisted
  · cases persisted
  split at persisted
  · cases persisted
  rename_i changed
  split at persisted
  · cases persisted
  rename_i inserted
  split at persisted
  · cases persisted
  rename_i updated
  split at persisted
  · cases persisted
  rename_i placed
  obtain ⟨changes, logged, rfl⟩ := persistWorkflowEvent_eq_ok changed
  obtain rfl := insertPlacementEvent_eq_ok inserted
  split at updated
  · cases updated
  cases updated
  split at placed
  · cases placed
  cases placed
  cases persisted
  exact .moved ⟨rfl, present, loaded, rfl, rfl, rfl⟩ reordered logged ⟨rfl, rfl, rfl⟩

theorem transitionWorkflow_rows (request : TransitionWorkspaceWorkflowRequest) :
    RowEffect store tables (transitionWorkflow store env workspaceId request tables).2 := by
  apply inTransaction_related (RowEffect store) .same
  intro summary written moved
  simp only [transitionWorkflowTransaction] at moved
  split at moved
  · cases moved
  rename_i required
  obtain ⟨present, loaded⟩ := present_of_requireRevision required
  split at moved
  · cases moved
    exact .same
  split at moved
  · cases moved
  split at moved
  · cases moved
  rename_i source
  split at moved
  · cases moved
  rename_i target
  obtain ⟨_, reordered, rfl⟩ := applyLaneOrder_rows (.refl _)
    (fun _ member => live_of_mem_lane member) source
  obtain ⟨_, reordered, rfl⟩ := applyLaneOrder_rows reordered (by
    intro id member
    rcases List.mem_append.1 member with lane | moved
    · exact (live_of_mem_lane lane :)
    rw [List.mem_singleton.1 moved]
    exact present.1) target
  exact persistWorkflowChange_rows present loaded reordered moved

theorem placeWorkspaceOnBoard_rows (request : PlaceWorkspaceOnBoardRequest) :
    RowEffect store tables (placeWorkspaceOnBoard store env workspaceId request tables).2 := by
  simp only [placeWorkspaceOnBoard]
  split
  · exact .same
  split
  · exact .same
  apply inTransaction_related (RowEffect store) .same
  intro summary written moved
  simp only [placeWorkspaceTransaction] at moved
  split at moved
  · cases moved
  rename_i required
  obtain ⟨present, loaded⟩ := present_of_requireRevision required
  split at moved
  · cases moved
  split at moved
  · cases moved
  split at moved
  · cases moved
  rename_i middle source
  have left : ∃ placement, Reordered tables placement ∧
      middle = { tables with placement := placement } := by
    split at source
    · exact applyLaneOrder_rows (.refl _) (fun _ member => live_of_mem_lane member) source
    cases source
    exact ⟨_, .refl _, rfl⟩
  obtain ⟨_, reordered, rfl⟩ := left
  split at moved
  · cases moved
  rename_i target
  obtain ⟨_, reordered, rfl⟩ := applyLaneOrder_rows reordered (by
    intro id member
    rcases List.eq_or_mem_of_mem_insertIdx member with rfl | lane
    · exact present.1
    exact live_of_mem_lane lane) target
  exact persistWorkflowChange_rows present loaded reordered moved

theorem followWorkspaceAgent_rows (request : FollowWorkspaceAgentRequest) :
    RowEffect store tables (followWorkspaceAgent store env workspaceId request tables).2 := by
  apply inTransaction_related (RowEffect store) .same
  intro summary written moved
  simp only [followWorkspaceTransaction] at moved
  split at moved
  · cases moved
  rename_i required
  obtain ⟨present, loaded⟩ := present_of_requireRevision required
  split at moved
  · cases moved
    exact .same
  split at moved
  · cases moved
  exact persistWorkflowChange_rows present loaded (.refl _) moved

theorem insertObservations_eq_ok {rows : List ObservationRow}
    (inserted : insertObservations rows tables = .ok written) :
    ∃ observations, written = { tables with observations := observations } := by
  induction rows generalizing tables with
  | nil =>
    cases inserted
    exact ⟨_, rfl⟩
  | cons row rest ih =>
    simp only [insertObservations, insertObservation] at inserted
    split at inserted
    · cases inserted
    rename_i first
    split at first
    · cases first
    cases first
    obtain ⟨observations, same⟩ := ih inserted
    exact ⟨observations, same⟩

theorem replaceObservedWorkItems_rows (observations : List ObservedWorkItem) :
    RowEffect store tables (replaceObservedWorkItems store workspaceId observations tables).2 := by
  simp only [replaceObservedWorkItems]
  split
  · exact .same
  rw [thenView_tables]
  apply inTransaction_related (RowEffect store) .same
  intro done written replaced
  simp only [replaceObservedTransaction] at replaced
  split at replaced
  · cases replaced
  split at replaced
  · cases replaced
  rename_i inserted
  cases replaced
  obtain ⟨_, rfl⟩ := insertObservations_eq_ok inserted
  exact .observed

end Wts.Store
