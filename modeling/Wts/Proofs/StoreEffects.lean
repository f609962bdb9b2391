/-
Module: Wts.Proofs.StoreEffects
Purpose: What one call can do to the tables, said once for all calls, and what follows for every run:
  the tables of the links agree, and every review thread decodes.
Trusted boundary: none
Main exports: HistoryStep, perform_history
-/
import Wts.Proofs.StoreCreate
import Wts.Proofs.StoreReviews

namespace Wts.Store

open Workspace

variable {store : WorkspaceStore} {env : CallEnv} {tables written : Tables}

/-- What a call can do to the tables. -/
inductive HistoryStep (store : WorkspaceStore) (tables : Tables) : Tables → Prop where
  | rows {written : Tables} (effect : RowEffect store tables written) : HistoryStep store tables written
  | linked {links} (step : LinkStep tables.links links) :
      HistoryStep store tables { tables with links := links }
  | reviewed {reviews} (step : ReviewsStep tables.reviews reviews) :
      HistoryStep store tables { tables with reviews := reviews }
  | created {workspaceId : Uuid} {event projected lifecycleRow row placed links}
      (step : LinkStep tables.links links)
      (initial : row.state = .ready ∧ placed.mode = .automatic ∧ row.workflowRevision = 1)
      (names : event.workspaceId = workspaceId)
      (fresh : ∀ other ∈ tables.createdEvents, other.workspaceId ≠ event.workspaceId ∧
        other.idempotencyKey ≠ event.idempotencyKey)
      (sound : Sound store { tables with
          projection := tables.projection.insert workspaceId projected
          lifecycle := tables.lifecycle.insert workspaceId lifecycleRow } workspaceId) :
      HistoryStep store tables
        { tables with
          createdEvents := tables.createdEvents ++ [event]
          projection := tables.projection.insert workspaceId projected
          lifecycle := tables.lifecycle.insert workspaceId lifecycleRow
          workflow := tables.workflow.insert workspaceId row
          placement := tables.placement.insert workspaceId placed
          links := links }

theorem createNew_history {idempotencyKey : Uuid} {request : CreateWorkspaceRequest}
    {decoded : DecodedProjection}
    (created : createNew store env idempotencyKey request tables = .ok (decoded, written)) :
    HistoryStep store tables written := by
  obtain ⟨_, _, new⟩ := createNew_eq_ok created
  have sound : Sound store written decoded.record.workspaceId := ⟨_, new.soundRows⟩
  simp only [createNew] at created
  repeat (split at created; · cases created)
  rename_i inserted
  cases created
  obtain ⟨event, rank, links, _, names, fresh, step, _, rfl⟩ := insertWorkspace_written inserted
  exact .created step ⟨rfl, rfl, rfl⟩ names fresh (sound.congr rfl rfl)

theorem create_history (key : String) (request : CreateWorkspaceRequest) :
    HistoryStep store tables (create store env key request tables).2 := by
  simp only [create]
  split
  · exact .rows .same
  split
  · exact .rows .same
  rw [thenView_tables]
  apply inTransaction_related (HistoryStep store) (.rows .same)
  intro result written created
  rcases createTransaction_eq_ok created with ⟨_, rfl⟩ | ⟨_, inserted⟩
  · exact .rows .same
  exact createNew_history inserted

/-- What any call may do to the tables. -/
theorem perform_history (call : Call) : HistoryStep store tables (perform store env tables call).2 := by
  cases call <;> simp only [perform]
  case create key request => exact create_history key request
  case rename workspaceId request => exact .rows (rename_rows request)
  case addRepository workspaceId repository => exact .rows (addRepository_rows repository)
  case removeRepository workspaceId repositoryId =>
    exact .rows (removeRepository_rows repositoryId)
  case observeLifecycle workspaceId materializationState worktreeCount =>
    exact .rows (observeLifecycle_rows materializationState worktreeCount)
  case tombstone workspaceId key effectDigest resultJson =>
    exact .rows (tombstone_rows key effectDigest resultJson)
  case transitionWorkflow workspaceId request => exact .rows (transitionWorkflow_rows request)
  case placeWorkspaceOnBoard workspaceId request =>
    exact .rows (placeWorkspaceOnBoard_rows request)
  case followWorkspaceAgent workspaceId request => exact .rows (followWorkspaceAgent_rows request)
  case confirmWorkItemLink workspaceId key previewDigest provider role snapshot =>
    obtain ⟨links, written, step⟩ := confirmWorkItemLink_step key previewDigest provider role snapshot
    rw [written]
    exact .linked step
  case unlinkWorkItemLink workspaceId linkId expectedRevision =>
    obtain ⟨links, written, step⟩ := unlinkWorkItemLink_step linkId expectedRevision
    rw [written]
    exact .linked step
  case createReviewThread workspaceId target author body =>
    obtain ⟨reviews, written, step⟩ := createReviewThread_step target author body
    rw [written]
    exact .reviewed step
  case resolveReviewThread workspaceId threadId expectedRevision =>
    obtain ⟨reviews, written, step⟩ := resolveReviewThread_step expectedRevision
    rw [written]
    exact .reviewed step
  case replaceObservedWorkItems workspaceId observations =>
    exact .rows (replaceObservedWorkItems_rows observations)

theorem HistoryStep.linkStep (step : HistoryStep store tables written) :
    LinkStep tables.links written.links := by
  cases step with
  | rows effect =>
    rw [effect.documents.links]
    exact .same
  | linked step => exact step
  | reviewed => exact .same
  | created step => exact step

theorem run_linksAgree (store : WorkspaceStore) (calls : List (Call × CallEnv)) :
    LinksAgree (run store calls Tables.empty).links :=
  run_invariant (fun tables => LinksAgree tables.links)
    (fun _ _ call agree => agree.step (perform_history call).linkStep) calls .empty

theorem HistoryStep.reviewsStep (step : HistoryStep store tables written) :
    ReviewsStep tables.reviews written.reviews := by
  cases step with
  | rows effect =>
    rw [effect.documents.reviews]
    exact .same
  | linked => exact .same
  | reviewed step => exact step
  | created => exact .same

theorem run_reviewsSound_of (calls : List (Call × CallEnv)) (sound : ReviewsSound tables.reviews) :
    ReviewsSound (run store calls tables).reviews :=
  run_invariant (fun tables => ReviewsSound tables.reviews)
    (fun _ _ call sound => sound.step (perform_history call).reviewsStep) calls sound

theorem run_reviewsSound (store : WorkspaceStore) (calls : List (Call × CallEnv)) :
    ReviewsSound (run store calls Tables.empty).reviews :=
  run_reviewsSound_of calls .empty

theorem HistoryStep.createdEvents (step : HistoryStep store tables written) :
    ∃ added, written.createdEvents = tables.createdEvents ++ added := by
  cases step with
  | rows effect => exact ⟨[], by rw [effect.documents.created, List.append_nil]⟩
  | linked | reviewed => exact ⟨[], (List.append_nil _).symm⟩
  | created => exact ⟨_, rfl⟩

end Wts.Store
